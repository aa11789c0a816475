import ObjectGrants.Enrichment
import ObjectGrants.Retry

/-!
Sending a checked batch to the authority, one request for each content type, all at the same
time.

Every group of the batch has a lane of its own, on which its call is made, answered and
perhaps repeated. The lanes share one clock: the earliest event of all lanes happens first,
and of several at the same moment the one whose content type comes first. In fail-fast mode
the first failure ends everything there and then; in partial-success mode every lane runs to
its end.
-/

namespace ObjectGrants

namespace Dispatch

/-- Where a lane stands. `left` counts the repetitions that are still allowed. -/
inductive Phase (σ : Type) where
  /-- The next call is due. -/
  | due (time left : Nat)
  /-- A call has been made and its answer is under way. -/
  | inFlight (time left : Nat) (finish : σ → Except Fault (List SignedGrant) × σ)
  /-- There is nothing left to do. -/
  | settled (result : Except Fault (List SignedGrant))

namespace Phase

variable {σ : Type}

/-- The moment of the next event. -/
def time? : Phase σ → Option Nat
  | due time _ => some time
  | inFlight time _ _ => some time
  | settled _ => none

/-- The most events that can still happen: a call and an answer for every attempt. -/
def weight : Phase σ → Nat
  | due _ left => 2 * left + 2
  | inFlight _ left _ => 2 * left + 1
  | settled _ => 0

/-- The failure that a lane has ended with. -/
def fault? : Phase σ → Option Fault
  | settled (.error fault) => some fault
  | _ => none

/-- The phase after an answer that arrived at a time. -/
def answered (policy : RetryPolicy) (time left : Nat) (answer : Except Fault (List SignedGrant))
    : Phase σ :=
  match answer, left with
  | .error fault, left + 1 =>
      if fault.isRetryable policy.transientCodes then
        due (time + policy.backoff (policy.retries - (left + 1))) left
      else settled answer
  | _, _ => settled answer

end Phase

/-- What all lanes have in common. -/
structure Setting (σ : Type) where
  authority : Authority σ
  serviceName : String
  policy : RetryPolicy
  correlation : CorrelationId

/-- One group of a batch and where it stands. -/
structure Lane (σ : Type) where
  contentType : String
  requests : List EnrichedRequest
  phase : Phase σ

variable {σ : Type}

/-- The call for a group. -/
def Setting.call (setting : Setting σ) (requests : List EnrichedRequest) : Call :=
  .bulkUpload (requests.map (UploadDescriptor.ofRequest setting.serviceName))

/-- The lanes of a batch before anything has happened. -/
def lanes (setting : Setting σ) (batch : List EnrichedRequest) : List (Lane σ) :=
  (Partition.ofBatch batch).map fun (contentType, requests) =>
    { contentType, requests, phase := .due 0 setting.policy.retries }

/-- The most events that can still happen on some lanes. -/
def weight (lanes : List (Lane σ)) : Nat :=
  lanes.foldr (fun lane total => lane.phase.weight + total) 0

/-- The moment of the next event on some lanes. -/
def nextTime? (lanes : List (Lane σ)) : Option Nat :=
  (lanes.filterMap (·.phase.time?)).min?

/-- What an event has changed, and the calls made by it. -/
structure Fired (σ α : Type) where
  subject : α
  calls : List CallRecord
  state : σ

/-- The next event on a lane. -/
def Lane.fire (setting : Setting σ) (lane : Lane σ) (state : σ) : Fired σ (Lane σ) :=
  match lane.phase with
  | .due time left =>
      let pending := setting.authority.accept setting.correlation
        (.bulkUpload (lane.requests.map (UploadDescriptor.ofRequest setting.serviceName))) state
      { subject :=
          { lane with phase := .inFlight (time + pending.delay) left pending.finish }
        calls := [⟨time, setting.correlation, setting.call lane.requests⟩]
        state := pending.state }
  | .inFlight time left finish =>
      let (answer, state) := finish state
      { subject := { lane with phase := .answered setting.policy time left answer }
        calls := [], state }
  | .settled _ => { subject := lane, calls := [], state }

/-- The next event on the first of some lanes for which it is due at a time. -/
def fireAt (setting : Setting σ) (time : Nat) (state : σ)
    : List (Lane σ) → Fired σ (List (Lane σ))
  | [] => { subject := [], calls := [], state }
  | lane :: rest =>
      if lane.phase.time? = some time then
        let fired := lane.fire setting state
        { fired with subject := fired.subject :: rest }
      else
        let fired := fireAt setting time state rest
        { fired with subject := lane :: fired.subject }

/-- How a dispatch has ended. -/
structure Outcome (σ : Type) where
  lanes : List (Lane σ)
  time : Nat
  calls : List CallRecord
  state : σ

/-- Lets at most `events` events happen, from a time on. A failure ends everything if
`failFast` is set. -/
def proceed (setting : Setting σ) (failFast : Bool)
    : (events : Nat) → (time : Nat) → List (Lane σ) → σ → Outcome σ
  | 0, time, lanes, state => { lanes, time, calls := [], state }
  | events + 1, time, lanes, state =>
      match nextTime? lanes with
      | none => { lanes, time, calls := [], state }
      | some next =>
          let fired := fireAt setting next state lanes
          if failFast && fired.subject.any (·.phase.fault?.isSome) then
            { lanes := fired.subject, time := next, calls := fired.calls, state := fired.state }
          else
            let rest := proceed setting failFast events next fired.subject fired.state
            { rest with calls := fired.calls ++ rest.calls }

/-- Lets events happen until every lane is settled, or the first failure. -/
def run (setting : Setting σ) (failFast : Bool) (batch : List EnrichedRequest) (state : σ)
    : Outcome σ :=
  let lanes := lanes setting batch
  proceed setting failFast (weight lanes) 0 lanes state

/-- The grants that a lane has obtained. -/
def Lane.grants (lane : Lane σ) : List SignedGrant :=
  match lane.phase with
  | .settled (.ok grants) => grants
  | _ => []

end Dispatch

/-- A group of a batch whose request failed. -/
structure PartitionFailure where
  contentType : String
  identifiers : List String
  fault : Fault
  deriving DecidableEq, Repr

/-- What a dispatch in partial-success mode gives. -/
structure BatchOutcome where
  grants : List SignedGrant
  failures : List PartitionFailure
  deriving DecidableEq, Repr

/-- Whether no group failed. -/
def BatchOutcome.isComplete (outcome : BatchOutcome) : Bool :=
  outcome.failures.isEmpty

namespace Dispatch

variable {σ : Type}

/-- The failure of a lane that has failed. -/
def Lane.failure? (lane : Lane σ) : Option PartitionFailure :=
  lane.phase.fault?.map fun fault =>
    { contentType := lane.contentType, identifiers := lane.requests.map (·.identifier), fault }

/-- The operation that runs the lanes of a batch. A moment of a lane is counted from the start
of the operation. -/
def operation {α : Type} (setting : Setting σ) (failFast : Bool)
    (batch : List EnrichedRequest) (result : List (Lane σ) → Except Fault α)
    : Operation σ α :=
  if batch.isEmpty then Operation.ofResult (.error (.invalidRequest .nothingToSend))
  else Operation.ofTimed fun _ now state =>
    let outcome := run setting failFast batch state
    { outcome := .ok (result outcome.lanes)
      elapsed := outcome.time
      calls := outcome.calls.map fun record => { record with time := now + record.time }
      state := outcome.state }

/-- Obtains the grants of a whole batch, in the order of the content types; any failure fails
the batch. -/
def requestAll (setting : Setting σ) (batch : List EnrichedRequest)
    : Operation σ (List SignedGrant) :=
  operation setting true batch fun lanes =>
    match lanes.findSome? (·.phase.fault?) with
    | some fault => .error fault
    | none => .ok (lanes.flatMap (·.grants))

/-- Obtains the grants of a batch and keeps those of the groups that succeed. -/
def requestPartial (setting : Setting σ) (batch : List EnrichedRequest)
    : Operation σ BatchOutcome :=
  operation setting false batch fun lanes =>
    .ok { grants := lanes.flatMap (·.grants), failures := lanes.filterMap (·.failure?) }

end Dispatch

end ObjectGrants
