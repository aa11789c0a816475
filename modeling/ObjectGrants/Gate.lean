import ObjectGrants.Moment
import ObjectGrants.Retry

/-!
The gate in front of downloads. It opens when the authority reports success for every upload
asked about. A failed upload closes it for good, and anything else keeps it shut for now.

The gate can be asked once, or be waited for: then it is asked again and again until it
opens or is closed for good, until a deadline, or until the wait is cancelled. A wait sets
timers, and panics where a time does not fit into one.
-/

namespace ObjectGrants

namespace Gate

/-- The last report about a token. -/
def lastReport? (reports : List TokenStatus) (token : String) : Option TokenStatus :=
  reports.reverse.find? (·.token == token)

/-- The decision on some tokens by the last report about each. A failed upload outweighs
pending ones, and a token without a report counts as pending. -/
def judge (tokens : List String) (reports : List TokenStatus) : Except Fault Unit :=
  let last := tokens.filterMap (lastReport? reports)
  let unreported := tokens.any fun token => (lastReport? reports token).isNone
  if last.any (·.status.isDenied) then .error (.denied last)
  else if unreported || last.any (!·.status.isSuccess) then .error (.notReady last)
  else .ok ()

/-- How a wait ends: like a check, or with a panic. -/
abbrev Waited (σ : Type) := Ended σ Empty (Except Fault (Except Panic Unit))

/-- Why a wait ends without a decision. -/
inductive Interruption where
  | deadline
  | cancelled
  deriving DecidableEq, Repr

/-- The horizon of a wait. The deadline itself is still within it; the moment of cancellation
is not. -/
def waitHorizon (deadline : Nat) (cancel : Option Nat) : Horizon Interruption where
  cut? time :=
    match cancel.filter fun moment => moment ≤ time && moment ≤ deadline with
    | some moment => some (moment, .cancelled)
    | none => if deadline < time then some (deadline, .deadline) else none

end Gate

/-- A gate: whom it asks, how often it is asked in a wait, and how failed checks are
repeated. -/
structure Gate (σ : Type) where
  authority : Authority σ
  pollInterval : Nat
  pollInterval_pos : 0 < pollInterval
  policy : RetryPolicy

namespace Gate

variable {σ ε : Type}

/-- Asks once about the status of some tokens. -/
def check (gate : Gate σ) (correlation : CorrelationId) (tokens : List String)
    : Timed σ ε (Except Fault Unit) :=
  if tokens.isEmpty then pure (.error (.invalidRequest .noTokens))
  else do
    match ← gate.policy.run (Timed.call gate.authority correlation (.uploadCheck tokens)) with
    | .ok reports => pure (judge tokens reports)
    | .error fault => pure (.error fault)

/-- Asks once about the status of some tokens; succeeds if all uploads have. -/
def ensureReady (gate : Gate σ) (correlation : CorrelationId) (tokens : List String)
    : Operation σ Unit :=
  Operation.ofTimed (gate.check correlation tokens)

/-- The fault of a wait that was cancelled. -/
def cancelled (correlation : CorrelationId) : Fault :=
  .unavailable ⟨.uploadCheck, correlation⟩ .waitCancelled

/-- The fault of a wait that has reached its deadline: the last reports of pending uploads,
if a check has given any. -/
def overdue (correlation : CorrelationId) : Option (List TokenStatus) → Fault
  | some reports => .notReady reports
  | none => .unavailable ⟨.uploadCheck, correlation⟩ .noCheckFinished

/-- What a check means for a wait: it decides, or the wait goes on with its reports. -/
inductive Verdict where
  | decided (result : Except Fault Unit)
  | pending (reports : List TokenStatus)

/-- Whether a check ends a wait. -/
def Verdict.ofCheck (correlation : CorrelationId) (last : Option (List TokenStatus))
    : Except Interruption (Except Fault Unit) → Verdict
  | .error .cancelled => .decided (.error (cancelled correlation))
  | .error .deadline => .decided (.error (overdue correlation last))
  | .ok (.error (.notReady reports)) => .pending reports
  | .ok result => .decided result

/-- One round of a wait after the other, from the time `now` on; `last` holds the reports of
the last round. A round asks once. It is followed by a sleep that ends at the deadline at the
latest, and then by another round unless the deadline has passed before. The end of a whole
interval has to fit into a timer even where the deadline comes before it. -/
def waitFrom (gate : Gate σ) (clock : Clock) (correlation : CorrelationId)
    (tokens : List String) (cancel : Option Nat) (deadline : Nat)
    (last : Option (List TokenStatus)) (now : Nat) (state : σ)
    : Waited σ :=
  let horizon := waitHorizon deadline cancel
  if (horizon.cut? now).isSome then
    { outcome := .ok (.error (cancelled correlation)), elapsed := 0, calls := [], state }
  else
    let round := gate.check correlation tokens horizon now state
    let stop (result : Except Fault (Except Panic Unit)) (elapsed : Nat) : Waited σ :=
      { outcome := .ok result, elapsed, calls := round.calls, state := round.state }
    match Verdict.ofCheck correlation last round.outcome with
    | .decided result => stop (result.map .ok) round.elapsed
    | .pending reports =>
        if deadline ≤ now + round.elapsed then stop (.error (.notReady reports)) round.elapsed
        else if clock.lastTime < now + round.elapsed + gate.pollInterval then
          stop (.ok (.error .timeOverflow)) round.elapsed
        else
          let wake := min (now + round.elapsed + gate.pollInterval) deadline
          match horizon.cut? wake with
          | some (moment, _) => stop (.error (cancelled correlation)) (moment - now)
          | none =>
              let rest := gate.waitFrom clock correlation tokens cancel deadline (some reports)
                wake round.state
              { rest with
                elapsed := (wake - now) + rest.elapsed
                calls := round.calls ++ rest.calls }
termination_by deadline - now
decreasing_by
  have := gate.pollInterval_pos
  omega

/-- Waits until every upload has succeeded or one has failed, for `timeout` at most. The
moment of cancellation is counted from the start of the wait. A deadline that does not fit
into a timer is a panic before anything is looked at. -/
def waitUntilReady (gate : Gate σ) (clock : Clock) (correlation : CorrelationId)
    (tokens : List String) (timeout : Nat) (cancel : Option Nat)
    : Operation σ (Except Panic Unit) :=
  Operation.ofTimed fun _ now state =>
    if clock.lastTime < now + timeout then
      { outcome := .ok (.ok (.error .timeOverflow)), elapsed := 0, calls := [], state }
    else
      gate.waitFrom clock correlation tokens (cancel.map (now + ·)) (now + timeout) none now state

end Gate

end ObjectGrants
