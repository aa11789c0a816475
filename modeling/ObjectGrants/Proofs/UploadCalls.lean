import Mathlib.Data.List.Nodup
import ObjectGrants.Proofs.BatchModes
import ObjectGrants.Proofs.Calls

/-! What the authority is sent for an upload batch: the batch, divided by content type, and
nothing else. A lane makes one call for each of its attempts, and they are all the same.
-/

namespace ObjectGrants

variable {σ : Type}

/-- A request is for one content type only. -/
theorem UploadDescriptor.AllOf.unique {first second : String}
    {descriptors : List UploadDescriptor} (own : AllOf first descriptors)
    (other : AllOf second descriptors)
    : first = second := by
  obtain ⟨descriptor, member⟩ := List.exists_mem_of_ne_nil _ own.nonempty
  exact (own.same descriptor member).symm.trans (other.same descriptor member)

namespace Dispatch

-----------------------------------------------------------------------------------------
-- Attempts of one lane
-----------------------------------------------------------------------------------------

/-- A lane in some phase has made `count` calls, if `retries` of them may be repetitions. -/
def Phase.Spent (retries count : Nat) : Phase σ → Prop
  | .due _ left => count + left = retries
  | .inFlight _ left _ => 0 < count ∧ count + left = retries + 1
  | .settled _ => 0 < count ∧ count ≤ retries + 1

theorem Phase.Spent.bounded {phase : Phase σ} {retries count : Nat}
    (spent : phase.Spent retries count)
    : count ≤ retries + 1 := by
  cases phase with
  | due time left =>
      change count + left = retries at spent
      omega
  | inFlight time left finish =>
      have total : count + left = retries + 1 := spent.2
      omega
  | settled result => exact spent.2

/-- A lane with nothing left to do has made a call. -/
theorem Phase.Spent.positive {phase : Phase σ} {retries count : Nat}
    (spent : phase.Spent retries count) (past : phase.time? = none)
    : 0 < count := by
  cases phase with
  | due time left => exact nomatch past
  | inFlight time left finish => exact nomatch past
  | settled result => exact spent.1

/-- An answer adds no call. A repetition that it leads to is one of those that were left. -/
theorem Phase.answered_spent {policy : RetryPolicy} {time left count : Nat}
    (answer : Except Fault (List SignedGrant)) (called : 0 < count)
    (total : count + left = policy.retries + 1)
    : (Phase.answered policy time left answer : Phase σ).Spent policy.retries count := by
  unfold Phase.answered
  split
  · split
    · change count + _ = policy.retries
      omega
    · exact ⟨called, by omega⟩
  · exact ⟨called, by omega⟩

/-- The calls that a lane has made count those of its next event. -/
theorem Lane.fire_spent (setting : Setting σ) {lane : Lane σ} {count : Nat}
    (spent : lane.phase.Spent setting.policy.retries count) (state : σ)
    : let fired := lane.fire setting state
      fired.subject.phase.Spent setting.policy.retries (count + fired.calls.length) := by
  cases phase : lane.phase with
  | due time left =>
      rw [phase] at spent
      rw [lane.fire_due setting phase]
      change count + left = setting.policy.retries at spent
      refine ⟨Nat.succ_pos count, ?_⟩
      change count + 1 + left = setting.policy.retries + 1
      omega
  | inFlight time left finish =>
      rw [phase] at spent
      rw [lane.fire_inFlight setting phase]
      exact Phase.answered_spent _ spent.1 spent.2
  | settled result =>
      rw [phase] at spent
      simpa [Lane.fire, phase] using spent

-----------------------------------------------------------------------------------------
-- Attempts of all lanes
-----------------------------------------------------------------------------------------

/-- How often the requests of a lane are asked for in a log. -/
def Setting.callsFor (setting : Setting σ) (log : List CallRecord) (lane : Lane σ) : Nat :=
  log.countP (·.call = setting.call lane.requests)

/-- Groups of different content types are asked for in different calls. -/
theorem Sorted.call_ne {setting : Setting σ} {groups : Partition}
    (sorted : Sorted setting groups) {first second : String × List EnrichedRequest}
    (member : first ∈ groups) (other : second ∈ groups) (unlike : first.1 ≠ second.1)
    : setting.call first.2 ≠ setting.call second.2 := by
  intro same
  have descriptors := Call.bulkUpload.inj same
  exact unlike ((sorted.uniform first member).unique
    (descriptors ▸ sorted.uniform second other))

/-- Every lane has made the calls that a log has for it. -/
structure Counted (setting : Setting σ) (log : List CallRecord) (lanes : List (Lane σ))
    : Prop where
  sorted : Sorted setting (lanes.map Lane.group)
  spent : ∀ lane ∈ lanes, lane.phase.Spent setting.policy.retries (setting.callsFor log lane)

/-- The calls of an event on a lane are all for that lane. -/
theorem Setting.callsFor_own (setting : Setting σ) (log : List CallRecord) (lane : Lane σ)
    (state : σ)
    : setting.callsFor (log ++ (lane.fire setting state).calls) (lane.fire setting state).subject
      = setting.callsFor log lane + (lane.fire setting state).calls.length := by
  have requests : (lane.fire setting state).subject.requests = lane.requests :=
    congrArg Prod.snd (lane.fire_group setting state)
  rw [callsFor, callsFor, requests, List.countP_append, Nat.add_left_cancel_iff,
    List.countP_eq_length]
  intro record made
  obtain ⟨time, rfl⟩ := Lane.fire_calls made
  exact decide_eq_true rfl

/-- None of them is for a lane that makes another call. -/
theorem Setting.callsFor_other {setting : Setting σ} {lane other : Lane σ}
    (unlike : setting.call lane.requests ≠ setting.call other.requests) (log : List CallRecord)
    (state : σ)
    : setting.callsFor (log ++ (lane.fire setting state).calls) other
      = setting.callsFor log other := by
  rw [callsFor, callsFor, List.countP_append, Nat.add_eq_left, List.countP_eq_zero]
  intro record made same
  obtain ⟨time, rfl⟩ := Lane.fire_calls made
  exact unlike (of_decide_eq_true same)

/-- Lanes stay counted when something happens on one of them. -/
theorem Counted.fireAt {setting : Setting σ} {log : List CallRecord} {lanes : List (Lane σ)}
    (counted : Counted setting log lanes) {time : Nat} (next : nextTime? lanes = some time)
    (state : σ)
    : let fired := fireAt setting time state lanes
      Counted setting (log ++ fired.calls) fired.subject := by
  obtain ⟨before, lane, behind, rfl, due, early, _⟩ := nextTime?_split next
  have groups := fireAt_group setting time state (before ++ lane :: behind)
  obtain ⟨sorted, spent⟩ := counted
  refine ⟨groups ▸ sorted, ?_⟩
  rw [fireAt_split due fun other member same => Nat.lt_irrefl _ (early other member _ same)]
  have here : lane ∈ before ++ lane :: behind := by simp
  have kept (other : Lane σ) (member : other ∈ before ++ lane :: behind)
      (unlike : lane.contentType ≠ other.contentType)
      : other.phase.Spent setting.policy.retries
          (setting.callsFor (log ++ (lane.fire setting state).calls) other) := by
    have calls := sorted.call_ne (List.mem_map_of_mem here) (List.mem_map_of_mem member) unlike
    rw [Setting.callsFor_other calls]
    exact spent other member
  obtain ⟨smaller, greater⟩ := sorted.split
  intro other member
  rcases List.mem_append.mp member with ahead | rest
  · exact kept other (List.mem_append_left _ ahead)
      fun same => String.lt_irrefl _ (same ▸ smaller other ahead)
  · rcases List.mem_cons.mp rest with rfl | behindLane
    · rw [setting.callsFor_own]
      exact lane.fire_spent setting (spent lane here) state
    · exact kept other (by simp [behindLane])
        fun same => String.lt_irrefl _ (same ▸ greater other behindLane)

/-- Lanes stay counted throughout a dispatch, by induction on the events that are left. -/
theorem Counted.proceed {setting : Setting σ} {failFast : Bool} {events time : Nat}
    {log : List CallRecord} {lanes : List (Lane σ)} (counted : Counted setting log lanes)
    (state : σ)
    : let outcome := proceed setting failFast events time lanes state
      Counted setting (log ++ outcome.calls) outcome.lanes := by
  induction events generalizing time log lanes state with
  | zero => simpa [Dispatch.proceed] using counted
  | succ events ih =>
      unfold Dispatch.proceed
      cases next : nextTime? lanes with
      | none => simpa using counted
      | some moment =>
          have onwards := counted.fireAt next state
          dsimp only
          split
          · exact onwards
          · rw [← List.append_assoc]
            exact ih onwards _

/-- Unless a failure stops it, a dispatch leaves no lane with anything to do. Witness: induction
on the events that are left, of which there are enough for all lanes.
-/
theorem proceed_settles (setting : Setting σ) (failFast : Bool) {events time : Nat}
    {lanes : List (Lane σ)} (state : σ) (enough : weight lanes ≤ events)
    : let outcome := proceed setting failFast events time lanes state
      (∀ lane ∈ outcome.lanes, lane.phase.time? = none)
      ∨ (failFast = true ∧ ¬ Unfailed outcome.lanes) := by
  induction events generalizing time lanes state with
  | zero => exact .inl (time?_of_nextTime? (nextTime?_of_weight (Nat.le_zero.mp enough)))
  | succ events ih =>
      rw [proceed]
      cases next : nextTime? lanes with
      | none => exact .inl (time?_of_nextTime? next)
      | some moment =>
          have fewer := fireAt_weight setting state next
          dsimp only
          split
          · next stops =>
              obtain ⟨fast, failed⟩ := Bool.and_eq_true_iff.mp stops
              exact .inr ⟨fast, any_fault_iff.mp failed⟩
          · exact ih _ (by omega)

/-- When a dispatch has ended, each lane has made the calls that are in its log. -/
theorem run_counted (setting : Setting σ) (failFast : Bool) (batch : List EnrichedRequest)
    (state : σ)
    : let outcome := run setting failFast batch state
      Counted setting outcome.calls outcome.lanes := by
  have begins : Counted setting [] (lanes setting batch) := by
    refine ⟨lanes_group setting batch ▸ ofBatch_sorted setting batch, fun lane member => ?_⟩
    rw [lanes_phase member]
    exact Nat.zero_add _
  exact begins.proceed state

end Dispatch

-----------------------------------------------------------------------------------------
-- The calls for a batch
-----------------------------------------------------------------------------------------

/-- What the authority is told about a request: its identifier, file name and public flag, and the
limits of its category, made for its content type.
-/
def UploadRequest.descriptor (category : Category) (serviceName : String)
    (request : UploadRequest)
    : UploadDescriptor where
  identifier := request.identifier
  fileName := request.fileName
  serviceName := serviceName
  category := category
  isPublic := request.isPublic
  metadata := category.template.metadata.withContentType request.contentType

/-- The identifiers that the authority is asked for in a call. -/
def Call.identifiers : Call → List String
  | .bulkUpload descriptors => descriptors.map (·.identifier)
  | _ => []

namespace Broker

/-- The call for the requests of one content type: a descriptor for each of them, in their order.
-/
def groupCall (broker : Broker σ) (category : Category) (requests : List UploadRequest)
    (contentType : String)
    : Call :=
  .bulkUpload ((requests.filter (·.contentType == contentType)).map
    (·.descriptor category broker.serviceName))

/-- Calls are for a batch, divided by content type: each is for one group, there are no more for a
group than attempts, and no identifier is in the calls for two of them.
-/
structure SendsBatch (broker : Broker σ) (category : Category) (requests : List UploadRequest)
    (calls : List CallRecord)
    : Prop where
  grouped
    : ∀ record ∈ calls,
        ∃ contentType ∈ requests.map (·.contentType),
          record.call = broker.groupCall category requests contentType
  bounded
    : ∀ contentType ∈ requests.map (·.contentType),
        calls.countP (·.call = broker.groupCall category requests contentType)
          ≤ broker.policy.retries + 1
  apart
    : ∀ first ∈ calls, ∀ second ∈ calls, ∀ identifier,
        identifier ∈ first.call.identifiers
        → identifier ∈ second.call.identifiers
        → first.call = second.call

/-- No calls at all are for any batch. -/
theorem SendsBatch.nil (broker : Broker σ) (category : Category) (requests : List UploadRequest)
    : broker.SendsBatch category requests [] :=
  ⟨nofun, fun _ _ => Nat.zero_le _, nofun⟩

/-- The call of a lane is that for its group of the requests. -/
theorem call_ofType (broker : Broker σ) (correlation : CorrelationId) (category : Category)
    (requests : List UploadRequest) (contentType : String)
    : (broker.setting correlation).call
        (EnrichedRequest.ofType contentType (requests.map (·.enriched category)))
      = broker.groupCall category requests contentType := by
  rw [EnrichedRequest.ofType, List.filter_map, Dispatch.Setting.call, List.map_map, groupCall]
  simp only [Function.comp_def, UploadRequest.enriched_contentType]
  rfl

/-- In both batch modes the grants of a batch are requested by a dispatch, which has run its whole
course if it gives any.
-/
theorem requestGrants_dispatches (broker : Broker σ) (correlation : CorrelationId)
    {batch : List EnrichedRequest} (nonempty : batch ≠ []) (start : Nat) (state : σ)
    : ∃ failFast,
        let outcome := Dispatch.run (broker.setting correlation) failFast batch state
        let ended := (broker.requestGrants correlation batch).runAt start state
        ended.calls = outcome.calls.map (.after start)
        ∧ ∀ result,
            ended.value = .ok result → ∀ lane ∈ outcome.lanes, lane.phase.time? = none := by
  let setting := broker.setting correlation
  have ends (failFast : Bool)
      : let outcome := Dispatch.run setting failFast batch state
        (∀ lane ∈ outcome.lanes, lane.phase.time? = none)
        ∨ (failFast = true ∧ ¬ Dispatch.Unfailed outcome.lanes) :=
    Dispatch.proceed_settles setting failFast state (Nat.le_refl _)
  cases mode : broker.batchMode with
  | failFast =>
      rw [requestGrants_of_failFast mode, Operation.runAt_bind_ofResult, Dispatch.requestAll,
        Dispatch.operation_runAt _ _ nonempty]
      refine ⟨true, rfl, fun result given => (ends true).resolve_right fun stopped => ?_⟩
      -- A failure would have been the result.
      obtain ⟨grants, obtained, _⟩ := Traversal.bind_eq_ok_iff.mp given
      rw [← Dispatch.findSome?_fault_eq_none_iff] at stopped
      obtain ⟨fault, first⟩ := Option.ne_none_iff_exists'.mp stopped.2
      simp only [Ended.value, setting, first] at obtained
      cases obtained
  | partialSuccess =>
      rw [requestGrants_of_partialSuccess mode, Dispatch.requestPartial,
        Dispatch.operation_runAt _ _ nonempty]
      refine ⟨false, rfl, fun result _ => (ends false).resolve_right fun stopped => ?_⟩
      cases stopped.1

/-- A call for a group of requests is one for all of its identifiers. -/
theorem mem_groupCall_identifiers {broker : Broker σ} {category : Category}
    {requests : List UploadRequest} {contentType identifier : String}
    : identifier ∈ (broker.groupCall category requests contentType).identifiers
      ↔ ∃ request ∈ requests,
          request.contentType = contentType ∧ request.identifier = identifier := by
  simp [groupCall, Call.identifiers, UploadRequest.descriptor, and_assoc]

/-- Each content type of the requests has a lane, on which the call for its group is made. -/
theorem exists_lane (broker : Broker σ) (correlation : CorrelationId) (category : Category)
    {requests : List UploadRequest} {contentType : String}
    (present : contentType ∈ requests.map (·.contentType)) (failFast : Bool) (state : σ)
    : ∃ lane
        ∈ (Dispatch.run (broker.setting correlation) failFast
            (requests.map (·.enriched category)) state).lanes,
        (broker.setting correlation).call lane.requests
        = broker.groupCall category requests contentType := by
  let batch := requests.map (·.enriched category)
  obtain ⟨request, member, own⟩ := List.mem_map.mp present
  have divides := Partition.ofBatch_keys batch
  have known : contentType ∈ (Partition.ofBatch batch).map (·.1) :=
    (divides.present contentType).mpr ⟨request.enriched category, List.mem_map_of_mem member,
      (UploadRequest.enriched_contentType category request).trans own⟩
  have group := List.mem_map_of_mem (f := Partition.group batch) known
  rw [← divides.groups_eq, ← Dispatch.run_group (broker.setting correlation) failFast batch state]
    at group
  obtain ⟨lane, among, same⟩ := List.mem_map.mp group
  refine ⟨lane, among, ?_⟩
  rw [show lane.requests = EnrichedRequest.ofType contentType batch from congrArg Prod.snd same]
  exact broker.call_ofType correlation category requests contentType

/-- Every call for a batch is that for the requests of one of its content types. -/
theorem requestGrants_grouped (broker : Broker σ) (correlation : CorrelationId)
    (category : Category) (requests : List UploadRequest)
    : (broker.requestGrants correlation (requests.map (·.enriched category))).CallsOnly
        fun record =>
          ∃ contentType ∈ requests.map (·.contentType),
            record.call = broker.groupCall category requests contentType := by
  refine (broker.requestGrants_callsOnly correlation _).mono fun record asked => ?_
  obtain ⟨group, member, time, rfl⟩ := asked
  have divides := Partition.ofBatch_keys (requests.map (·.enriched category))
  obtain ⟨enriched, among, own⟩ := (divides.present _).mp (List.mem_map_of_mem member)
  obtain ⟨request, given, rfl⟩ := List.mem_map.mp among
  rw [UploadRequest.enriched_contentType] at own
  refine ⟨group.1, List.mem_map.mpr ⟨request, given, own⟩, ?_⟩
  rw [← broker.call_ofType correlation, ← Dispatch.ofBatch_ofType member]
  rfl

/-- There are no more calls for one content type than attempts, and one at least if grants are
given.
-/
theorem requestGrants_counted (broker : Broker σ) (correlation : CorrelationId)
    (category : Category) {requests : List UploadRequest} {contentType : String}
    (present : contentType ∈ requests.map (·.contentType)) (start : Nat) (state : σ)
    : let ended := (broker.requestGrants correlation (requests.map (·.enriched category))).runAt
        start state
      let count :=
        ended.calls.countP (·.call = broker.groupCall category requests contentType)
      count ≤ broker.policy.retries + 1
      ∧ ∀ result, ended.value = .ok result → 0 < count := by
  have nonempty : requests.map (·.enriched category) ≠ [] := by
    obtain ⟨request, member, _⟩ := List.mem_map.mp present
    exact List.ne_nil_of_mem (List.mem_map_of_mem member)
  obtain ⟨failFast, calls, runs⟩ :=
    broker.requestGrants_dispatches correlation nonempty start state
  obtain ⟨lane, member, own⟩ := broker.exists_lane correlation category present failFast state
  have spent := (Dispatch.run_counted (broker.setting correlation) failFast _ state).spent lane
    member
  rw [Dispatch.Setting.callsFor, own] at spent
  dsimp only
  rw [calls, List.countP_map]
  exact ⟨spent.bounded, fun result given => spent.positive (runs result given lane member)⟩

/-- What is sent to the authority is the batch, divided by content type, and nothing else. If
uploads are issued, each group has been asked for. Witness: the lanes of the dispatch, each of
which counts the calls that it has made.
-/
theorem issueUploads_sends (broker : Broker σ) (correlation : CorrelationId) (clock : Clock)
    (category : Category) (requests : List UploadRequest) (start : Nat) (state : σ)
    : let ended := (broker.issueUploads correlation clock category requests).runAt start state
      broker.SendsBatch category requests ended.calls
      ∧ ∀ result,
          ended.value = .ok result
          → ∀ request ∈ requests,
              ∃ record ∈ ended.calls,
                record.call = broker.groupCall category requests request.contentType := by
  cases checked : Enrichment.enrich category requests with
  | error fault =>
      rw [broker.issueUploads_of_refused correlation clock checked]
      refine ⟨.nil broker category requests, ?_⟩
      rintro result ⟨⟩
  | ok batch =>
      have run := broker.issueUploads_of_enriched broker.batchMode correlation clock checked start
        state
      rw [show broker.inMode broker.batchMode = broker from rfl] at run
      obtain ⟨_, _, distinct, rfl⟩ := Enrichment.enrich_eq_ok_iff.mp checked
      have grouped := broker.requestGrants_grouped correlation category requests start state
      have counted (contentType : String)
          (present : contentType ∈ requests.map (·.contentType)) :=
        broker.requestGrants_counted correlation category present start state
      rw [run]
      refine ⟨⟨grouped, fun contentType present => (counted contentType present).1, ?_⟩, ?_⟩
      · intro first member second other identifier asked again
        obtain ⟨contentType, _, own⟩ := grouped first member
        obtain ⟨otherType, _, others⟩ := grouped second other
        rw [own, mem_groupCall_identifiers] at asked
        rw [others, mem_groupCall_identifiers] at again
        obtain ⟨request, given, rfl, rfl⟩ := asked
        obtain ⟨twin, givenToo, rfl, same⟩ := again
        obtain rfl := List.inj_on_of_nodup_map distinct givenToo given same
        exact own.trans others.symm
      · intro result given request member
        obtain ⟨outcome, obtained, _⟩ := issuedFrom_eq_ok given
        have called := (counted _ (List.mem_map_of_mem member)).2 outcome obtained
        obtain ⟨record, made, same⟩ := List.countP_pos_iff.mp called
        exact ⟨record, made, of_decide_eq_true same⟩

example
    : ((rehearsed.issueUploads .nil (.still ⟨0, 0⟩ 0) .image rehearsedRequests).runAt 0
          {}).calls.map
        (·.call)
      = [rehearsed.groupCall .image rehearsedRequests ContentType.jpeg,
          rehearsed.groupCall .image rehearsedRequests ContentType.png] :=
  rfl

end Broker

end ObjectGrants
