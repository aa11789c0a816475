import ObjectGrants.Proofs.FailFast

/-! Batches that keep the groups that succeed. No group of such a batch disturbs another one: each
ends as it does on its own, whatever becomes of the others and however long they take.
-/

namespace ObjectGrants

-----------------------------------------------------------------------------------------
-- Scripts with other delays
-----------------------------------------------------------------------------------------

namespace AnswerQueue

variable {α : Type}

/-- The same answers after other delays. -/
def retimed (delay : Nat → Nat) (queue : AnswerQueue α) : AnswerQueue α :=
  queue.map fun next => { next with delay := delay next.delay }

theorem retimed_next (delay : Nat → Nat) (queue : AnswerQueue α)
    : (queue.retimed delay).next
      = (queue.next.1.map fun next => { next with delay := delay next.delay },
          queue.next.2.retimed delay) := by
  match queue with
  | [] => rfl
  | [last] => rfl
  | first :: second :: rest => rfl

theorem retimed_behind (delay : Nat → Nat) (queue : AnswerQueue α) (given : Nat)
    : (queue.retimed delay).behind given = (queue.behind given).retimed delay := by
  induction given with
  | zero => rfl
  | succ given ih => rw [behind, ih, retimed_next, behind]

end AnswerQueue

namespace Script

/-- The same script with other delays of its uploads. -/
def retimed (delay : Nat → Nat) (script : Script) : Script where
  __ := script
  uploads := script.uploads.map fun (contentType, queue) => (contentType, queue.retimed delay)

theorem retimed_uploadQueue (delay : Nat → Nat) (script : Script) (contentType : String)
    : (script.retimed delay).uploadQueue contentType
      = (script.uploadQueue contentType).retimed delay := by
  simp only [uploadQueue, retimed]
  induction script.uploads with
  | nil => rfl
  | cons first rest ih =>
      obtain ⟨key, queue⟩ := first
      simp only [List.map_cons, List.lookup_cons]
      cases contentType == key with
      | true => rfl
      | false => exact ih

/-- Other delays leave the answers of a script as they are. -/
theorem retimed_result (delay : Nat → Nat) (script : Script) (correlation : CorrelationId)
    (contentType : String) (number : Nat)
    : ((script.retimed delay).uploadAnswers correlation contentType number).result
      = (script.uploadAnswers correlation contentType number).result := by
  rw [uploadAnswers, retimed_uploadQueue, AnswerQueue.retimed_behind, AnswerQueue.retimed_next,
    uploadAnswers]
  cases ((script.uploadQueue contentType).behind number).next.1 <;> rfl

end Script

namespace Dispatch

variable {σ τ : Type}

-----------------------------------------------------------------------------------------
-- What courses leave
-----------------------------------------------------------------------------------------

/-- The grants that a course ends with. -/
def Course.grants (course : Course) : List SignedGrant :=
  match course.result with
  | .ok grants => grants
  | .error _ => []

/-- The failure of a group whose course ends with a fault. -/
def Course.failure? (group : String × List EnrichedRequest) (course : Course)
    : Option PartitionFailure :=
  match course.result with
  | .ok _ => none
  | .error fault =>
      some
        { contentType := group.1, identifiers := group.2.map (·.identifier), fault }

/-- What is kept of the groups of a batch: the grants of those that succeed, and one failure for
each of the others.
-/
def kept (batch : List EnrichedRequest) (courses : String → Course) (keys : List String)
    : BatchOutcome where
  grants := keys.flatMap fun key => (courses key).grants
  failures := keys.filterMap fun key => (courses key).failure? (Partition.group batch key)

/-- What is kept depends on the results of the courses only. -/
theorem kept_congr (batch : List EnrichedRequest) {courses others : String → Course}
    {keys : List String}
    (same : ∀ key ∈ keys, (courses key).result = (others key).result)
    : kept batch courses keys = kept batch others keys := by
  have grants (key : String) (member : key ∈ keys)
      : (courses key).grants = (others key).grants := by
    simp only [Course.grants, same key member]
  have failures (key : String) (member : key ∈ keys)
      : (courses key).failure? (Partition.group batch key)
        = (others key).failure? (Partition.group batch key) := by
    simp only [Course.failure?, same key member]
  unfold kept
  rw [List.filterMap_congr failures, List.flatMap_congr grants]

/-- Lanes that are settled as their courses end have kept what is kept of the courses. -/
theorem settled_kept {batch : List EnrichedRequest} {courses : String → Course}
    {lanes : List (Lane σ)} (groups : lanes.map Lane.group = Partition.ofBatch batch)
    (settled : ∀ lane ∈ lanes, lane.phase = .settled (courses lane.contentType).result)
    : (⟨lanes.flatMap Lane.grants, lanes.filterMap Lane.failure?⟩ : BatchOutcome)
      = kept batch courses (lanes.map (·.contentType)) := by
  have grants (lane : Lane σ) (member : lane ∈ lanes)
      : lane.grants = (courses lane.contentType).grants := by
    rw [Lane.grants, settled lane member, Course.grants]
    cases (courses lane.contentType).result <;> rfl
  have failures (lane : Lane σ) (member : lane ∈ lanes)
      : lane.failure?
        = (courses lane.contentType).failure? (Partition.group batch lane.contentType) := by
    have among : lane.group ∈ Partition.ofBatch batch := groups ▸ List.mem_map_of_mem member
    have requests : lane.requests = EnrichedRequest.ofType lane.contentType batch :=
      ofBatch_ofType among
    rw [Lane.failure?, settled lane member, Course.failure?, Partition.group, requests]
    cases (courses lane.contentType).result <;> rfl
  unfold kept
  rw [List.flatMap_map, List.filterMap_map, List.flatMap_congr grants,
    List.filterMap_congr failures]
  rfl

-----------------------------------------------------------------------------------------
-- Results without times
-----------------------------------------------------------------------------------------

/-- Courses with the same answers end alike, whenever these arrive and however long the pauses
are. Witness: induction on the repetitions left; whether a fault is worth one depends on the
fault only.
-/
theorem Course.answered_result_eq {policy other : RetryPolicy}
    (retries : other.retries = policy.retries)
    (codes : other.transientCodes = policy.transientCodes)
    {answers others : Nat → UploadAnswer}
    (same : ∀ number, (others number).result = (answers number).result)
    (record record' : Nat → CallRecord) (left time time' : Nat)
    : (Course.answered other others record' left time').result
      = (Course.answered policy answers record left time).result := by
  induction left generalizing time time' with
  | zero =>
      simp only [Course.answered, retries]
      exact same policy.retries
  | succ left ih =>
      simp only [Course.answered, retries, codes, same]
      cases (answers (policy.retries - (left + 1))).result with
      | ok grants => rfl
      | error fault =>
          by_cases retryable : fault.isRetryable policy.transientCodes = true
          · simp only [retryable, if_true]
            exact ih _ _
          · simp only [retryable]
            rfl

/-- Two authorities that give the same answers let a group on its own end alike, whatever their
delays.
-/
theorem courseAlone_result_eq {setting : Setting σ} {other : Setting τ}
    {answers others : String → Nat → UploadAnswer} {state : σ} {state' : τ}
    (inTurn : setting.authority.AnswersInTurn setting.correlation answers state)
    (inTurn' : other.authority.AnswersInTurn other.correlation others state')
    (retries : other.policy.retries = setting.policy.retries)
    (codes : other.policy.transientCodes = setting.policy.transientCodes)
    (same : ∀ key number, (others key number).result = (answers key number).result)
    {batch : List EnrichedRequest} {key : String}
    (member : key ∈ (Partition.ofBatch batch).map (·.1))
    : (other.courseAlone state' (EnrichedRequest.ofType key batch)).result
      = (setting.courseAlone state (EnrichedRequest.ofType key batch)).result := by
  obtain ⟨group, among, rfl⟩ := List.mem_map.mp member
  have uniform := (ofBatch_sorted setting batch).uniform group among
  have uniform' := (ofBatch_sorted other batch).uniform group among
  rw [← ofBatch_ofType among, inTurn.courseAlone_eq uniform, inTurn'.courseAlone_eq uniform']
  simp only [Course.due, Course.calling, retries]
  exact Course.answered_result_eq retries codes (same group.1) _ _ _ _ _

-----------------------------------------------------------------------------------------
-- Batches
-----------------------------------------------------------------------------------------

/-- How a batch ends that keeps what succeeds, by the courses of its groups. -/
structure KeepsGroups (batch : List EnrichedRequest) (courses : String → Course)
    (keys : List String) (whole : Ended σ Empty (Except Fault BatchOutcome))
    : Prop where
  outcome : whole.value = .ok (kept batch courses keys)
  elapsed : whole.elapsed = (keys.map fun key => (courses key).finish).foldr max 0
  calls : whole.calls = merged (keys.map fun key => (courses key).calls)

/-- A batch whose requests are answered in turn keeps what its groups obtain on their own. -/
theorem requestPartial_keeps {setting : Setting σ} {answers : String → Nat → UploadAnswer}
    {state : σ}
    (inTurn : setting.authority.AnswersInTurn setting.correlation answers state)
    {batch : List EnrichedRequest} (nonempty : batch ≠ [])
    : KeepsGroups batch
        (fun key => setting.courseAlone state (EnrichedRequest.ofType key batch))
        ((Partition.ofBatch batch).map (·.1)) ((requestPartial setting batch).start state) := by
  have completes : Completes _ _ 0 (run setting false batch state) :=
    (lanes_underway inTurn batch).proceed_completes inTurn (Nat.le_refl _) nofun
  have groups := run_group setting false batch state
  have keys := contentTypes_eq groups
  rw [contentTypes_eq (lanes_group setting batch)] at completes
  have start : (requestPartial setting batch).start state = _ :=
    operation_start setting false nonempty _ state
  rw [start]
  refine ⟨?_, completes.time.trans (Nat.zero_max _), completes.calls⟩
  rw [← keys]
  exact congrArg Except.ok (settled_kept groups completes.settled)

/-- A batch that keeps what succeeds has for each group what the group ends with on its own, all run
from time zero: the grants of those that succeed, in the order of the content types, and the
failure of each other one. It lasts as long as the longest of them and makes the calls of all.
What it gives does not depend on time: another authority with the same answers, however long
these take, leaves the same grants and the same failures.
-/
theorem requestPartial_keepsGroups {setting : Setting σ}
    {answers : String → Nat → UploadAnswer} {state : σ}
    (inTurn : setting.authority.AnswersInTurn setting.correlation answers state)
    {batch : List EnrichedRequest} (nonempty : batch ≠ [])
    : let keys := (Partition.ofBatch batch).map (·.1)
      let whole := (requestPartial setting batch).start state
      Partition.Divides batch keys (Partition.ofBatch batch)
      ∧ KeepsGroups batch
          (fun key => setting.courseAlone state (EnrichedRequest.ofType key batch)) keys whole
      ∧ ∀ {τ : Type} (other : Setting τ) (others : String → Nat → UploadAnswer) (state' : τ),
          other.authority.AnswersInTurn other.correlation others state'
          → other.policy.retries = setting.policy.retries
          → other.policy.transientCodes = setting.policy.transientCodes
          → (∀ key number, (others key number).result = (answers key number).result)
          → ((requestPartial other batch).start state').value = whole.value := by
  intro keys whole
  have keeps := requestPartial_keeps inTurn nonempty
  refine ⟨Partition.ofBatch_keys batch, keeps, ?_⟩
  intro τ other others state' inTurn' retries codes same
  have keeps' := requestPartial_keeps inTurn' nonempty
  rw [keeps'.outcome, keeps.outcome]
  refine congrArg Except.ok (kept_congr batch fun key member => ?_)
  exact courseAlone_result_eq inTurn inTurn' retries codes same member

/-- A grant for the request of the second type. -/
def recoveredGrant : SignedGrant := ⟨"a", "https://put/a", "token", 0⟩

/-- The first type is refused. The second one is busy once and obtains its grant then. -/
def recovering : Script where
  uploads :=
    [(ContentType.jpeg, [⟨.error fun origin => .rejected origin "REFUSED" "" none, 7⟩]),
      (ContentType.png,
        [⟨.error fun origin => .unavailable origin (.stated "busy"), 3⟩,
          ⟨.ok [recoveredGrant], 1⟩])]

/-- The group that recovers last keeps its grant beside the failure of the other one, and when all
answers take ten times as long, so that the other one is last, both are the same.
-/
theorem requestPartial_keepsGroups_recovering
    : Script.authority.AnswersInTurn .nil (recovering.uploadAnswers .nil) recovering
      ∧ rehearsedBatch ≠ []
      ∧ KeepsGroups rehearsedBatch
          (fun key =>
            rehearsed.courseAlone recovering (EnrichedRequest.ofType key rehearsedBatch))
          [ContentType.jpeg, ContentType.png]
          ((requestPartial rehearsed rehearsedBatch).start recovering)
      ∧ ((requestPartial rehearsed rehearsedBatch).start recovering).value
        = .ok ⟨[recoveredGrant],
            [⟨ContentType.jpeg, ["b"], .rejected ⟨.bulkUpload, .nil⟩ "REFUSED" "" none⟩]⟩
      ∧ ((requestPartial rehearsed rehearsedBatch).start recovering).elapsed = 8
      ∧ ((requestPartial rehearsed rehearsedBatch).start (recovering.retimed (10 * ·))).value
        = ((requestPartial rehearsed rehearsedBatch).start recovering).value
      ∧ ((requestPartial rehearsed rehearsedBatch).start (recovering.retimed (10 * ·))).elapsed
        = 70 :=
  have nonempty : rehearsedBatch ≠ [] := List.cons_ne_nil _ _
  have inTurn
      : rehearsed.authority.AnswersInTurn rehearsed.correlation (recovering.uploadAnswers .nil)
          recovering :=
    Script.authority_answersInTurn .nil recovering
  have ⟨_, keeps, timeless⟩ := requestPartial_keepsGroups inTurn nonempty
  have same :=
    timeless rehearsed _ _ (Script.authority_answersInTurn .nil (recovering.retimed (10 * ·)))
      rfl rfl fun key number => recovering.retimed_result _ _ key number
  ⟨inTurn, nonempty, keeps, rfl, rfl, same, rfl⟩

end Dispatch

end ObjectGrants
