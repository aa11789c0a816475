import ObjectGrants.Proofs.Grouping
import ObjectGrants.Proofs.PartialSuccess

/-! Dispatches of one batch in two orders. Where requests for uploads are answered in turn, the
order of the requests decides nothing but the order of the descriptors in each call: every
group takes the same course, and the batch ends at the same time and alike.
-/

namespace ObjectGrants

-----------------------------------------------------------------------------------------
-- Logs that differ in the order of descriptors
-----------------------------------------------------------------------------------------

/-- Two calls for uploads are the same but for the order of their descriptors. -/
inductive CallRecord.Alike : CallRecord → CallRecord → Prop
  | reordered {time correlation descriptors others} (perm : List.Perm descriptors others)
    : Alike ⟨time, correlation, .bulkUpload descriptors⟩ ⟨time, correlation, .bulkUpload others⟩

theorem CallRecord.Alike.time_eq {record other : CallRecord} (alike : record.Alike other)
    : record.time = other.time := by
  cases alike
  rfl

/-- Logs whose calls are alike, one by one. -/
abbrev AlikeLogs : List CallRecord → List CallRecord → Prop :=
  List.Forall₂ CallRecord.Alike

/-- Merging looks at times only. Witness: induction on both logs. -/
theorem merge_alike {first second first' second' : List CallRecord}
    (alike : AlikeLogs first first') (others : AlikeLogs second second')
    : AlikeLogs (first.merge second fun record other => record.time ≤ other.time)
        (first'.merge second' fun record other => record.time ≤ other.time) := by
  induction alike generalizing second second' with
  | nil => simpa using others
  | @cons record record' rest rest' own tail ih =>
      induction others with
      | nil => simpa using List.Forall₂.cons own tail
      | @cons other other' _ _ next behind later =>
          simp only [List.cons_merge_cons, ← own.time_eq, ← next.time_eq]
          split
          · exact .cons own (ih (.cons next behind))
          · exact .cons next later

theorem merged_alike {logs others : List (List CallRecord)}
    (alike : List.Forall₂ AlikeLogs logs others)
    : AlikeLogs (merged logs) (merged others) := by
  induction alike with
  | nil => exact .nil
  | cons first _ ih => exact merge_alike first ih

/-- Logs stay alike when all of their calls are made so much later. -/
theorem after_alike {log other : List CallRecord} (alike : AlikeLogs log other) (start : Nat)
    : AlikeLogs (log.map (.after start)) (other.map (.after start)) := by
  refine List.rel_map ?_ alike
  rintro _ _ ⟨perm⟩
  exact .reordered perm

/-- What is kept of logs by the times of the calls stays alike. -/
theorem filter_alike {log other : List CallRecord} (alike : AlikeLogs log other)
    {keep : CallRecord → Bool}
    (timed : ∀ record twin : CallRecord, record.time = twin.time → keep record = keep twin)
    : AlikeLogs (log.filter keep) (other.filter keep) :=
  List.rel_filter (fun record twin pair => by simp only [timed record twin pair.time_eq]) alike

namespace Dispatch

variable {σ : Type}

-----------------------------------------------------------------------------------------
-- Courses
-----------------------------------------------------------------------------------------

/-- Two courses are the same but for the order of the descriptors in their calls. -/
structure Course.Alike (course other : Course) : Prop where
  calls : AlikeLogs course.calls other.calls
  finish : course.finish = other.finish
  result : course.result = other.result

theorem Course.Alike.calling {course other : Course} (alike : course.Alike other)
    {record twin : CallRecord} (pair : record.Alike twin)
    : (course.calling record).Alike (other.calling twin) :=
  ⟨.cons pair alike.calls, alike.finish, alike.result⟩

section

variable {policy : RetryPolicy} {answers : Nat → UploadAnswer} {record twin : Nat → CallRecord}

/-- Courses with the same answers are alike if their calls are, by induction on the repetitions
left.
-/
theorem Course.answered_alike (pairs : ∀ time, (record time).Alike (twin time)) (left time : Nat)
    : (Course.answered policy answers record left time).Alike
        (Course.answered policy answers twin left time) := by
  induction left generalizing time with
  | zero => exact ⟨.nil, rfl, rfl⟩
  | succ left ih =>
      unfold Course.answered
      split
      · exact ⟨.nil, rfl, rfl⟩
      · split
        · exact (ih _).calling (pairs _)
        · exact ⟨.nil, rfl, rfl⟩

theorem Course.due_alike (pairs : ∀ time, (record time).Alike (twin time)) (left time : Nat)
    : (Course.due policy answers record left time).Alike
        (Course.due policy answers twin left time) :=
  (answered_alike pairs left _).calling (pairs time)

end

end Dispatch

-----------------------------------------------------------------------------------------
-- Batches in two orders
-----------------------------------------------------------------------------------------

/-- Two failures are the same but for the order of their identifiers. -/
structure PartitionFailure.Alike (failure other : PartitionFailure) : Prop where
  contentType : failure.contentType = other.contentType
  fault : failure.fault = other.fault
  identifiers : failure.identifiers.Perm other.identifiers

/-- Two outcomes have the same grants, and failures that are alike. -/
structure BatchOutcome.Alike (outcome other : BatchOutcome) : Prop where
  grants : outcome.grants = other.grants
  failures : List.Forall₂ PartitionFailure.Alike outcome.failures other.failures

/-- Two runs end at the same time, with calls that are alike, and either both with the same fault
or both with values of which one goes with the other.
-/
structure EndsAlike {σ α : Type} (goesWith : α → α → Prop)
    (first second : Ended σ Empty (Except Fault α))
    : Prop where
  elapsed : first.elapsed = second.elapsed
  calls : AlikeLogs first.calls second.calls
  value
    : (∃ fault, first.value = .error fault ∧ second.value = .error fault)
      ∨ ∃ value other,
          first.value = .ok value ∧ second.value = .ok other ∧ goesWith value other

namespace Dispatch

variable {σ : Type} {setting : Setting σ} {answers : String → Nat → UploadAnswer} {state : σ}
  {batch other : List EnrichedRequest}

/-- The course of the group of a batch for a content type, on its own. -/
def Setting.courses (setting : Setting σ) (state : σ) (batch : List EnrichedRequest)
    (key : String)
    : Course :=
  setting.courseAlone state (EnrichedRequest.ofType key batch)

/-- Each group takes the same course, whatever the order of its requests. -/
theorem courses_alike
    (inTurn : setting.authority.AnswersInTurn setting.correlation answers state)
    (perm : batch.Perm other) {key : String} (member : key ∈ (Partition.ofBatch batch).map (·.1))
    : (setting.courses state batch key).Alike (setting.courses state other key) := by
  have uniform {batch : List EnrichedRequest}
      (member : key ∈ (Partition.ofBatch batch).map (·.1))
      : UploadDescriptor.AllOf key ((EnrichedRequest.ofType key batch).map
          (UploadDescriptor.ofRequest setting.serviceName)) := by
    obtain ⟨group, among, rfl⟩ := List.mem_map.mp member
    rw [← ofBatch_ofType among]
    exact (ofBatch_sorted setting batch).uniform group among
  rw [Setting.courses, Setting.courses, inTurn.courseAlone_eq (uniform member),
    inTurn.courseAlone_eq (uniform (Partition.keys_eq_of_perm perm ▸ member))]
  exact Course.due_alike
    (fun time => .reordered ((EnrichedRequest.ofType_perm perm key).map _)) _ _

theorem failure?_alike {course twin : Course} (perm : batch.Perm other)
    (same : course.result = twin.result) (key : String)
    : Option.Rel PartitionFailure.Alike (course.failure? (Partition.group batch key))
        (twin.failure? (Partition.group other key)) := by
  unfold Course.failure?
  rw [← same]
  cases course.result with
  | ok grants => exact .none
  | error fault =>
      exact .some ⟨rfl, rfl, (EnrichedRequest.ofType_perm perm key).map _⟩

/-- What is kept of a batch in two orders is alike, by induction on the content types. -/
theorem kept_alike {courses others : String → Course} (perm : batch.Perm other)
    {keys : List String} (same : ∀ key ∈ keys, (courses key).result = (others key).result)
    : (kept batch courses keys).Alike (kept other others keys) := by
  constructor
  · refine List.flatMap_congr fun key member => ?_
    rw [Course.grants, Course.grants, same key member]
  · have pairs : List.Forall₂ (fun key twin => key = twin ∧ key ∈ keys) keys keys :=
      List.forall₂_same.mpr fun key member => ⟨rfl, member⟩
    refine List.rel_filterMap (fun key twin pair => ?_) pairs
    obtain ⟨rfl, member⟩ := pair
    exact failure?_alike perm (same key member) key

/-- Dispatches that complete alike courses take as long and make alike calls. -/
theorem Completes.alike {courses others : String → Course} {keys : List String} {now : Nat}
    {outcome twin : Outcome σ} (completes : Completes courses keys now outcome)
    (completes' : Completes others keys now twin)
    (alike : ∀ key ∈ keys, (courses key).Alike (others key))
    : outcome.time = twin.time ∧ AlikeLogs outcome.calls twin.calls := by
  constructor
  · have finishes
        : (keys.map fun key => (courses key).finish)
          = keys.map fun key => (others key).finish :=
      List.map_congr_left fun key member => (alike key member).finish
    rw [completes.time, completes'.time, finishes]
  · rw [completes.calls, completes'.calls]
    refine merged_alike (List.forall₂_map_left_iff.mpr (List.forall₂_map_right_iff.mpr ?_))
    exact List.forall₂_same.mpr fun key member => (alike key member).calls

/-- Dispatches that are stopped by the first failure of alike courses are stopped at the same time
and have made alike calls.
-/
theorem Stops.alike {courses others : String → Course} {keys : List String} {first : String}
    {fault : Fault} {outcome twin : Outcome σ}
    (stops : Stops courses keys first fault outcome)
    (stops' : Stops others keys first fault twin)
    (alike : ∀ key ∈ keys, (courses key).Alike (others key)) (member : first ∈ keys)
    : outcome.time = twin.time ∧ AlikeLogs outcome.calls twin.calls := by
  have finish := (alike first member).finish
  refine ⟨by rw [stops.time, stops'.time, finish], ?_⟩
  rw [stops.calls, stops'.calls, ← finish]
  refine merged_alike (List.forall₂_map_left_iff.mpr (List.forall₂_map_right_iff.mpr ?_))
  refine List.forall₂_same.mpr fun key among => filter_alike (alike key among).calls ?_
  intro record twin same
  simp only [madeUntil, same]

/-- The course that fails first does so in both orders. -/
theorem FailsFirst.alike {courses others : String → Course} {keys : List String}
    {first : String} {fault : Fault} (fails : FailsFirst courses keys first fault)
    (alike : ∀ key ∈ keys, (courses key).Alike (others key))
    : FailsFirst others keys first fault := by
  refine ⟨fails.member, (alike first fails.member).result ▸ fails.failed, ?_⟩
  intro key member cause failed
  rw [← (alike key member).result] at failed
  rw [← (alike first fails.member).finish, ← (alike key member).finish]
  exact fails.least key member cause failed

/-- A dispatch completes the courses of its groups unless it is to stop at a failure. -/
theorem run_completes
    (inTurn : setting.authority.AnswersInTurn setting.correlation answers state)
    (failFast : Bool) (batch : List EnrichedRequest)
    (free
      : failFast = true
        → ∀ key ∈ (Partition.ofBatch batch).map (·.1),
            ∃ grants, (setting.courses state batch key).result = .ok grants)
    : Completes (setting.courses state batch) ((Partition.ofBatch batch).map (·.1)) 0
        (run setting failFast batch state) := by
  have begin := contentTypes_eq (lanes_group setting batch)
  have completes := (lanes_underway inTurn batch).proceed_completes inTurn
    (Nat.le_refl (weight (lanes setting batch))) fun fast => begin ▸ free fast
  rwa [begin] at completes

/-- A dispatch that stops at failures stops where the first of its groups fails. -/
theorem run_stops
    (inTurn : setting.authority.AnswersInTurn setting.correlation answers state)
    (batch : List EnrichedRequest) {first : String} {fault : Fault}
    (fails
      : FailsFirst (setting.courses state batch) ((Partition.ofBatch batch).map (·.1)) first
          fault)
    : Stops (setting.courses state batch) ((Partition.ofBatch batch).map (·.1)) first fault
        (run setting true batch state) := by
  have begin := contentTypes_eq (lanes_group setting batch)
  have clean (lane : Lane σ) (member : lane ∈ lanes setting batch)
      : lane.phase.fault? = none := by
    rw [lanes_phase member]
    rfl
  have stops := (lanes_underway inTurn batch).proceed_stops inTurn
    (Nat.le_refl (weight (lanes setting batch))) (begin ▸ fails) clean
  rwa [begin] at stops

/-- If every group obtains grants, no lane has failed and the grants are those of all groups. -/
theorem Completes.granted {courses : String → Course} {keys : List String} {now : Nat}
    {outcome : Outcome σ} {obtained : String → List SignedGrant}
    (completes : Completes courses keys now outcome)
    (own : outcome.lanes.map (·.contentType) = keys)
    (given : ∀ key ∈ keys, (courses key).result = .ok (obtained key))
    : outcome.lanes.findSome? (·.phase.fault?) = none
      ∧ outcome.lanes.flatMap Lane.grants = keys.flatMap obtained := by
  refine settled_grants completes.settled ?_
  rw [own]
  exact List.forall₂_map_right_iff.mpr (List.forall₂_same.mpr given)

/-- A batch that keeps what succeeds ends alike in both orders. -/
theorem requestPartial_alike
    (inTurn : setting.authority.AnswersInTurn setting.correlation answers state)
    (perm : batch.Perm other) (nonempty : batch ≠ []) (start : Nat)
    : EndsAlike BatchOutcome.Alike ((requestPartial setting batch).runAt start state)
        ((requestPartial setting other).runAt start state) := by
  have nonempty' : other ≠ [] := fun none => nonempty (List.perm_nil.mp (none ▸ perm))
  have keys := Partition.keys_eq_of_perm perm
  have alike (key : String) (member : key ∈ (Partition.ofBatch batch).map (·.1)) :=
    courses_alike inTurn perm member
  have completes := run_completes inTurn false batch nofun
  have completes' := run_completes inTurn false other nofun
  have kept := settled_kept (run_group setting false batch state) completes.settled
  have kept' := settled_kept (run_group setting false other state) completes'.settled
  rw [contentTypes_eq (run_group ..)] at kept kept'
  rw [← keys] at completes' kept'
  obtain ⟨time, calls⟩ := completes.alike completes' alike
  rw [requestPartial, requestPartial, operation_runAt _ _ nonempty,
    operation_runAt _ _ nonempty']
  refine ⟨time, after_alike calls start, .inr ⟨_, _, rfl, rfl, ?_⟩⟩
  rw [kept, kept']
  exact kept_alike perm fun key member => (alike key member).result

/-- A batch that stops at failures ends alike in both orders. Witness: if a group fails, the first
that does so is the same in both; else all groups obtain the same grants.
-/
theorem requestAll_alike
    (inTurn : setting.authority.AnswersInTurn setting.correlation answers state)
    (perm : batch.Perm other) (nonempty : batch ≠ []) (start : Nat)
    : EndsAlike Eq ((requestAll setting batch).runAt start state)
        ((requestAll setting other).runAt start state) := by
  have nonempty' : other ≠ [] := fun none => nonempty (List.perm_nil.mp (none ▸ perm))
  have keys := Partition.keys_eq_of_perm perm
  have alike (key : String) (member : key ∈ (Partition.ofBatch batch).map (·.1)) :=
    courses_alike inTurn perm member
  rw [requestAll, requestAll, operation_runAt _ _ nonempty, operation_runAt _ _ nonempty']
  by_cases fails
      : ∃ key ∈ (Partition.ofBatch batch).map (·.1),
          ∃ fault, (setting.courses state batch key).result = .error fault
  · obtain ⟨first, fault, failsFirst⟩ := exists_failsFirst fails
    have stops := run_stops inTurn batch failsFirst
    have stops' := run_stops inTurn other (keys ▸ failsFirst.alike alike)
    rw [← keys] at stops'
    obtain ⟨time, calls⟩ := stops.alike stops' alike failsFirst.member
    refine ⟨time, after_alike calls start, .inl ⟨fault, ?_, ?_⟩⟩
    · simp only [Ended.value, stops.fault]
    · simp only [Ended.value, stops'.fault]
  · have granted (key : String) (member : key ∈ (Partition.ofBatch batch).map (·.1))
        : (setting.courses state batch key).result
          = .ok (setting.courses state batch key).grants := by
      cases result : (setting.courses state batch key).result with
      | ok grants => simp only [Course.grants, result]
      | error fault => exact absurd ⟨key, member, fault, result⟩ fails
    have granted' (key : String) (member : key ∈ (Partition.ofBatch other).map (·.1))
        : (setting.courses state other key).result
          = .ok (setting.courses state batch key).grants := by
      rw [← keys] at member
      exact (alike key member).result ▸ granted key member
    have completes := run_completes inTurn true batch
      fun _ key member => ⟨_, granted key member⟩
    have completes' := run_completes inTurn true other
      fun _ key member => ⟨_, granted' key member⟩
    obtain ⟨unfailed, grants⟩ := completes.granted (contentTypes_eq (run_group ..)) granted
    obtain ⟨unfailed', grants'⟩ := completes'.granted (contentTypes_eq (run_group ..)) granted'
    rw [← keys] at completes'
    obtain ⟨time, calls⟩ := completes.alike completes' alike
    refine ⟨time, after_alike calls start, .inr ?_⟩
    simp only [Ended.value, unfailed, unfailed']
    exact ⟨_, _, rfl, rfl, grants.trans (keys ▸ grants'.symm)⟩

end Dispatch

end ObjectGrants
