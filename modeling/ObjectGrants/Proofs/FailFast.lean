import Mathlib.Data.Finset.Max
import Mathlib.Data.Prod.Lex
import Mathlib.Data.String.Basic
import ObjectGrants.Authority.Script
import ObjectGrants.Proofs.DispatchSchedule

/-! Batches that fail as a whole. As long as no group fails, a batch gives what its groups give on
their own. Otherwise it ends where the first of them fails: with the fault of that group, at
that moment, and with the calls made so far.
-/

namespace ObjectGrants

namespace Dispatch

variable {σ : Type}

-----------------------------------------------------------------------------------------
-- The first failure
-----------------------------------------------------------------------------------------

/-- Of all courses that fail, the one of group `first` ends first, and of those that end at the
same time its content type comes first.
-/
structure FailsFirst (courses : String → Course) (keys : List String) (first : String)
    (fault : Fault)
    : Prop where
  member : first ∈ keys
  failed : (courses first).result = .error fault
  least
    : ∀ key ∈ keys,
        ∀ other,
          (courses key).result = .error other
          → (courses first).finish < (courses key).finish
            ∨ ((courses first).finish = (courses key).finish ∧ first ≤ key)

/-- Where some courses fail, one of them fails first: the least by its end and content type. -/
theorem exists_failsFirst {courses : String → Course} {keys : List String}
    (fails : ∃ key ∈ keys, ∃ fault, (courses key).result = .error fault)
    : ∃ first fault, FailsFirst courses keys first fault := by
  classical
  let failing := keys.toFinset.filter fun key => ∃ fault, (courses key).result = .error fault
  have some : failing.Nonempty := by
    obtain ⟨key, member, failed⟩ := fails
    exact ⟨key, by simp [failing, member, failed]⟩
  obtain ⟨first, among, least⟩ :=
    failing.exists_min_image (fun key => toLex ((courses key).finish, key)) some
  simp only [failing, Finset.mem_filter, List.mem_toFinset, Prod.Lex.toLex_le_toLex, and_imp]
    at among least
  obtain ⟨member, fault, failed⟩ := among
  exact ⟨first, fault, member, failed, fun key inKeys other otherFailed =>
    least key inKeys ⟨other, otherFailed⟩⟩

/-- Whether a call of some group is made until group `first` ends at a time. What happens at that
time on the groups in front happens before, and on the groups behind it does not happen.
-/
def madeUntil (finish : Nat) (first key : String) (record : CallRecord) : Bool :=
  record.time < finish || record.time == finish && key ≤ first

/-- All courses have been stopped where the first of them has failed. -/
structure Stops (courses : String → Course) (keys : List String) (first : String)
    (fault : Fault) (outcome : Outcome σ)
    : Prop where
  fault : outcome.lanes.findSome? (·.phase.fault?) = some fault
  time : outcome.time = (courses first).finish
  calls
    : outcome.calls
      = merged (keys.map fun key =>
          (courses key).calls.filter (madeUntil (courses first).finish first key))

theorem FailsFirst.moved {courses : String → Course} {keys : List String} {first : String}
    {fault : Fault} (fails : FailsFirst courses keys first fault) {time : Nat}
    {lanes : List (Lane σ)} {key : String} {rest : Course} {fired : Fired σ (List (Lane σ))}
    (moves : Moves time courses lanes key rest fired)
    : FailsFirst (Function.update courses key rest) keys first fault := by
  refine ⟨fails.member, by rw [(moves.kept first).2, fails.failed], ?_⟩
  intro other member cause failed
  rw [(moves.kept other).2] at failed
  rw [(moves.kept first).1, (moves.kept other).1]
  exact fails.least other member cause failed

section

variable {setting : Setting σ} {answers : String → Nat → UploadAnswer} {initial state : σ}
  {now time : Nat} {courses : String → Course} {lanes : List (Lane σ)} {key first : String}
  {rest : Course} {fired : Fired σ (List (Lane σ))} {fault : Fault}

/-- The lane that will fail first has not got there yet. -/
theorem Underway.first_waits (underway : Underway setting answers initial now courses lanes state)
    (fails : FailsFirst courses (lanes.map (·.contentType)) first fault)
    (clean : ∀ lane ∈ lanes, lane.phase.fault? = none)
    : ∃ lane ∈ lanes, lane.contentType = first ∧ lane.phase.time? ≠ none := by
  obtain ⟨lane, member, rfl⟩ := List.mem_map.mp fails.member
  refine ⟨lane, member, rfl, fun past => ?_⟩
  obtain ⟨_, counts, _, follows⟩ := underway
  have settled := ((follows lane member).finished past).1
  rw [fails.failed] at settled
  have failed := clean lane member
  rw [settled] at failed
  exact nomatch failed

/-- Until the first failure nothing happens behind its moment, nor at that moment on the lanes
behind its own.
-/
theorem Moves.until_first (moves : Moves time courses lanes key rest fired)
    (underway : Underway setting answers initial now courses lanes state)
    (fails : FailsFirst courses (lanes.map (·.contentType)) first fault)
    (clean : ∀ lane ∈ lanes, lane.phase.fault? = none)
    : time < (courses first).finish ∨ (time = (courses first).finish ∧ key ≤ first) := by
  obtain ⟨lane, member, rfl, waits⟩ := underway.first_waits fails clean
  obtain ⟨starts, inFront⟩ := moves.later lane member waits
  have within := starts.finish
  by_cases behind : lane.contentType < key
  · exact Or.inl (inFront behind).finish
  · rcases Nat.lt_or_eq_of_le within with before | same
    · exact Or.inl before
    · exact Or.inr ⟨same, String.not_lt.mp behind⟩

theorem madeUntil_eq_true_iff {finish : Nat} {record : CallRecord}
    : madeUntil finish first key record = true
      ↔ record.time < finish ∨ (record.time = finish ∧ key ≤ first) := by
  simp [madeUntil]

/-- The calls of the next event are the first that are made until the first failure. -/
theorem Moves.merged_until (moves : Moves time courses lanes key rest fired)
    (underway : Underway setting answers initial now courses lanes state)
    (fails : FailsFirst courses (lanes.map (·.contentType)) first fault)
    (clean : ∀ lane ∈ lanes, lane.phase.fault? = none)
    : merged
        ((lanes.map (·.contentType)).map fun other =>
          (courses other).calls.filter (madeUntil (courses first).finish first other))
      = fired.calls
        ++ merged
            ((lanes.map (·.contentType)).map fun other =>
              (Function.update courses key rest other).calls.filter
                (madeUntil (courses first).finish first other)) := by
  refine moves.merged_filter underway _ fun record member => ?_
  rw [madeUntil_eq_true_iff, moves.made record member]
  exact moves.until_first underway fails clean

/-- A lane that fails now is the first one, and nothing more is made until now. -/
theorem Moves.failed_now (moves : Moves time courses lanes key rest fired)
    (underway : Underway setting answers initial now courses lanes state)
    (onwards
      : Underway setting answers initial time (Function.update courses key rest) fired.subject
          fired.state)
    (fails : FailsFirst courses (lanes.map (·.contentType)) first fault)
    (clean : ∀ lane ∈ lanes, lane.phase.fault? = none) {lane : Lane σ} {other : Fault}
    (member : lane ∈ fired.subject) (failed : lane.phase.fault? = some other)
    : key = first ∧ time = (courses first).finish ∧ other = fault ∧ rest.calls = [] := by
  have own : lane.contentType = key := by
    by_contra unlike
    have quiet := clean lane (moves.others lane member unlike)
    exact nomatch quiet.symm.trans failed
  obtain ⟨counts, _, follows⟩ := onwards.follows
  obtain ⟨result, silent, past⟩ := (follows lane member).failed failed
  rw [own] at result silent past
  rw [(moves.kept key).1] at past
  rw [(moves.kept key).2] at result
  rw [Function.update_self] at silent
  have reached := moves.starts.finish
  have bounded := moves.until_first underway fails clean
  have least := fails.least key moves.member other result
  have now : time = (courses first).finish := by omega
  have same : key = first := by
    rcases bounded with before | ⟨_, inFront⟩
    · omega
    · rcases least with before | ⟨_, behind⟩
      · omega
      · exact String.le_antisymm inFront behind
  subst same
  exact ⟨rfl, now, Except.error.inj (result.symm.trans fails.failed), silent⟩

/-- At the end of a course nothing is left of those in front of it, and on those behind it
nothing is made any more.
-/
theorem Moves.nothing_until (moves : Moves time courses lanes key rest fired)
    (underway : Underway setting answers initial now courses lanes state)
    (ends : time = (courses key).finish) (silent : rest.calls = [])
    : merged
        ((lanes.map (·.contentType)).map fun other =>
          (Function.update courses key rest other).calls.filter
            (madeUntil (courses key).finish key other))
      = [] := by
  refine List.eq_nil_iff_forall_not_mem.mpr fun record member => ?_
  obtain ⟨log, inLogs, inLog⟩ := mem_merged.mp member
  obtain ⟨other, among, rfl⟩ := List.mem_map.mp inLogs
  obtain ⟨left, until'⟩ := List.mem_filter.mp inLog
  by_cases own : other = key
  · subst own
    rw [Function.update_self, silent] at left
    exact nomatch left
  · rw [Function.update_of_ne own] at left
    obtain ⟨notEarlier, inFront⟩ := moves.calls_later underway other among record left
    rw [madeUntil_eq_true_iff, ← ends] at until'
    rcases until' with before | ⟨same, le⟩
    · omega
    · have := inFront (lt_of_le_of_ne le own)
      omega

end

/-- A failure ends a dispatch where the first course fails. Witness: induction on the events that
are left, each of which is the next of the merged log; the one that brings a failure is the
end of the first course that fails.
-/
theorem Underway.proceed_stops {setting : Setting σ} {answers : String → Nat → UploadAnswer}
    {initial : σ}
    (inTurn : setting.authority.AnswersInTurn setting.correlation answers initial)
    {events now : Nat} {courses : String → Course} {lanes : List (Lane σ)} {state : σ}
    {first : String} {fault : Fault}
    (underway : Underway setting answers initial now courses lanes state)
    (enough : weight lanes ≤ events)
    (fails : FailsFirst courses (lanes.map (·.contentType)) first fault)
    (clean : ∀ lane ∈ lanes, lane.phase.fault? = none)
    : Stops courses (lanes.map (·.contentType)) first fault
        (proceed setting true events now lanes state) := by
  induction events generalizing now courses lanes state with
  | zero =>
      obtain ⟨waiting, member, _, unsettled⟩ := underway.first_waits fails clean
      have past := time?_of_nextTime? (nextTime?_of_weight (Nat.le_zero.mp enough))
      exact absurd (past waiting member) unsettled
  | succ events ih =>
      rw [proceed]
      cases next : nextTime? lanes with
      | none =>
          obtain ⟨waiting, member, _, unsettled⟩ := underway.first_waits fails clean
          exact absurd (time?_of_nextTime? next waiting member) unsettled
      | some time =>
          obtain ⟨key, rest, moves, reached, onwards⟩ := underway.moves inTurn next
          have keys := fireAt_contentTypes setting time state lanes
          have fewer := fireAt_weight setting state next
          have made := moves.merged_until underway fails clean
          let fired := fireAt setting time state lanes
          dsimp only
          by_cases stops : fired.subject.any (·.phase.fault?.isSome) = true
          · rw [if_pos (by simpa using stops)]
            obtain ⟨lane, member, isSome⟩ := List.any_eq_true.mp stops
            obtain ⟨cause, failed⟩ := Option.isSome_iff_exists.mp isSome
            obtain ⟨rfl, now, _, silent⟩ :=
              moves.failed_now underway onwards fails clean member failed
            refine ⟨?_, now, ?_⟩
            · have found : (fired.subject.findSome? (·.phase.fault?)).isSome = true :=
                List.findSome?_isSome_iff.mpr ⟨lane, member, isSome⟩
              obtain ⟨given, first⟩ := Option.isSome_iff_exists.mp found
              obtain ⟨other, among, otherFailed⟩ := List.exists_of_findSome?_eq_some first
              obtain ⟨_, _, same, _⟩ :=
                moves.failed_now underway onwards fails clean among otherFailed
              exact first.trans (congrArg some same)
            · rw [made, moves.nothing_until underway now silent, List.append_nil]
          · rw [if_neg (by simpa using stops)]
            have quiet : ∀ lane ∈ fired.subject, lane.phase.fault? = none := by
              intro lane member
              by_contra failed
              have isSome := Option.isSome_iff_ne_none.mpr failed
              exact stops (List.any_eq_true.mpr ⟨lane, member, isSome⟩)
            have others := ih onwards (by omega) (keys ▸ fails.moved moves) quiet
            rw [keys] at others
            have ends := (moves.kept first).1
            refine ⟨others.fault, others.time.trans ends, ?_⟩
            rw [made, others.calls, ends]

-----------------------------------------------------------------------------------------
-- Batches
-----------------------------------------------------------------------------------------

/-- Lanes that have all been granted something have no fault, and their grants are those of their
courses, in the order of the lanes.
-/
theorem settled_grants {courses : String → Course} {lanes : List (Lane σ)}
    {granted : List (List SignedGrant)}
    (settled : ∀ lane ∈ lanes, lane.phase = .settled (courses lane.contentType).result)
    (given
      : List.Forall₂ (fun key grants => (courses key).result = .ok grants)
          (lanes.map (·.contentType)) granted)
    : lanes.findSome? (·.phase.fault?) = none
      ∧ lanes.flatMap Lane.grants = granted.flatten := by
  induction lanes generalizing granted with
  | nil =>
      cases given with
      | nil => exact ⟨rfl, rfl⟩
  | cons lane lanes ih =>
      cases given with
      | @cons _ grants _ granted own others =>
          have phase := settled lane List.mem_cons_self
          rw [own] at phase
          obtain ⟨none, same⟩ :=
            ih (fun other member => settled other (List.mem_cons_of_mem _ member)) others
          constructor
          · rw [List.findSome?_cons, phase]
            exact none
          · rw [List.flatMap_cons, List.flatten_cons, same, Lane.grants, phase]

/-- How a batch ends as a whole by the courses of its groups. -/
structure FailsFast (courses : String → Course) (keys : List String)
    (whole : Ended σ Empty (Except Fault (List SignedGrant)))
    : Prop where
  granted
    : ∀ granted,
        List.Forall₂ (fun key grants => (courses key).result = .ok grants) keys granted
        → whole.value = .ok granted.flatten
          ∧ whole.elapsed = (keys.map fun key => (courses key).finish).foldr max 0
          ∧ whole.calls = merged (keys.map fun key => (courses key).calls)
  failed
    : (∃ key ∈ keys, ∃ fault, (courses key).result = .error fault)
      → ∃ first fault,
          FailsFirst courses keys first fault
          ∧ whole.value = .error fault
          ∧ whole.elapsed = (courses first).finish
          ∧ whole.calls
            = merged (keys.map fun key =>
                (courses key).calls.filter (madeUntil (courses first).finish first key))

/-- A batch whose requests are answered in turn ends as its groups do on their own, all run from
time zero. If none fails it gives their grants, in the order of the content types, when the
last one ends. Else it ends as the first that fails, with the calls that were made until then.
-/
theorem requestAll_failsFast {setting : Setting σ} {answers : String → Nat → UploadAnswer}
    {state : σ}
    (inTurn : setting.authority.AnswersInTurn setting.correlation answers state)
    {batch : List EnrichedRequest} (nonempty : batch ≠ [])
    : let keys := (Partition.ofBatch batch).map (·.1)
      Partition.Divides batch keys (Partition.ofBatch batch)
      ∧ FailsFast (fun key => setting.courseAlone state (EnrichedRequest.ofType key batch)) keys
          ((requestAll setting batch).start state) := by
  intro keys
  have underway := lanes_underway inTurn batch
  have enough := Nat.le_refl (weight (lanes setting batch))
  have start : (requestAll setting batch).start state = _ :=
    operation_start setting true nonempty _ state
  have begin : (lanes setting batch).map (·.contentType) = keys :=
    contentTypes_eq (lanes_group setting batch)
  have final : (run setting true batch state).lanes.map (·.contentType) = keys :=
    contentTypes_eq (run_group setting true batch state)
  rw [start]
  refine ⟨?_, ?_, ?_⟩
  · obtain ⟨contentTypes, divides⟩ := Partition.ofBatch_divides batch
    have same : keys = contentTypes := by
      simp only [keys, divides.groups_eq, List.map_map]
      exact List.map_id contentTypes
    exact same ▸ divides
  · intro granted given
    have completes : Completes _ _ 0 (run setting true batch state) :=
      underway.proceed_completes inTurn enough fun _ key member => by
        obtain ⟨grants, _, own⟩ := Traversal.exists_partner given (begin ▸ member)
        exact ⟨grants, own⟩
    obtain ⟨none, grants⟩ := settled_grants completes.settled (final ▸ given)
    rw [begin] at completes
    refine ⟨?_, completes.time.trans (Nat.zero_max _), completes.calls⟩
    simp only [Ended.value, none, grants]
  · intro fails
    obtain ⟨first, fault, failsFirst⟩ := exists_failsFirst fails
    have clean (lane : Lane σ) (member : lane ∈ lanes setting batch)
        : lane.phase.fault? = none := by
      rw [lanes_phase member]
      rfl
    have stops : Stops _ _ first fault (run setting true batch state) :=
      underway.proceed_stops inTurn enough (begin ▸ failsFirst) clean
    rw [begin] at stops
    refine ⟨first, fault, failsFirst, ?_, stops.time, stops.calls⟩
    simp only [Ended.value, stops.fault]

/-- Uploads with one repetition after four milliseconds, on a rehearsed authority. -/
def rehearsed : Setting Script where
  authority := Script.authority
  serviceName := "uploads"
  policy := ⟨1, 4, 4, []⟩
  correlation := .nil

/-- One request for each of two content types. -/
def rehearsedBatch : List EnrichedRequest :=
  [UploadRequest.enriched .image ⟨"a", "a.png", ContentType.png, false, none⟩,
    UploadRequest.enriched .image ⟨"b", "b.jpg", ContentType.jpeg, false, none⟩]

/-- The first type is refused after seven milliseconds. The second one is busy, and its call is to
be repeated at that very moment.
-/
def rehearsedScript : Script where
  uploads :=
    [(ContentType.jpeg, [⟨.error fun origin => .rejected origin "REFUSED" "" none, 7⟩]),
      (ContentType.png, [⟨.error fun origin => .unavailable origin (.stated "busy"), 3⟩])]

/-- The repetition is not made any more, and the batch fails as its first group does. -/
theorem requestAll_failsFast_refused
    : Script.authority.AnswersInTurn .nil (rehearsedScript.uploadAnswers .nil) rehearsedScript
      ∧ rehearsedBatch ≠ []
      ∧ FailsFast
          (fun key =>
            rehearsed.courseAlone rehearsedScript (EnrichedRequest.ofType key rehearsedBatch))
          [ContentType.jpeg, ContentType.png]
          ((requestAll rehearsed rehearsedBatch).start rehearsedScript)
      ∧ ((requestAll rehearsed rehearsedBatch).start rehearsedScript).value
        = .error (.rejected ⟨.bulkUpload, .nil⟩ "REFUSED" "" none)
      ∧ ((requestAll rehearsed rehearsedBatch).start rehearsedScript).elapsed = 7
      ∧ ((requestAll rehearsed rehearsedBatch).start rehearsedScript).calls.map (·.time)
        = [0, 0] :=
  have nonempty : rehearsedBatch ≠ [] := List.cons_ne_nil _ _
  have inTurn := Script.authority_answersInTurn .nil rehearsedScript
  ⟨inTurn, nonempty, (requestAll_failsFast inTurn nonempty).2, rfl, rfl, rfl⟩

end Dispatch

end ObjectGrants
