import Mathlib.Data.List.MinMax
import Mathlib.Order.Nat
import ObjectGrants.Proofs.DispatchCourses

/-! The schedule of a dispatch by the courses of its lanes. Its calls are those of all courses,
merged by time, and if nothing stops it, it lasts as long as the longest of them.
-/

namespace ObjectGrants

-----------------------------------------------------------------------------------------
-- Merged logs
-----------------------------------------------------------------------------------------

/-- One log of several, by the times of the calls. Of calls at the same time those come first
that are in an earlier log.
-/
def merged (logs : List (List CallRecord)) : List CallRecord :=
  logs.foldr (fun log rest => log.merge rest fun first second => first.time ≤ second.time) []

/-- Calls that are no later than any of the other log stay in front of a merge. -/
theorem merge_append_left {made log rest : List CallRecord}
    (first : ∀ call ∈ made, ∀ record ∈ rest, call.time ≤ record.time)
    : (made ++ log).merge rest (fun first second => first.time ≤ second.time)
      = made ++ log.merge rest fun first second => first.time ≤ second.time := by
  induction made with
  | nil => rfl
  | cons call made ih =>
      have others := ih fun other member => first other (List.mem_cons_of_mem _ member)
      cases rest with
      | nil => simp
      | cons record rest =>
          have before := first call List.mem_cons_self record List.mem_cons_self
          rw [List.cons_append, List.cons_merge_cons, if_pos (decide_eq_true before), others]
          rfl

/-- Calls that are earlier than all of the other log come to the front of a merge. -/
theorem merge_append_right {made log rest : List CallRecord}
    (first : ∀ call ∈ made, ∀ record ∈ log, call.time < record.time)
    : log.merge (made ++ rest) (fun first second => first.time ≤ second.time)
      = made ++ log.merge rest fun first second => first.time ≤ second.time := by
  induction made with
  | nil => rfl
  | cons call made ih =>
      have others := ih fun other member => first other (List.mem_cons_of_mem _ member)
      cases log with
      | nil => simp
      | cons record log =>
          have before := first call List.mem_cons_self record List.mem_cons_self
          rw [List.cons_append, List.cons_merge_cons,
            if_neg (by simpa using before), others]
          rfl

/-- Merging neither loses a call nor repeats one. -/
theorem merged_perm (logs : List (List CallRecord)) : (merged logs).Perm logs.flatten := by
  induction logs with
  | nil => exact List.Perm.refl _
  | cons log rest ih =>
      change (log.merge (merged rest) _).Perm (log ++ rest.flatten)
      exact (List.merge_perm_append _).trans (ih.append_left log)

theorem mem_merged {logs : List (List CallRecord)} {record : CallRecord}
    : record ∈ merged logs ↔ ∃ log ∈ logs, record ∈ log := by
  rw [(merged_perm logs).mem_iff, List.mem_flatten]

/-- The calls of one log that are made next are the first of the merged log: those of the logs in
front are later, and those of the logs behind are not earlier.
-/
theorem merged_next {keys : List String} {logs rest : String → List CallRecord} {key : String}
    {made : List CallRecord} {time : Nat} (ascending : keys.Pairwise (· < ·))
    (member : key ∈ keys) (own : logs key = made ++ rest key)
    (others : ∀ other ∈ keys, other ≠ key → logs other = rest other)
    (now : ∀ record ∈ made, record.time = time)
    (later
      : ∀ other ∈ keys,
          ∀ record ∈ logs other,
            time ≤ record.time ∧ (other < key → time < record.time))
    : merged (keys.map logs) = made ++ merged (keys.map rest) := by
  induction keys with
  | nil => exact nomatch member
  | cons first keys ih =>
      obtain ⟨least, ascending⟩ := List.pairwise_cons.mp ascending
      change (logs first).merge (merged (keys.map logs)) _
        = made ++ (rest first).merge (merged (keys.map rest)) _
      rcases List.mem_cons.mp member with rfl | behind
      · have unchanged : keys.map logs = keys.map rest := by
          refine List.map_congr_left fun other among => ?_
          refine others other (List.mem_cons_of_mem _ among) fun same => ?_
          exact String.lt_irrefl _ (same ▸ least other among)
        rw [own, ← unchanged]
        refine merge_append_left fun call among record inRest => ?_
        obtain ⟨log, inLogs, inLog⟩ := mem_merged.mp inRest
        obtain ⟨other, inKeys, rfl⟩ := List.mem_map.mp inLogs
        rw [now call among]
        exact (later other (List.mem_cons_of_mem _ inKeys) record inLog).1
      · have before := least key behind
        have tail := ih ascending behind
          (fun other among => others other (List.mem_cons_of_mem _ among))
          (fun other among => later other (List.mem_cons_of_mem _ among))
        have same := others first List.mem_cons_self fun same =>
          String.lt_irrefl _ (same ▸ before)
        rw [tail, ← same]
        refine merge_append_right fun call among record inLog => ?_
        rw [now call among]
        exact (later first List.mem_cons_self record inLog).2 before

namespace Dispatch

variable {σ : Type}

-----------------------------------------------------------------------------------------
-- Events that are left
-----------------------------------------------------------------------------------------

theorem Phase.answered_weight (policy : RetryPolicy) (time left : Nat)
    (answer : Except Fault (List SignedGrant))
    : (Phase.answered policy time left answer : Phase σ).weight ≤ 2 * left := by
  unfold Phase.answered
  split
  · split
    · exact Nat.le_refl _
    · exact Nat.zero_le _
  · exact Nat.zero_le _

/-- Every event on a lane leaves fewer events there. -/
theorem Lane.fire_weight (setting : Setting σ) {lane : Lane σ} (state : σ) {time : Nat}
    (due : lane.phase.time? = some time)
    : (lane.fire setting state).subject.phase.weight < lane.phase.weight := by
  unfold Lane.fire
  cases phase : lane.phase with
  | due time left => exact Nat.lt_succ_self _
  | inFlight time left finish =>
      exact Nat.lt_succ_of_le (Phase.answered_weight setting.policy time left _)
  | settled result =>
      rw [phase] at due
      exact nomatch due

theorem weight_append (before behind : List (Lane σ))
    : weight (before ++ behind) = weight before + weight behind := by
  induction before with
  | nil => exact (Nat.zero_add _).symm
  | cons lane before ih =>
      change lane.phase.weight + weight (before ++ behind)
        = lane.phase.weight + weight before + weight behind
      rw [ih, Nat.add_assoc]

theorem fireAt_weight (setting : Setting σ) {lanes : List (Lane σ)} (state : σ) {time : Nat}
    (next : nextTime? lanes = some time)
    : weight (fireAt setting time state lanes).subject < weight lanes := by
  obtain ⟨before, lane, behind, rfl, due, early, _⟩ := nextTime?_split next
  rw [fireAt_split due fun other member same => Nat.lt_irrefl _ (early other member _ same)]
  have fewer := lane.fire_weight setting state due
  rw [weight_append, weight_append]
  change weight before + ((lane.fire setting state).subject.phase.weight + weight behind)
    < weight before + (lane.phase.weight + weight behind)
  omega

/-- Lanes without events have none that is next. -/
theorem nextTime?_of_weight {lanes : List (Lane σ)} (none : weight lanes = 0)
    : nextTime? lanes = .none := by
  cases next : nextTime? lanes with
  | none => rfl
  | some time =>
      obtain ⟨before, lane, behind, rfl, due, _⟩ := nextTime?_split next
      have positive : 0 < lane.phase.weight := by
        cases phase : lane.phase with
        | due time left => exact Nat.succ_pos _
        | inFlight time left finish => exact Nat.succ_pos _
        | settled result =>
            rw [phase] at due
            exact nomatch due
      rw [weight_append] at none
      change weight before + (lane.phase.weight + weight behind) = 0 at none
      omega

/-- When nothing is next, every lane has nothing left to do. -/
theorem time?_of_nextTime? {lanes : List (Lane σ)} (next : nextTime? lanes = none)
    : ∀ lane ∈ lanes, lane.phase.time? = none := by
  intro lane member
  have silent := List.min?_eq_none_iff.mp next
  rw [List.filterMap_eq_nil_iff] at silent
  exact silent lane member

-----------------------------------------------------------------------------------------
-- A dispatch that nothing stops
-----------------------------------------------------------------------------------------

/-- A lane that has failed has its course behind it. -/
theorem Lane.Follows.failed {setting : Setting σ} {answers : Nat → UploadAnswer}
    {now count : Nat} {lane : Lane σ} {course : Course} {fault : Fault}
    (follows : lane.Follows setting answers now count course)
    (failed : lane.phase.fault? = some fault)
    : course.result = .error fault ∧ course.calls = [] ∧ course.finish ≤ now := by
  cases follows with
  | due phase => exact nomatch failed.symm.trans (congrArg Phase.fault? phase)
  | inFlight phase => exact nomatch failed.symm.trans (congrArg Phase.fault? phase)
  | @settled result finish phase past =>
      rw [phase] at failed
      cases result with
      | ok grants => exact nomatch failed
      | error cause =>
          obtain rfl := Option.some.inj failed
          exact ⟨rfl, rfl, past⟩

theorem fireAt_contentTypes (setting : Setting σ) (time : Nat) (state : σ)
    (lanes : List (Lane σ))
    : (fireAt setting time state lanes).subject.map (·.contentType)
      = lanes.map (·.contentType) :=
  (contentTypes_eq (fireAt_group setting time state lanes)).trans (contentTypes_eq rfl).symm

/-- All courses have been run to their end, from moment `now` on. -/
structure Completes (courses : String → Course) (keys : List String) (now : Nat)
    (outcome : Outcome σ)
    : Prop where
  settled
    : ∀ lane ∈ outcome.lanes, lane.phase = .settled (courses lane.contentType).result
  time : outcome.time = max now ((keys.map fun key => (courses key).finish).foldr max 0)
  calls : outcome.calls = merged (keys.map fun key => (courses key).calls)

section

variable {setting : Setting σ} {answers : String → Nat → UploadAnswer} {initial state : σ}
  {now time : Nat} {courses : String → Course} {lanes : List (Lane σ)} {key : String}
  {rest : Course} {fired : Fired σ (List (Lane σ))}

/-- Whatever moves a course on leaves its end and its result. -/
theorem Moves.kept (moves : Moves time courses lanes key rest fired) (other : String)
    : (Function.update courses key rest other).finish = (courses other).finish
      ∧ (Function.update courses key rest other).result = (courses other).result := by
  by_cases own : other = key
  · subst own
    rw [Function.update_self, moves.own]
    exact ⟨rfl, rfl⟩
  · rw [Function.update_of_ne own]
    exact ⟨rfl, rfl⟩

/-- The calls that are still to be made come after the event, those of the lanes in front behind
its moment.
-/
theorem Moves.calls_later (moves : Moves time courses lanes key rest fired)
    (underway : Underway setting answers initial now courses lanes state)
    : ∀ other ∈ lanes.map (·.contentType),
        ∀ record ∈ (courses other).calls,
          time ≤ record.time ∧ (other < key → time < record.time) := by
  intro other member record made
  obtain ⟨lane, among, rfl⟩ := List.mem_map.mp member
  obtain ⟨_, counts, _, follows⟩ := underway
  have unsettled : lane.phase.time? ≠ none := by
    intro past
    rw [((follows lane among).finished past).2.1] at made
    exact nomatch made
  obtain ⟨starts, inFront⟩ := moves.later lane among unsettled
  exact ⟨(starts.calls record made).1, fun less => ((inFront less).calls record made).1⟩

/-- Of the calls to keep, those of the next event are the first in the merged log. -/
theorem Moves.merged_filter (moves : Moves time courses lanes key rest fired)
    (underway : Underway setting answers initial now courses lanes state)
    (keep : String → CallRecord → Bool)
    (kept : ∀ record ∈ fired.calls, keep key record = true)
    : merged
        ((lanes.map (·.contentType)).map fun other =>
          (courses other).calls.filter (keep other))
      = fired.calls
        ++ merged
            ((lanes.map (·.contentType)).map fun other =>
              (Function.update courses key rest other).calls.filter (keep other)) := by
  have later := moves.calls_later underway
  refine merged_next underway.sorted.contentTypes moves.member ?_ ?_ moves.made ?_
  · rw [Function.update_self, congrArg Course.calls moves.own, List.filter_append,
      List.filter_eq_self.mpr kept]
  · intro other _ unlike
    rw [Function.update_of_ne unlike]
  · intro other member record made
    exact later other member record (List.mem_filter.mp made).1

/-- No lane fails if all courses are granted something. -/
theorem Moves.none_failed (moves : Moves time courses lanes key rest fired)
    (onwards
      : Underway setting answers initial time (Function.update courses key rest) fired.subject
          fired.state)
    (granted
      : ∀ other ∈ fired.subject.map (·.contentType),
          ∃ grants, (courses other).result = .ok grants)
    : ¬ fired.subject.any (·.phase.fault?.isSome) = true := by
  intro stops
  obtain ⟨lane, member, isSome⟩ := List.any_eq_true.mp stops
  obtain ⟨fault, failed⟩ := Option.isSome_iff_exists.mp isSome
  obtain ⟨counts, _, follows⟩ := onwards.follows
  have result := ((follows lane member).failed failed).1
  rw [(moves.kept _).2] at result
  obtain ⟨grants, given⟩ := granted lane.contentType (List.mem_map_of_mem member)
  cases result.symm.trans given

/-- Courses that are completed behind an event are completed with it. -/
theorem Moves.completes (moves : Moves time courses lanes key rest fired)
    (underway : Underway setting answers initial now courses lanes state) (reached : now ≤ time)
    {outcome : Outcome σ}
    (completes
      : Completes (Function.update courses key rest) (lanes.map (·.contentType)) time outcome)
    : Completes courses (lanes.map (·.contentType)) now
        { outcome with calls := fired.calls ++ outcome.calls } := by
  constructor
  · intro lane member
    rw [completes.settled lane member, (moves.kept _).2]
  · have finishes
        : (lanes.map (·.contentType)).map
            (fun other => (Function.update courses key rest other).finish)
          = (lanes.map (·.contentType)).map fun other => (courses other).finish :=
      List.map_congr_left fun other _ => (moves.kept other).1
    have among
        : (courses key).finish
          ∈ (lanes.map (·.contentType)).map fun other => (courses other).finish :=
      List.mem_map.mpr ⟨key, moves.member, rfl⟩
    have longest := List.le_max_of_le among moves.starts.finish
    change time ≤ List.foldr max 0 _ at longest
    rw [completes.time, finishes]
    omega
  · have all := moves.merged_filter underway (fun _ _ => true) fun _ _ => rfl
    simp only [List.filter_true] at all
    rw [all, ← completes.calls]

/-- Lanes that have nothing left to do are complete. -/
theorem Underway.completes
    (underway : Underway setting answers initial now courses lanes state)
    (past : ∀ lane ∈ lanes, lane.phase.time? = none)
    : Completes courses (lanes.map (·.contentType)) now ⟨lanes, now, [], state⟩ := by
  obtain ⟨_, counts, _, follows⟩ := underway
  have done (lane : Lane σ) (member : lane ∈ lanes) :=
    (follows lane member).finished (past lane member)
  refine ⟨fun lane member => (done lane member).1, ?_, ?_⟩
  · refine (Nat.max_eq_left (List.max_le_of_forall_le _ now fun finish member => ?_)).symm
    simp only [List.mem_map] at member
    obtain ⟨_, ⟨lane, member, rfl⟩, rfl⟩ := member
    exact (done lane member).2.2
  · refine (List.eq_nil_iff_forall_not_mem.mpr fun record member => ?_).symm
    obtain ⟨log, inLogs, inLog⟩ := mem_merged.mp member
    simp only [List.mem_map] at inLogs
    obtain ⟨_, ⟨lane, member, rfl⟩, rfl⟩ := inLogs
    rw [(done lane member).2.1] at inLog
    exact nomatch inLog

end

/-- Unless something stops it, a dispatch completes all courses. Witness: induction on the events
that are left, each of which is the next of the merged log.
-/
theorem Underway.proceed_completes {setting : Setting σ}
    {answers : String → Nat → UploadAnswer} {initial : σ}
    (inTurn : setting.authority.AnswersInTurn setting.correlation answers initial)
    {failFast : Bool} {events now : Nat} {courses : String → Course} {lanes : List (Lane σ)}
    {state : σ} (underway : Underway setting answers initial now courses lanes state)
    (enough : weight lanes ≤ events)
    (free
      : failFast = true
        → ∀ key ∈ lanes.map (·.contentType), ∃ grants, (courses key).result = .ok grants)
    : Completes courses (lanes.map (·.contentType)) now
        (proceed setting failFast events now lanes state) := by
  induction events generalizing now courses lanes state with
  | zero =>
      exact underway.completes (time?_of_nextTime? (nextTime?_of_weight (by omega)))
  | succ events ih =>
      rw [proceed]
      cases next : nextTime? lanes with
      | none => exact underway.completes (time?_of_nextTime? next)
      | some time =>
          obtain ⟨key, rest, moves, reached, onwards⟩ := underway.moves inTurn next
          have keys := fireAt_contentTypes setting time state lanes
          have fewer := fireAt_weight setting state next
          have others := ih onwards (by omega) (by
            intro fast other member
            rw [(moves.kept other).2]
            exact free fast other (keys ▸ member))
          rw [keys] at others
          dsimp only
          rw [if_neg]
          · exact moves.completes underway reached others
          · intro stops
            obtain ⟨fast, failed⟩ := Bool.and_eq_true_iff.mp stops
            exact moves.none_failed onwards (keys ▸ free fast) failed

/-- The operation on a batch that is not empty, started at time zero. -/
theorem operation_start {α : Type} (setting : Setting σ) (failFast : Bool)
    {batch : List EnrichedRequest} (nonempty : batch ≠ [])
    (result : List (Lane σ) → Except Fault α) (state : σ)
    : (operation setting failFast batch result).start state
      = let outcome := run setting failFast batch state
        { outcome := .ok (result outcome.lanes)
          elapsed := outcome.time
          calls := outcome.calls
          state := outcome.state } := by
  have unmoved : CallRecord.after 0 = id := by
    funext record
    rw [CallRecord.after, Nat.zero_add]
    rfl
  rw [Operation.start_eq, operation_runAt setting failFast nonempty, unmoved, List.map_id]

end Dispatch

end ObjectGrants
