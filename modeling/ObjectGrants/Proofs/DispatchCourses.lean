import Mathlib.Logic.Function.Basic
import ObjectGrants.Proofs.Enrichment
import ObjectGrants.Proofs.UploadTurns

/-! The lanes of a dispatch and their courses. Lanes whose requests are answered in turn do not
influence each other: what happens on one of them is the next step of its own course, whatever
happens on the others meanwhile.
-/

namespace ObjectGrants

namespace Dispatch

variable {σ : Type}

-----------------------------------------------------------------------------------------
-- Times of a course
-----------------------------------------------------------------------------------------

/-- Nothing of a course is done before `time`, and its calls are made before it ends. -/
structure Course.From (time : Nat) (course : Course) : Prop where
  finish : time ≤ course.finish
  calls : ∀ record ∈ course.calls, time ≤ record.time ∧ record.time ≤ course.finish

theorem Course.From.mono {earlier later : Nat} {course : Course}
    (starts : course.From later) (le : earlier ≤ later)
    : course.From earlier :=
  ⟨Nat.le_trans le starts.finish, fun record member =>
    ⟨Nat.le_trans le (starts.calls record member).1, (starts.calls record member).2⟩⟩

theorem Course.From.calling {time later : Nat} {course : Course} (starts : course.From later)
    {record : CallRecord} (made : record.time = time) (le : time ≤ later)
    : (course.calling record).From time := by
  have ends := starts.finish
  refine ⟨Nat.le_trans le ends, fun other member => ?_⟩
  rcases List.mem_cons.mp member with rfl | behind
  · simp only [Course.calling]
    omega
  · have := starts.calls other behind
    simp only [Course.calling]
    omega

/-- A course takes place from the answer on that it goes on from, by induction on the
repetitions left.
-/
theorem Course.answered_from (policy : RetryPolicy) (answers : Nat → UploadAnswer)
    {record : Nat → CallRecord} (made : ∀ time, (record time).time = time) (left time : Nat)
    : (Course.answered policy answers record left time).From time := by
  induction left generalizing time with
  | zero => exact ⟨Nat.le_refl time, nofun⟩
  | succ left ih =>
      unfold Course.answered
      split
      · exact ⟨Nat.le_refl time, nofun⟩
      · split
        · refine From.mono ((ih _).calling (made _) (Nat.le_add_right _ _)) ?_
          exact Nat.le_add_right _ _
        · exact ⟨Nat.le_refl time, nofun⟩

theorem Course.due_from (policy : RetryPolicy) (answers : Nat → UploadAnswer)
    {record : Nat → CallRecord} (made : ∀ time, (record time).time = time) (left time : Nat)
    : (Course.due policy answers record left time).From time :=
  (answered_from policy answers made left _).calling (made time) (Nat.le_add_right _ _)

-----------------------------------------------------------------------------------------
-- One lane
-----------------------------------------------------------------------------------------

/-- The turn of a lane that waits for an answer. -/
def Lane.turn? (policy : RetryPolicy) (lane : Lane σ) : Option (Turn σ) :=
  match lane.phase with
  | .inFlight _ left finish => some ⟨lane.contentType, policy.retries - left, finish⟩
  | _ => none

/-- How a lane stands on its course at moment `now`, with `count` requests made for its content
type.
-/
inductive Lane.Follows (setting : Setting σ) (answers : Nat → UploadAnswer) (now count : Nat)
    (lane : Lane σ)
    : Course → Prop where
  | due {time left} (phase : lane.phase = .due time left) (later : now ≤ time)
    (allowed : left ≤ setting.policy.retries) (made : count = setting.policy.retries - left)
    : Follows setting answers now count lane
        (.due setting.policy answers (setting.record · lane.requests) left time)
  | inFlight {time left finish} (phase : lane.phase = .inFlight time left finish)
    (later : now ≤ time) (allowed : left ≤ setting.policy.retries)
    (made : count = setting.policy.retries - left + 1)
    : Follows setting answers now count lane
        (.answered setting.policy answers (setting.record · lane.requests) left time)
  | settled {result finish} (phase : lane.phase = .settled result) (past : finish ≤ now)
    : Follows setting answers now count lane ⟨[], finish, result⟩

/-- A lane with something left to do goes on with its course at its next event. -/
theorem Lane.Follows.next {setting : Setting σ} {answers : Nat → UploadAnswer}
    {now count time : Nat} {lane : Lane σ} {course : Course}
    (follows : lane.Follows setting answers now count course)
    (next : lane.phase.time? = some time)
    : now ≤ time ∧ course.From time := by
  cases follows with
  | due phase later =>
      rw [phase] at next
      obtain rfl := Option.some.inj next
      exact ⟨later, Course.due_from _ _ (fun _ => rfl) _ _⟩
  | inFlight phase later =>
      rw [phase] at next
      obtain rfl := Option.some.inj next
      exact ⟨later, Course.answered_from _ _ (fun _ => rfl) _ _⟩
  | settled phase =>
      rw [phase] at next
      exact nomatch next

/-- A lane with nothing left to do has its course behind it. -/
theorem Lane.Follows.finished {setting : Setting σ} {answers : Nat → UploadAnswer}
    {now count : Nat} {lane : Lane σ} {course : Course}
    (follows : lane.Follows setting answers now count course)
    (past : lane.phase.time? = none)
    : lane.phase = .settled course.result ∧ course.calls = [] ∧ course.finish ≤ now := by
  cases follows with
  | due phase => exact nomatch past.symm.trans (congrArg Phase.time? phase)
  | inFlight phase => exact nomatch past.symm.trans (congrArg Phase.time? phase)
  | settled phase past => exact ⟨phase, rfl, past⟩

/-- A lane on which nothing happens stays on its course, as long as nothing on it is passed by.
-/
theorem Lane.Follows.wait {setting : Setting σ} {answers : Nat → UploadAnswer}
    {now next count : Nat} {lane : Lane σ} {course : Course}
    (follows : lane.Follows setting answers now count course) (le : now ≤ next)
    (least : ∀ time, lane.phase.time? = some time → next ≤ time)
    : lane.Follows setting answers next count course := by
  cases follows with
  | due phase _ allowed made => exact .due phase (least _ (by rw [phase]; rfl)) allowed made
  | inFlight phase _ allowed made =>
      exact .inFlight phase (least _ (by rw [phase]; rfl)) allowed made
  | settled phase past => exact .settled phase (Nat.le_trans past le)

theorem Lane.fire_due (setting : Setting σ) {lane : Lane σ} {time left : Nat}
    (phase : lane.phase = .due time left) (state : σ)
    : let pending := setting.authority.accept setting.correlation
        (.bulkUpload (lane.requests.map (UploadDescriptor.ofRequest setting.serviceName))) state
      lane.fire setting state
        = ⟨{ lane with phase := .inFlight (time + pending.delay) left pending.finish },
            [setting.record time lane.requests], pending.state⟩ := by
  simp only [Lane.fire, phase]
  rfl

theorem Lane.fire_inFlight (setting : Setting σ) {lane : Lane σ} {time left : Nat}
    {finish : σ → Except Fault (List SignedGrant) × σ}
    (phase : lane.phase = .inFlight time left finish) (state : σ)
    : lane.fire setting state
      = ⟨{ lane with phase := .answered setting.policy time left (finish state).1 }, [],
          (finish state).2⟩ := by
  simp only [Lane.fire, phase]

/-- What happens on a lane is the next step of its course, and a turn of the authority. -/
theorem Lane.fire_follows {setting : Setting σ} {answers : String → Nat → UploadAnswer}
    {initial : σ}
    (inTurn : setting.authority.AnswersInTurn setting.correlation answers initial)
    {counts : String → Nat} {before behind : List (Turn σ)} {state : σ} {now time : Nat}
    {lane : Lane σ} {course : Course}
    (uniform
      : UploadDescriptor.AllOf lane.contentType
          (lane.requests.map (UploadDescriptor.ofRequest setting.serviceName)))
    (served
      : setting.authority.Serves setting.correlation initial counts
          (before ++ (lane.turn? setting.policy).toList ++ behind) state)
    (follows
      : lane.Follows setting (answers lane.contentType) now (counts lane.contentType) course)
    (next : lane.phase.time? = some time)
    : let fired := lane.fire setting state
      ∃ more rest,
        setting.authority.Serves setting.correlation initial
          (Function.update counts lane.contentType more)
          (before ++ (fired.subject.turn? setting.policy).toList ++ behind) fired.state
        ∧ fired.subject.Follows setting (answers lane.contentType) time more rest
        ∧ course = { rest with calls := fired.calls ++ rest.calls }
        ∧ ∀ record ∈ fired.calls, record.time = time := by
  cases follows with
  | @due due left phase _ allowed made =>
      rw [phase] at next
      obtain rfl := Option.some.inj next
      -- The call takes the next number of its content type, and waits for that answer.
      have silent : (lane.turn? setting.policy).toList = [] := by
        simp only [Lane.turn?, phase]
        rfl
      rw [silent, List.append_nil] at served
      rw [lane.fire_due setting phase]
      refine ⟨counts lane.contentType + 1, _, ?_, .inFlight rfl (Nat.le_add_right _ _) allowed
        (by rw [made]), ?_, by simp⟩
      · have asked := served.asked uniform
        simp only [Lane.turn?, List.append_assoc]
        rw [← made]
        exact asked
      · rw [inTurn.delay served uniform, made]
        rfl
  | @inFlight due left finish phase _ allowed made =>
      rw [phase] at next
      obtain rfl := Option.some.inj next
      -- The answer is that of the number of the call, whatever was asked and answered since.
      let turn : Turn σ := ⟨lane.contentType, setting.policy.retries - left, finish⟩
      have waiting : (lane.turn? setting.policy).toList = [turn] := by
        simp only [Lane.turn?, phase]
        rfl
      rw [waiting, List.append_assoc] at served
      have heard
          : (finish state).1
            = (answers lane.contentType (setting.policy.retries - left)).result :=
        inTurn.result served turn (by simp)
      have behindTurn := served.answered
      rw [lane.fire_inFlight setting phase, heard]
      refine ⟨counts lane.contentType, ?_⟩
      rw [Function.update_eq_self]
      rcases Phase.answered_course (σ := σ) setting.policy (answers lane.contentType)
          (setting.record · lane.requests) left due with
        ⟨next, fewer, rfl, later, phase', course⟩ | ⟨phase', course⟩
      · refine ⟨_, ?_, .due phase' later (by omega) (by omega), course, List.forall_mem_nil _⟩
        simp only [Lane.turn?, phase', Option.toList, List.append_nil]
        exact behindTurn
      · refine ⟨_, ?_, .settled phase' (Nat.le_refl due), course, List.forall_mem_nil _⟩
        simp only [Lane.turn?, phase', Option.toList, List.append_nil]
        exact behindTurn
  | settled phase =>
      rw [phase] at next
      cases next

-----------------------------------------------------------------------------------------
-- All lanes
-----------------------------------------------------------------------------------------

/-- The content types of groups ascend, and every group is of its content type throughout. -/
structure Sorted (setting : Setting σ) (groups : Partition) : Prop where
  ascending : (groups.map (·.1)).Pairwise (· < ·)
  uniform
    : ∀ group ∈ groups,
        UploadDescriptor.AllOf group.1
          (group.2.map (UploadDescriptor.ofRequest setting.serviceName))

theorem contentTypes_eq {lanes : List (Lane σ)} {groups : Partition}
    (same : lanes.map Lane.group = groups)
    : lanes.map (·.contentType) = groups.map (·.1) := by
  rw [← same, List.map_map]
  rfl

theorem Sorted.contentTypes {setting : Setting σ} {lanes : List (Lane σ)}
    (sorted : Sorted setting (lanes.map Lane.group))
    : (lanes.map (·.contentType)).Pairwise (· < ·) := by
  rw [contentTypes_eq rfl]
  exact sorted.ascending

theorem Sorted.split {setting : Setting σ} {before behind : List (Lane σ)} {lane : Lane σ}
    (sorted : Sorted setting ((before ++ lane :: behind).map Lane.group))
    : (∀ other ∈ before, other.contentType < lane.contentType)
      ∧ ∀ other ∈ behind, lane.contentType < other.contentType := by
  have ascending := sorted.contentTypes
  rw [List.map_append, List.map_cons, List.pairwise_append] at ascending
  obtain ⟨_, behindLane, across⟩ := ascending
  constructor
  · intro other member
    exact across _ (List.mem_map_of_mem member) _ List.mem_cons_self
  · intro other member
    exact (List.pairwise_cons.mp behindLane).1 _ (List.mem_map_of_mem member)

/-- Every lane is on the course of its content type, and the authority has been asked and has
answered accordingly.
-/
structure Underway (setting : Setting σ) (answers : String → Nat → UploadAnswer) (initial : σ)
    (now : Nat) (courses : String → Course) (lanes : List (Lane σ)) (state : σ)
    : Prop where
  sorted : Sorted setting (lanes.map Lane.group)
  follows
    : ∃ counts,
        setting.authority.Serves setting.correlation initial counts
          (lanes.flatMap fun lane => (lane.turn? setting.policy).toList) state
        ∧ ∀ lane ∈ lanes,
            lane.Follows setting (answers lane.contentType) now (counts lane.contentType)
              (courses lane.contentType)

/-- The next event is on the first lane for which one is due then. -/
theorem nextTime?_split {lanes : List (Lane σ)} {time : Nat}
    (next : nextTime? lanes = some time)
    : ∃ before lane behind,
        lanes = before ++ lane :: behind
        ∧ lane.phase.time? = some time
        ∧ (∀ other ∈ before, ∀ later, other.phase.time? = some later → time < later)
        ∧ ∀ other ∈ behind, ∀ later, other.phase.time? = some later → time ≤ later := by
  obtain ⟨⟨due, member, dueThen⟩, least⟩ := nextTime?_eq_some next
  have found : (lanes.find? (·.phase.time? == some time)).isSome = true :=
    List.find?_isSome.mpr ⟨due, member, by simp [dueThen]⟩
  obtain ⟨lane, first⟩ := Option.isSome_iff_exists.mp found
  obtain ⟨dueNow, before, behind, rfl, others⟩ := List.find?_eq_some_iff_append.mp first
  refine ⟨before, lane, behind, rfl, eq_of_beq dueNow, ?_, ?_⟩
  · intro other among later dueLater
    have le := least other (by simp [among]) later dueLater
    have unlike : later ≠ time := by
      rintro rfl
      simpa [dueLater] using others other among
    omega
  · intro other among
    exact least other (by simp [among])

theorem fireAt_split {setting : Setting σ} {time : Nat} {state : σ}
    {before behind : List (Lane σ)} {lane : Lane σ} (due : lane.phase.time? = some time)
    (later : ∀ other ∈ before, other.phase.time? ≠ some time)
    : fireAt setting time state (before ++ lane :: behind)
      = { lane.fire setting state with
          subject := before ++ (lane.fire setting state).subject :: behind } := by
  induction before with
  | nil => simp [fireAt, due]
  | cons other before ih =>
      have own := later other List.mem_cons_self
      rw [List.cons_append, fireAt, if_neg own,
        ih fun lane member => later lane (List.mem_cons_of_mem _ member)]
      rfl

/-- How the next event of all lanes moves the courses on. -/
structure Moves (time : Nat) (courses : String → Course) (lanes : List (Lane σ))
    (key : String) (rest : Course) (fired : Fired σ (List (Lane σ)))
    : Prop where
  member : key ∈ lanes.map (·.contentType)
  own : courses key = { rest with calls := fired.calls ++ rest.calls }
  starts : (courses key).From time
  made : ∀ record ∈ fired.calls, record.time = time
  later
    : ∀ lane ∈ lanes,
        lane.phase.time? ≠ none
        → (courses lane.contentType).From time
          ∧ (lane.contentType < key → (courses lane.contentType).From (time + 1))
  others : ∀ lane ∈ fired.subject, lane.contentType ≠ key → lane ∈ lanes

/-- The next event of some lanes is the next step on the course of one of them, and leaves all
others where they are.
-/
theorem Underway.moves {setting : Setting σ} {answers : String → Nat → UploadAnswer}
    {initial : σ}
    (inTurn : setting.authority.AnswersInTurn setting.correlation answers initial)
    {now time : Nat} {courses : String → Course} {lanes : List (Lane σ)} {state : σ}
    (underway : Underway setting answers initial now courses lanes state)
    (next : nextTime? lanes = some time)
    : let fired := fireAt setting time state lanes
      ∃ key rest,
        Moves time courses lanes key rest fired
        ∧ now ≤ time
        ∧ Underway setting answers initial time (Function.update courses key rest) fired.subject
            fired.state := by
  obtain ⟨before, lane, behind, rfl, due, early, late⟩ := nextTime?_split next
  obtain ⟨sorted, counts, served, follows⟩ := underway
  obtain ⟨smaller, greater⟩ := sorted.split
  have here : lane ∈ before ++ lane :: behind := by simp
  have groups := fireAt_group setting time state (before ++ lane :: behind)
  rw [fireAt_split due fun other member same => Nat.lt_irrefl _ (early other member _ same)]
    at groups ⊢
  rw [List.flatMap_append, List.flatMap_cons, ← List.append_assoc] at served
  have ⟨reached, starts⟩ := (follows lane here).next due
  obtain ⟨more, rest, served', follows', own, made⟩ :=
    lane.fire_follows inTurn (sorted.uniform _ (List.mem_map_of_mem here)) served
      (follows lane here) due
  have kept : (lane.fire setting state).subject.contentType = lane.contentType :=
    congrArg Prod.fst (lane.fire_group setting state)
  refine ⟨lane.contentType, rest,
    ⟨List.mem_map_of_mem here, own, starts, made, ?_, ?_⟩, reached, ?_⟩
  · intro other member unsettled
    obtain ⟨later, dueThen⟩ := Option.ne_none_iff_exists'.mp unsettled
    have from' := ((follows other member).next dueThen).2
    rcases List.mem_append.mp member with ahead | others
    · have lt := early other ahead later dueThen
      exact ⟨from'.mono (Nat.le_of_lt lt), fun _ => from'.mono lt⟩
    · rcases List.mem_cons.mp others with rfl | behindLane
      · exact ⟨starts, fun less => absurd less (String.lt_irrefl _)⟩
      · refine ⟨from'.mono (late other behindLane later dueThen), fun less => ?_⟩
        exact absurd (String.lt_trans less (greater other behindLane)) (String.lt_irrefl _)
  · intro other member unlike
    simp only [List.mem_append, List.mem_cons] at member ⊢
    rcases member with ahead | rfl | behindLane
    · exact Or.inl ahead
    · exact absurd kept unlike
    · exact Or.inr (Or.inr behindLane)
  · refine ⟨groups ▸ sorted, Function.update counts lane.contentType more, ?_, ?_⟩
    · rw [List.flatMap_append, List.flatMap_cons, ← List.append_assoc]
      exact served'
    · have stays (other : Lane σ) (member : other ∈ before ++ lane :: behind)
          (unlike : other.contentType ≠ lane.contentType)
          (least : ∀ later, other.phase.time? = some later → time ≤ later)
          : other.Follows setting (answers other.contentType) time
              (Function.update counts lane.contentType more other.contentType)
              (Function.update courses lane.contentType rest other.contentType) := by
        rw [Function.update_of_ne unlike, Function.update_of_ne unlike]
        exact (follows other member).wait reached least
      intro other member
      rcases List.mem_append.mp member with ahead | others
      · refine stays other (List.mem_append_left _ ahead) ?_ ?_
        · exact fun same => String.lt_irrefl _ (same ▸ smaller other ahead)
        · exact fun later dueThen => Nat.le_of_lt (early other ahead later dueThen)
      · rcases List.mem_cons.mp others with rfl | behindLane
        · rw [kept, Function.update_self, Function.update_self]
          exact follows'
        · refine stays other (by simp [behindLane]) ?_ (late other behindLane)
          exact fun same => String.lt_irrefl _ (same ▸ greater other behindLane)

-----------------------------------------------------------------------------------------
-- The lanes of a batch
-----------------------------------------------------------------------------------------

/-- The groups of a batch are those of its content types, in ascending order. -/
theorem ofBatch_sorted (setting : Setting σ) (batch : List EnrichedRequest)
    : Sorted setting (Partition.ofBatch batch) := by
  obtain ⟨contentTypes, ascending, present, groups⟩ := Partition.ofBatch_divides batch
  rw [groups]
  constructor
  · rw [List.map_map]
    exact (List.map_id contentTypes).symm ▸ ascending
  · intro group member
    obtain ⟨contentType, among, rfl⟩ := List.mem_map.mp member
    obtain ⟨request, inBatch, own⟩ := (present contentType).mp among
    constructor
    · have inGroup : request ∈ EnrichedRequest.ofType contentType batch :=
        List.mem_filter.mpr ⟨inBatch, by simp [own]⟩
      exact fun none => List.ne_nil_of_mem inGroup (List.map_eq_nil_iff.mp none)
    · intro descriptor asked
      obtain ⟨other, inGroup, rfl⟩ := List.mem_map.mp asked
      exact eq_of_beq (List.mem_filter.mp inGroup).2

theorem ofBatch_ofType {batch : List EnrichedRequest} {group : String × List EnrichedRequest}
    (member : group ∈ Partition.ofBatch batch)
    : group.2 = EnrichedRequest.ofType group.1 batch := by
  obtain ⟨contentTypes, _, _, groups⟩ := Partition.ofBatch_divides batch
  rw [groups] at member
  obtain ⟨contentType, _, rfl⟩ := List.mem_map.mp member
  rfl

theorem lanes_phase {setting : Setting σ} {batch : List EnrichedRequest} {lane : Lane σ}
    (member : lane ∈ lanes setting batch)
    : lane.phase = .due 0 setting.policy.retries := by
  unfold lanes at member
  obtain ⟨group, _, rfl⟩ := List.mem_map.mp member
  rfl

/-- A dispatch begins with every lane on the course that its group takes on its own. -/
theorem lanes_underway {setting : Setting σ} {answers : String → Nat → UploadAnswer}
    {initial : σ}
    (inTurn : setting.authority.AnswersInTurn setting.correlation answers initial)
    (batch : List EnrichedRequest)
    : Underway setting answers initial 0
        (fun key => setting.courseAlone initial (EnrichedRequest.ofType key batch))
        (lanes setting batch) initial := by
  have sorted : Sorted setting ((lanes setting batch).map Lane.group) :=
    lanes_group setting batch ▸ ofBatch_sorted setting batch
  refine ⟨sorted, fun _ => 0, ?_, ?_⟩
  · have silent
        : (lanes setting batch).flatMap (fun lane => (lane.turn? setting.policy).toList)
          = [] := by
      refine List.flatMap_eq_nil_iff.mpr fun lane member => ?_
      simp only [Lane.turn?, lanes_phase member, Option.toList]
    rw [silent]
    exact .start
  · intro lane member
    have among : lane.group ∈ (lanes setting batch).map Lane.group :=
      List.mem_map_of_mem member
    have requests : lane.requests = EnrichedRequest.ofType lane.contentType batch := by
      rw [lanes_group] at among
      exact ofBatch_ofType among
    have uniform
        : UploadDescriptor.AllOf lane.contentType
            (lane.requests.map (UploadDescriptor.ofRequest setting.serviceName)) :=
      sorted.uniform lane.group among
    rw [← requests, inTurn.courseAlone_eq uniform]
    exact .due (lanes_phase member) (Nat.zero_le 0) (Nat.le_refl _) (Nat.sub_self _).symm

end Dispatch

end ObjectGrants
