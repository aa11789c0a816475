import ObjectGrants.Dispatch
import ObjectGrants.Proofs.Conversation
import ObjectGrants.Proofs.Timed
import ObjectGrants.Proofs.Traversal

/-! The dispatch of a batch as a conversation. Its lanes ask and are answered in turns, and a
lane that has grants in the end was given them in an answer to its own call.
-/

namespace ObjectGrants

/-- The same call, made so much later. -/
def CallRecord.after (start : Nat) (record : CallRecord) : CallRecord :=
  { record with time := start + record.time }

namespace Dispatch

variable {σ : Type}

-----------------------------------------------------------------------------------------
-- Groups
-----------------------------------------------------------------------------------------

/-- The group of a batch that a lane is for. -/
def Lane.group (lane : Lane σ) : String × List EnrichedRequest :=
  (lane.contentType, lane.requests)

/-- A lane stays with its group, whatever happens on it. -/
theorem Lane.fire_group (setting : Setting σ) (lane : Lane σ) (state : σ)
    : (lane.fire setting state).subject.group = lane.group := by
  unfold Lane.fire
  cases lane.phase <;> rfl

/-- An event leaves every lane with its group, by induction on the lanes. -/
theorem fireAt_group (setting : Setting σ) (time : Nat) (state : σ) (lanes : List (Lane σ))
    : (fireAt setting time state lanes).subject.map Lane.group = lanes.map Lane.group := by
  induction lanes with
  | nil => rfl
  | cons lane rest ih =>
      unfold fireAt
      split
      · simp [Lane.fire_group]
      · simp [ih]

/-- The groups of a dispatch stay what they are, by induction on the events that are left. -/
theorem proceed_group (setting : Setting σ) (failFast : Bool) (events time : Nat)
    (lanes : List (Lane σ)) (state : σ)
    : (proceed setting failFast events time lanes state).lanes.map Lane.group
      = lanes.map Lane.group := by
  induction events generalizing time lanes state with
  | zero => rfl
  | succ events ih =>
      rw [proceed]
      split
      · rfl
      · dsimp only
        split
        · exact fireAt_group ..
        · exact (ih ..).trans (fireAt_group ..)

theorem lanes_group (setting : Setting σ) (batch : List EnrichedRequest)
    : (lanes setting batch).map Lane.group = Partition.ofBatch batch := by
  unfold lanes
  rw [List.map_map]
  exact List.map_id _

/-- A dispatch ends with one lane for each group of its batch, in the order of the groups. -/
theorem run_group (setting : Setting σ) (failFast : Bool) (batch : List EnrichedRequest)
    (state : σ)
    : (run setting failFast batch state).lanes.map Lane.group = Partition.ofBatch batch := by
  unfold run
  rw [proceed_group, lanes_group]

-----------------------------------------------------------------------------------------
-- Lanes in a conversation
-----------------------------------------------------------------------------------------

/-- The call of a lane, made at a time. -/
abbrev Setting.record (setting : Setting σ) (time : Nat) (requests : List EnrichedRequest)
    : CallRecord :=
  ⟨time, setting.correlation,
    .bulkUpload (requests.map (UploadDescriptor.ofRequest setting.serviceName))⟩

/-- How a lane stands at moment `now` of a dispatch that began at `start`, after the events of
`history`: with its question, if one waits, with nothing overdue, and with no grants but
those of an answer to its own call.
-/
inductive Lane.Stands (setting : Setting σ) (start now : Nat) (history : List Event)
    (lane : Lane σ)
    : Option (Question σ) → Prop where
  | due {time left} (phase : lane.phase = .due time left) (later : now ≤ time)
    : Stands setting start now history lane none
  | inFlight {asked time left due finish} (phase : lane.phase = .inFlight time left finish)
    (later : now ≤ time) (due_eq : due = start + time)
    : Stands setting start now history lane
        (some ⟨setting.record asked lane.requests, due, finish⟩)
  | failed {fault} (phase : lane.phase = .settled (.error fault))
    : Stands setting start now history lane none
  | obtained {asked grants} (phase : lane.phase = .settled (.ok grants))
    (heard : .answered (setting.record asked lane.requests) (.ok grants) ∈ history)
    : Stands setting start now history lane none

/-- Nothing of a lane is overdue. -/
theorem Lane.Stands.later {setting : Setting σ} {start now time : Nat} {history : List Event}
    {lane : Lane σ} {slot : Option (Question σ)}
    (stands : lane.Stands setting start now history slot) (next : lane.phase.time? = some time)
    : now ≤ time := by
  cases stands with
  | due phase later => simp_all [Phase.time?]
  | inFlight phase later _ => simp_all [Phase.time?]
  | failed phase => simp [phase, Phase.time?] at next
  | obtained phase _ => simp [phase, Phase.time?] at next

/-- A lane on which nothing happens stands as before, as long as nothing on it is passed by. -/
theorem Lane.Stands.wait {setting : Setting σ} {start now next : Nat} {history : List Event}
    {lane : Lane σ} {slot : Option (Question σ)}
    (stands : lane.Stands setting start now history slot) (event : Event)
    (least : ∀ time, lane.phase.time? = some time → next ≤ time)
    : lane.Stands setting start next (history ++ [event]) slot := by
  cases stands with
  | due phase later => exact .due phase (least _ (by rw [phase]; rfl))
  | inFlight phase later due_eq => exact .inFlight phase (least _ (by rw [phase]; rfl)) due_eq
  | failed phase => exact .failed phase
  | obtained phase heard => exact .obtained phase (List.mem_append_left _ heard)

/-- A lane that is answered goes on or ends with that answer. -/
theorem Lane.answered_stands {setting : Setting σ} {start asked : Nat} {history : List Event}
    {lane : Lane σ} (time left : Nat) (answer : Except Fault (List SignedGrant))
    (heard : .answered (setting.record asked lane.requests) answer ∈ history)
    : { lane with phase := .answered setting.policy time left answer : Lane σ }.Stands setting
        start time history none := by
  unfold Phase.answered
  split
  · next fault left _ =>
      split
      · exact .due rfl (Nat.le_add_right _ _)
      · exact .failed rfl
  · cases answer with
    | error fault => exact .failed rfl
    | ok grants => exact .obtained rfl heard

/-- What happens on a lane is one event of a conversation: its call is made or answered. The
questions `before` and `behind` that wait meanwhile are those of other lanes.
-/
theorem Lane.fire_stands {setting : Setting σ} {start now time : Nat} {history : List Event}
    {lane : Lane σ} {slot : Option (Question σ)}
    (stands : lane.Stands setting start now history slot)
    (next : lane.phase.time? = some time) (before behind : List (Question σ)) (state : σ)
    : ∃ event slot',
        event.Occurs setting.authority (start + now) (before ++ slot.toList ++ behind) state
          (start + time) (before ++ slot'.toList ++ behind) (lane.fire setting state).state
        ∧ event.asked?.toList = (lane.fire setting state).calls.map (.after start)
        ∧ (lane.fire setting state).subject.Stands setting start time (history ++ [event])
            slot' := by
  have later := Nat.add_le_add_left (stands.later next) start
  cases stands with
  | @due due left phase _ =>
      rw [phase] at next
      obtain rfl := Option.some.inj next
      -- The call is made now, and its answer is due after the delay of the authority.
      let record := setting.record (start + due) lane.requests
      refine ⟨.asked record, some (setting.authority.question record state), ?_, ?_, ?_⟩
      · simp only [Lane.fire, phase, Option.toList, List.append_nil, List.append_assoc,
          List.singleton_append]
        exact .asked later
      · simp only [Lane.fire, phase]
        rfl
      · simp only [Lane.fire, phase]
        exact .inFlight rfl (Nat.le_add_right _ _) (Nat.add_assoc _ _ _)
  | @inFlight asked due left _ finish phase _ due_eq =>
      subst due_eq
      rw [phase] at next
      obtain rfl := Option.some.inj next
      -- The answer is the one that was due now, whatever state other lanes have left.
      let record := setting.record asked lane.requests
      refine ⟨.answered record (finish state).1, none, ?_, ?_, ?_⟩
      · simp only [Lane.fire, phase, Option.toList, List.append_nil, List.append_assoc,
          List.singleton_append]
        exact @Event.Occurs.answered σ setting.authority _ before
          ⟨record, start + due, finish⟩ behind state later
      · simp only [Lane.fire, phase]
        rfl
      · simp only [Lane.fire, phase]
        exact Lane.answered_stands _ _ _ (List.mem_append_right _ (List.mem_singleton.mpr rfl))
  | failed phase => simp [phase, Phase.time?] at next
  | obtained phase _ => simp [phase, Phase.time?] at next

-----------------------------------------------------------------------------------------
-- All lanes of a dispatch
-----------------------------------------------------------------------------------------

/-- Every lane stands somewhere, with the question in its slot. -/
def Standing (setting : Setting σ) (start now : Nat) (history : List Event)
    (lanes : List (Lane σ)) (slots : List (Option (Question σ)))
    : Prop :=
  List.Forall₂ (fun lane => lane.Stands setting start now history) lanes slots

/-- An event on the first lane for which one is due is an event of the conversation. Witness:
induction on the lanes; `before` are the questions of those in front.
-/
theorem fireAt_stands {setting : Setting σ} {start now time : Nat} {history : List Event}
    {lanes : List (Lane σ)} {slots : List (Option (Question σ))}
    (standing : Standing setting start now history lanes slots)
    (least : ∀ lane ∈ lanes, ∀ later, lane.phase.time? = some later → time ≤ later)
    (due : ∃ lane ∈ lanes, lane.phase.time? = some time) (before : List (Question σ))
    (state : σ)
    : ∃ event slots',
        event.Occurs setting.authority (start + now) (before ++ slots.flatMap Option.toList)
          state (start + time) (before ++ slots'.flatMap Option.toList)
          (fireAt setting time state lanes).state
        ∧ event.asked?.toList = (fireAt setting time state lanes).calls.map (.after start)
        ∧ Standing setting start time (history ++ [event])
            (fireAt setting time state lanes).subject slots' := by
  induction standing generalizing before with
  | nil => exact absurd due (by simp)
  | @cons lane slot rest slots stands others ih =>
      unfold fireAt
      by_cases next : lane.phase.time? = some time
      · simp only [next, if_true]
        obtain ⟨event, slot', occurs, asked, stands'⟩ :=
          lane.fire_stands stands next before (slots.flatMap Option.toList) state
        refine ⟨event, slot' :: slots, ?_, asked, .cons stands' ?_⟩
        · simpa only [List.flatMap_cons, List.append_assoc] using occurs
        · have bounded := (List.forall₂_and_left _ _).mpr
            ⟨fun _ member => least _ (List.mem_cons_of_mem _ member), others⟩
          exact bounded.imp fun _ _ waits => waits.2.wait event waits.1
      · simp only [next, if_false]
        -- The event is on a lane behind; this one waits, and its question joins those in front.
        obtain ⟨other, member, otherDue⟩ := due
        have later : other ∈ rest :=
          (List.mem_cons.mp member).resolve_left fun same => next (same ▸ otherDue)
        obtain ⟨event, slots', occurs, asked, standing'⟩ :=
          ih (fun lane member => least lane (List.mem_cons_of_mem _ member))
            ⟨other, later, otherDue⟩ (before ++ slot.toList)
        refine ⟨event, slot :: slots', ?_, asked, .cons ?_ standing'⟩
        · simpa only [List.flatMap_cons, List.append_assoc] using occurs
        · exact stands.wait event (least lane List.mem_cons_self)

/-- The next event on some lanes is due on one of them, and no earlier one on any. -/
theorem nextTime?_eq_some {lanes : List (Lane σ)} {time : Nat}
    (next : nextTime? lanes = some time)
    : (∃ lane ∈ lanes, lane.phase.time? = some time)
      ∧ ∀ lane ∈ lanes, ∀ later, lane.phase.time? = some later → time ≤ later := by
  obtain ⟨due, least⟩ := List.min?_eq_some_iff.mp next
  refine ⟨List.mem_filterMap.mp due, ?_⟩
  intro lane member later given
  exact least later (List.mem_filterMap.mpr ⟨lane, member, given⟩)

/-- The events of a dispatch are those of a conversation, its calls are those that are made in
it, and its lanes stand where the conversation has led them. Witness: induction on the events
that are left, one step at a time.
-/
theorem proceed_converses (setting : Setting σ) (failFast : Bool) (start events : Nat)
    {now : Nat} {history : List Event} {lanes : List (Lane σ)}
    {slots : List (Option (Question σ))} (state : σ)
    (standing : Standing setting start now history lanes slots)
    : ∃ more remaining,
        Conversation setting.authority (start + now) (slots.flatMap Option.toList) state more
          (start + (proceed setting failFast events now lanes state).time)
          (remaining.flatMap Option.toList)
          (proceed setting failFast events now lanes state).state
        ∧ more.filterMap Event.asked?
          = (proceed setting failFast events now lanes state).calls.map (.after start)
        ∧ Standing setting start (proceed setting failFast events now lanes state).time
            (history ++ more) (proceed setting failFast events now lanes state).lanes
            remaining := by
  induction events generalizing now history lanes slots state with
  | zero => exact ⟨[], slots, .silence, rfl, by simpa [proceed] using standing⟩
  | succ events ih =>
      unfold proceed
      cases next : nextTime? lanes with
      | none => exact ⟨[], slots, .silence, rfl, by simpa using standing⟩
      | some time =>
          obtain ⟨due, least⟩ := nextTime?_eq_some next
          obtain ⟨event, slots', occurs, asked, standing'⟩ :=
            fireAt_stands standing least due [] state
          rw [List.nil_append, List.nil_append] at occurs
          dsimp only
          split
          -- A failure that ends everything makes this event the last one.
          · refine ⟨[event], slots', .cons occurs .silence, ?_, standing'⟩
            rw [Event.filterMap_asked?_cons, asked]
            exact List.append_nil _
          · obtain ⟨more, remaining, conversation, calls, standing⟩ :=
              ih (fireAt setting time state lanes).state standing'
            refine ⟨event :: more, remaining, .cons occurs conversation, ?_, ?_⟩
            · rw [Event.filterMap_asked?_cons, asked, calls, List.map_append]
            · simpa using standing

/-- A dispatch is a conversation that no question is open in at first, and a lane that has
grants in the end was given them in it.
-/
theorem run_converses (setting : Setting σ) (failFast : Bool) (batch : List EnrichedRequest)
    (start : Nat) (state : σ)
    : ∃ events remaining,
        Conversation setting.authority start [] state events
          (start + (run setting failFast batch state).time) remaining
          (run setting failFast batch state).state
        ∧ events.filterMap Event.asked?
          = (run setting failFast batch state).calls.map (.after start)
        ∧ ∀ lane ∈ (run setting failFast batch state).lanes, ∀ grants,
            lane.phase = .settled (.ok grants)
            → ∃ asked,
                .answered (setting.record asked lane.requests) (.ok grants) ∈ events := by
  have standing : Standing setting start 0 [] (lanes setting batch)
      ((Partition.ofBatch batch).map fun _ => none) := by
    unfold Standing lanes
    rw [List.forall₂_map_left_iff, List.forall₂_map_right_iff, List.forall₂_same]
    exact fun _ _ => .due rfl (Nat.zero_le _)
  have silent : ((Partition.ofBatch batch).map fun _ => (none : Option (Question σ))).flatMap
      Option.toList = [] := by
    simp
  obtain ⟨events, remaining, conversation, calls, standing⟩ :=
    proceed_converses setting failFast start (weight (lanes setting batch)) state standing
  rw [silent] at conversation
  refine ⟨events, _, conversation, calls, ?_⟩
  intro lane member grants settled
  obtain ⟨slot, _, stands⟩ := Traversal.exists_partner standing member
  cases stands with
  | due phase _ => exact nomatch settled.symm.trans phase
  | inFlight phase _ _ => exact nomatch settled.symm.trans phase
  | failed phase => exact nomatch settled.symm.trans phase
  | @obtained asked given phase heard =>
      have same := settled.symm.trans phase
      injection same with same
      injection same with same
      exact ⟨asked, same ▸ heard⟩

-----------------------------------------------------------------------------------------
-- Dispatches as operations
-----------------------------------------------------------------------------------------

/-- The operation on a batch that is not empty runs the lanes of its groups. -/
theorem operation_runAt {α : Type} (setting : Setting σ) (failFast : Bool)
    {batch : List EnrichedRequest} (nonempty : batch ≠ [])
    (result : List (Lane σ) → Except Fault α) (now : Nat) (state : σ)
    : (operation setting failFast batch result).runAt now state
      = { outcome := .ok (result (run setting failFast batch state).lanes)
          elapsed := (run setting failFast batch state).time
          calls := (run setting failFast batch state).calls.map (.after now)
          state := (run setting failFast batch state).state } := by
  unfold operation
  rw [if_neg (by simpa using nonempty)]
  rfl

end Dispatch

/-- A grant is given in a conversation if it is in the answer to an upload call that was made
in it.
-/
def SignedGrant.Given (correlation : CorrelationId) (events : List Event)
    (grant : SignedGrant)
    : Prop :=
  ∃ time descriptors, ∃ grants : List SignedGrant,
    ⟨time, correlation, .bulkUpload descriptors⟩ ∈ events.filterMap Event.asked?
    ∧ .answered ⟨time, correlation, .bulkUpload descriptors⟩ (.ok grants) ∈ events
    ∧ grant ∈ grants

namespace Dispatch

variable {σ : Type}

/-- An operation on a batch that gives a value has run one lane for each group of the batch, in
a conversation about its calls; all grants of the lanes were given there.
-/
theorem operation_converses {α : Type} {setting : Setting σ} {failFast : Bool}
    {batch : List EnrichedRequest} {result : List (Lane σ) → Except Fault α} {now : Nat}
    {state : σ} {value : α}
    (given : ((operation setting failFast batch result).runAt now state).value = .ok value)
    : ∃ lanes events remaining,
        result lanes = .ok value
        ∧ lanes.map Lane.group = Partition.ofBatch batch
        ∧ Conversation setting.authority now [] state events
            (now + ((operation setting failFast batch result).runAt now state).elapsed)
            remaining ((operation setting failFast batch result).runAt now state).state
        ∧ events.filterMap Event.asked?
          = ((operation setting failFast batch result).runAt now state).calls
        ∧ ∀ grant ∈ lanes.flatMap Lane.grants, grant.Given setting.correlation events := by
  by_cases nonempty : batch = []
  · subst nonempty
    exact nomatch given
  · rw [operation_runAt setting failFast nonempty] at given ⊢
    obtain ⟨events, remaining, conversation, calls, heard⟩ :=
      run_converses setting failFast batch now state
    refine ⟨_, events, remaining, given, run_group setting failFast batch state, conversation,
      calls, ?_⟩
    intro grant member
    obtain ⟨lane, among, member⟩ := List.mem_flatMap.mp member
    unfold Lane.grants at member
    split at member
    · next grants settled =>
        obtain ⟨asked, answered⟩ := heard lane among grants settled
        exact ⟨asked, _, grants, conversation.answered_asked answered, answered, member⟩
    · exact nomatch member

end Dispatch

-----------------------------------------------------------------------------------------
-- Groups that fail
-----------------------------------------------------------------------------------------

/-- What a failure names: a content type and the requests that it has lost. -/
def PartitionFailure.group (failure : PartitionFailure) : String × List String :=
  (failure.contentType, failure.identifiers)

/-- The groups of a batch by the identifiers of their requests. -/
def Partition.identifiers (groups : Partition) : List (String × List String) :=
  groups.map fun group => (group.1, group.2.map (·.identifier))

/-- The failures of some lanes name groups of theirs, each once and in their order. Witness:
induction on the lanes; a lane has one failure or none.
-/
theorem Dispatch.failures_sublist {σ : Type} (lanes : List (Lane σ))
    : ((lanes.filterMap Lane.failure?).map PartitionFailure.group).Sublist
        (Partition.identifiers (lanes.map Lane.group)) := by
  induction lanes with
  | nil => exact List.Sublist.refl _
  | cons lane rest ih =>
      cases fault : lane.phase.fault? with
      | none =>
          have absent : lane.failure? = none := by simp [Lane.failure?, fault]
          rw [List.filterMap_cons_none absent]
          exact ih.cons _
      | some cause =>
          have failed : lane.failure? = some ⟨lane.contentType,
              lane.requests.map (·.identifier), cause⟩ := by
            simp [Lane.failure?, fault]
          rw [List.filterMap_cons_some failed]
          exact ih.cons_cons _

end ObjectGrants
