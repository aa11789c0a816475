import ObjectGrants.Proofs.Performance

/-! The authority in memory does what it has been told. A failure that is armed is given to as
many calls as it was armed for and to no others, the statuses of a token are reported one after
the other, and every call is on record once, however the calls of a performance are mixed.
-/

namespace ObjectGrants.InMemory

variable {waiting asking unanswered : List (Question State)} {state after final : State}
  {history : List Occurrence} {answer : Answer}

-----------------------------------------------------------------------------------------
-- Answers
-----------------------------------------------------------------------------------------

/-- An answer is given in `state` and leaves `after`: to a call that is answered at once, or to a
question about the statuses of distinct tokens, at whatever moment.
-/
inductive Answer.Given (state : State) : Answer → State → Prop where
  | atOnce {record} (second : Int) (apart : record.call.endpoint ≠ .uploadCheck)
    : Given state
        ⟨record, ((authority second).reply record.correlation record.call state).1⟩
        ((authority second).reply record.correlation record.call state).2
  | late {time correlation tokens} (distinct : List.Nodup tokens)
    : Given state
        ⟨⟨time, correlation, .uploadCheck tokens⟩,
          (answerStatusCheck ⟨.uploadCheck, correlation⟩ tokens state).1⟩
        (answerStatusCheck ⟨.uploadCheck, correlation⟩ tokens state).2

theorem Occurrence.Occurs.given {occurrence : Occurrence}
    (occurs : occurrence.Occurs waiting state asking after)
    (waits : ∀ question ∈ waiting, AsksStatuses question)
    (gives : occurrence.answer? = some answer)
    : answer.Given state after := by
  cases occurs with
  | told | asked => exact nomatch gives
  | served second apart =>
      obtain rfl := Option.some.inj gives
      exact .atOnce second apart
  | @answered _ question =>
      obtain rfl := Option.some.inj gives
      obtain ⟨distinct⟩ := waits question (by simp)
      exact .late distinct

/-- Every answer of a performance is given somewhere in it. -/
theorem Performance.given_of_mem
    (performance : Performance waiting state history unanswered final)
    (waits : ∀ question ∈ waiting, AsksStatuses question)
    (member : answer ∈ history.filterMap Occurrence.answer?)
    : ∃ between after, answer.Given between after := by
  obtain ⟨occurrence, among, gives⟩ := List.mem_filterMap.mp member
  obtain ⟨early, late, rfl⟩ := List.append_of_mem among
  obtain ⟨_, between, first, second⟩ := performance.split
  cases second with
  | cons occurs _ => exact ⟨between, _, occurs.given (first.asksStatuses waits) gives⟩

-----------------------------------------------------------------------------------------
-- What answers use up
-----------------------------------------------------------------------------------------

/-- Nothing of a kind is told in a history. -/
def Untold (kind : Instruction → Prop) (history : List Occurrence) : Prop :=
  ∀ instruction, .told instruction ∈ history → ¬ kind instruction

theorem untold_cons {kind : Instruction → Prop} {occurrence : Occurrence}
    : Untold kind (occurrence :: history)
      ↔ (∀ instruction, occurrence = .told instruction → ¬ kind instruction)
        ∧ Untold kind history := by
  simp only [Untold, List.mem_cons, or_imp, forall_and, eq_comm]

/-- Something that is left in a state and that answers use up, each share by share. An answer
without a share leaves it as it is, and so does everything that the authority is told unless
it renews what is left. `due` tells the share that is given behind a number of others.
-/
structure Supply {α β : Type} (left : State → α) (share? : Answer → Option β)
    (due : α → Nat → β → Prop) (renews : Instruction → Prop)
    : Prop where
  taken
    : ∀ {state answer after share},
        Answer.Given state answer after
        → share? answer = some share
        → due (left state) 0 share
          ∧ ∀ count later, due (left after) count later → due (left state) (count + 1) later
  spared
    : ∀ {state answer after},
        Answer.Given state answer after → share? answer = none → left after = left state
  recorded : ∀ state call, left (state.recorded call) = left state
  untold
    : ∀ instruction state,
        ¬ renews instruction → left (instruction.carryOut state) = left state

/-- As long as a supply is not renewed, the answers of a performance take share after share of what
is left at first, by induction on the performance.
-/
theorem Supply.shared {α β : Type} {left : State → α} {share? : Answer → Option β}
    {due : α → Nat → β → Prop} {renews : Instruction → Prop}
    (supply : Supply left share? due renews)
    (performance : Performance waiting state history unanswered final)
    (waits : ∀ question ∈ waiting, AsksStatuses question) (untold : Untold renews history)
    {count : Nat} {share : β}
    (given : ((history.filterMap Occurrence.answer?).filterMap share?)[count]? = some share)
    : due (left state) count share := by
  induction performance generalizing count with
  | silence => exact nomatch given
  | @cons occurrence history _ _ _ _ _ _ occurs _ ih =>
      rw [untold_cons] at untold
      have rest {count : Nat}
          (given : ((history.filterMap Occurrence.answer?).filterMap share?)[count]? = some share)
          : due (left _) count share :=
        ih (occurs.asksStatuses waits) untold.2 given
      rw [List.filterMap_cons] at given
      cases gives : occurrence.answer? with
      | none =>
          rw [gives] at given
          have kept := rest given
          cases occurs with
          | told instruction => rwa [supply.untold _ _ (untold.1 instruction rfl)] at kept
          | served | answered => exact nomatch gives
          | asked second distinct => exact supply.recorded _ _ ▸ kept
      | some answer =>
          rw [gives, List.filterMap_cons] at given
          have answered := occurs.given waits gives
          cases shared : share? answer with
          | none =>
              rw [shared] at given
              exact supply.spared answered shared ▸ rest given
          | some own =>
              -- This answer takes what is due now, and the others are counted from behind it.
              rw [shared] at given
              obtain ⟨now, later⟩ := supply.taken answered shared
              cases count with
              | zero => exact Option.some.inj given ▸ now
              | succ count => exact later count share (rest given)

-----------------------------------------------------------------------------------------
-- Slots
-----------------------------------------------------------------------------------------

/-- Where a failure can be armed: for an endpoint, and for uploads of each content type apart. -/
inductive Slot where
  | uploads (contentType : String)
  | downloads
  | statusChecks
  | keySets
  | puts
  deriving DecidableEq, Repr

/-- The slot that a call looks at. -/
def Slot.ofCall : Call → Slot
  | .bulkUpload descriptors => .uploads ((descriptors.head?.map (·.contentType)).getD "")
  | .download _ => .downloads
  | .uploadCheck _ => .statusChecks
  | .keySet => .keySets
  | .objectPut _ _ _ => .puts

/-- What is armed in a slot. -/
def State.armed (state : State) : Slot → Option Armed
  | .uploads contentType => (state.uploadFailures.lookup contentType).join
  | .downloads => state.downloadFailure
  | .statusChecks => state.statusFailure
  | .keySets => if state.keySetFails then some ⟨.unavailable, none⟩ else none
  | .puts => state.putFailure

/-- The slot that an instruction arms anew, and what is armed there. Other keys to publish
disarm their slot.
-/
def Instruction.arming? : Instruction → Option (Slot × Option Armed)
  | failUploads contentType failure times =>
      some (.uploads contentType, some ⟨failure, times⟩)
  | failStatusChecks failure times => some (.statusChecks, some ⟨failure, times⟩)
  | failDownloads failure => some (.downloads, some ⟨failure, none⟩)
  | failPuts failure times => some (.puts, some ⟨failure, times⟩)
  | failKeySet => some (.keySets, some ⟨.unavailable, none⟩)
  | setKeySet _ => some (.keySets, none)
  | _ => none

namespace Armed

/-- The failure that is due in a call that comes behind `count` others since the arming: all of
them if no number of times was given, else the first of that number.
-/
def due : Option Armed → (count : Nat) → Option Failure
  | none, _ => none
  | some ⟨failure, none⟩, _ => some failure
  | some ⟨failure, some times⟩, count => if count < times then some failure else none

/-- What occurs now is what is due in the first call. -/
theorem fire_fst (armed : Option Armed) : (fire armed).1 = due armed 0 := by
  match armed with
  | none => rfl
  | some ⟨failure, none⟩ => rfl
  | some ⟨failure, some 0⟩ => rfl
  | some ⟨failure, some (times + 1)⟩ => simp [fire, due]

/-- Behind a call, what is due is what would have been due one call later. -/
theorem due_fire (armed : Option Armed) (count : Nat)
    : due (fire armed).2 count = due armed (count + 1) := by
  match armed with
  | none => rfl
  | some ⟨failure, none⟩ => rfl
  | some ⟨failure, some 0⟩ => simp [fire, due]
  | some ⟨failure, some (times + 1)⟩ => simp [fire, due]

end Armed

/-- An answer is the failure that was due, or a value if none was. -/
def Answer.Follows (answer : Answer) : Option Failure → Prop
  | some failure =>
      answer.reply
        = .error (failure.fault ⟨answer.record.call.endpoint, answer.record.correlation⟩)
  | none => ∃ value, answer.reply = .ok value

/-- An answer fires the slot of its call, and no other. -/
structure Answer.Fires (answer : Answer) (before after : Slot → Option Armed) : Prop where
  follows : answer.Follows (Armed.fire (before (.ofCall answer.record.call))).1
  armed
    : after
      = Function.update before (.ofCall answer.record.call)
          (Armed.fire (before (.ofCall answer.record.call))).2

theorem lookup_setEntry_self {α : Type} (name : String) (value : α)
    (entries : List (String × α))
    : (setEntry name value entries).lookup name = some value := by
  induction entries with
  | nil => simp [setEntry]
  | cons entry rest ih =>
      obtain ⟨other, kept⟩ := entry
      unfold setEntry
      split
      · simp
      · next unlike => simpa [List.lookup_cons, beq_eq_false_iff_ne.mpr (Ne.symm unlike)] using ih

/-- Setting the entry of a content type arms its slot, and no other. -/
theorem armed_setEntry (contentType : String) (armed : Option Armed) (state : State)
    : State.armed
        { state with uploadFailures := setEntry contentType armed state.uploadFailures }
      = Function.update state.armed (.uploads contentType) armed := by
  funext slot
  cases slot with
  | uploads other =>
      by_cases same : other = contentType
      · subst same
        rw [Function.update_self, State.armed, lookup_setEntry_self]
        rfl
      · rw [Function.update_of_ne (by simpa using same), State.armed, State.armed,
          lookup_setEntry_other same]
  | _ => rfl

/-- An instruction arms a slot anew, or leaves them all as they are. -/
theorem Instruction.carryOut_armed (instruction : Instruction) (state : State)
    : (instruction.carryOut state).armed
      = match instruction.arming? with
        | some (slot, armed) => Function.update state.armed slot armed
        | none => state.armed := by
  cases instruction with
  | failUploads contentType failure times => exact armed_setEntry contentType _ state
  | _ =>
      funext slot
      cases slot <;> rfl

theorem Instruction.armed_of_arming {instruction : Instruction} {slot : Slot}
    {armed : Option Armed} (arming : instruction.arming? = some (slot, armed)) (state : State)
    : (instruction.carryOut state).armed slot = armed := by
  rw [instruction.carryOut_armed, arming]
  exact Function.update_self slot armed state.armed

/-- What is known of the slot of a call tells how the call fires it. -/
theorem Answer.fires_of_slot {before after : Slot → Option Armed}
    (slot : Slot) {failure : Option Failure} {left : Option Armed}
    (own : Slot.ofCall answer.record.call = slot)
    (fired : Armed.fire (before slot) = (failure, left)) (follows : answer.Follows failure)
    (armed : after = Function.update before slot left)
    : answer.Fires before after := by
  subst own
  constructor <;> rwa [fired]

/-- A slot that firing leaves as it is need not be written back. -/
theorem Answer.fires_of_still {before : Slot → Option Armed} (slot : Slot)
    {armed : Option Armed} (own : Slot.ofCall answer.record.call = slot)
    (known : before slot = armed) (still : (Armed.fire armed).2 = armed)
    (follows : answer.Follows (Armed.fire armed).1)
    : answer.Fires before before := by
  subst known own
  exact ⟨follows, by rw [still, Function.update_eq_self]⟩

/-- A question about statuses fires their slot when it is answered. -/
theorem answerStatusCheck_fires (time : Nat) (correlation : CorrelationId)
    (tokens : List String) (state : State)
    : let result := answerStatusCheck ⟨.uploadCheck, correlation⟩ tokens state
      Answer.Fires ⟨⟨time, correlation, .uploadCheck tokens⟩, result.1⟩ state.armed
        result.2.armed := by
  dsimp only
  unfold answerStatusCheck
  rcases fired : Armed.fire state.statusFailure with ⟨_ | failure, left⟩
  · exact Answer.fires_of_slot .statusChecks rfl fired ⟨_, rfl⟩
      (funext fun slot => by cases slot <;> rfl)
  · exact Answer.fires_of_slot .statusChecks rfl fired rfl
      (funext fun slot => by cases slot <;> rfl)

/-- A request for uploads fires the slot of its content type. -/
theorem answerUploads_fires (second : Int) (time : Nat) (correlation : CorrelationId)
    (descriptors : List UploadDescriptor) (state : State)
    : let result := answerUploads second ⟨.bulkUpload, correlation⟩ descriptors state
      Answer.Fires ⟨⟨time, correlation, .bulkUpload descriptors⟩, result.1⟩ state.armed
        result.2.armed := by
  let contentType := (descriptors.head?.map (·.contentType)).getD ""
  dsimp only
  unfold answerUploads
  dsimp only [State.recorded]
  cases found : state.uploadFailures.lookup contentType with
  | none =>
      exact Answer.fires_of_still (.uploads contentType) rfl (congrArg Option.join found) rfl
        ⟨_, rfl⟩
  | some armed =>
      have known : state.armed (.uploads contentType) = armed := congrArg Option.join found
      dsimp only
      rcases fired : Armed.fire armed with ⟨_ | failure, left⟩
      · exact Answer.fires_of_slot (.uploads contentType) rfl
          ((congrArg Armed.fire known).trans fired) ⟨_, rfl⟩ (armed_setEntry _ _ state)
      · exact Answer.fires_of_slot (.uploads contentType) rfl
          ((congrArg Armed.fire known).trans fired) rfl (armed_setEntry _ _ state)

theorem answerDownloads_fires (second : Int) (time : Nat) (correlation : CorrelationId)
    (request : DownloadRequest) (state : State)
    : let result := answerDownloads second ⟨.download, correlation⟩ request state
      Answer.Fires ⟨⟨time, correlation, .download request⟩, result.1⟩ state.armed
        result.2.armed := by
  dsimp only
  unfold answerDownloads
  dsimp only [State.recorded]
  rcases fired : Armed.fire state.downloadFailure with ⟨_ | failure, left⟩
  · exact Answer.fires_of_slot .downloads rfl fired ⟨_, rfl⟩
      (funext fun slot => by cases slot <;> rfl)
  · exact Answer.fires_of_slot .downloads rfl fired rfl
      (funext fun slot => by cases slot <;> rfl)

/-- A request for the keys fails or not, and always will until the authority is told otherwise. -/
theorem answerKeySet_fires (time : Nat) (correlation : CorrelationId) (state : State)
    : let result := answerKeySet ⟨.keySet, correlation⟩ state
      Answer.Fires ⟨⟨time, correlation, .keySet⟩, result.1⟩ state.armed result.2.armed := by
  dsimp only
  unfold answerKeySet
  dsimp only [State.recorded]
  split
  · next fails =>
      have known : state.armed .keySets = some ⟨.unavailable, none⟩ := if_pos fails
      exact Answer.fires_of_still .keySets rfl known rfl rfl
  · next serves =>
      have known : state.armed .keySets = none := if_neg serves
      exact Answer.fires_of_still .keySets rfl known rfl ⟨_, rfl⟩

theorem answerPut_fires (time : Nat) (correlation : CorrelationId) (url contentType : String)
    (body : List UInt8) (state : State)
    : let result := answerPut ⟨.objectPut, correlation⟩ url contentType body.length state
      Answer.Fires ⟨⟨time, correlation, .objectPut url contentType body⟩, result.1⟩ state.armed
        result.2.armed := by
  dsimp only
  unfold answerPut
  dsimp only [State.recorded]
  rcases fired : Armed.fire state.putFailure with ⟨_ | failure, left⟩
  · exact Answer.fires_of_slot .puts rfl fired ⟨_, rfl⟩
      (funext fun slot => by cases slot <;> rfl)
  · exact Answer.fires_of_slot .puts rfl fired rfl
      (funext fun slot => by cases slot <;> rfl)

/-- An answer fires the slot of its call, whenever it is given. -/
theorem Answer.Given.fires (given : answer.Given state after)
    : answer.Fires state.armed after.armed := by
  cases given with
  | late distinct => exact answerStatusCheck_fires _ _ _ state
  | @atOnce record second apart =>
      obtain ⟨time, correlation, call⟩ := record
      cases call with
      | bulkUpload descriptors =>
          exact answerUploads_fires second time correlation descriptors state
      | download request => exact answerDownloads_fires second time correlation request state
      | uploadCheck tokens => exact absurd rfl apart
      | keySet => exact answerKeySet_fires time correlation state
      | objectPut url contentType body =>
          exact answerPut_fires time correlation url contentType body state

/-- The answers to calls that look at a slot, in order. -/
def answersIn (slot : Slot) (history : List Occurrence) : List Answer :=
  (history.filterMap Occurrence.answer?).filter fun answer =>
    Slot.ofCall answer.record.call = slot

/-- An instruction arms a slot anew. -/
def Instruction.Arms (slot : Slot) (instruction : Instruction) : Prop :=
  ∃ armed, instruction.arming? = some (slot, armed)

/-- What is armed in a slot is used up by the answers to the calls that look at it. -/
theorem slot_supply (slot : Slot)
    : Supply (State.armed · slot) (Option.guard fun answer => Slot.ofCall answer.record.call = slot)
        (fun armed count answer => answer.Follows (Armed.due armed count))
        (Instruction.Arms slot) where
  taken given shared := by
    obtain ⟨rfl, own⟩ := Option.guard_eq_some_iff.mp shared
    obtain rfl := of_decide_eq_true own
    have fires := given.fires
    refine ⟨Armed.fire_fst _ ▸ fires.follows, fun count later follows => ?_⟩
    rw [fires.armed, Function.update_self, Armed.due_fire] at follows
    exact follows
  spared {state answer after} given apart := by
    rw [given.fires.armed]
    refine Function.update_of_ne (fun same => ?_) _ _
    simp [Option.guard, same] at apart
  recorded _ _ := rfl
  untold instruction state other := by
    rw [instruction.carryOut_armed]
    cases arming : instruction.arming? with
    | none => rfl
    | some armed =>
        refine Function.update_of_ne (fun same => ?_) _ _
        exact other ⟨armed.2, arming.trans (by rw [same])⟩

-----------------------------------------------------------------------------------------
-- Sequences of statuses
-----------------------------------------------------------------------------------------

/-- What is left to be reported about a token. -/
def State.sequence (state : State) (token : String) : List Status :=
  (state.statuses.lookup token).getD []

theorem sequence_setStatuses (token : String) (sequence : List Status) (state : State)
    : (state.setStatuses token sequence).sequence token = sequence :=
  congrArg (Option.getD · []) (lookup_setEntry_self token sequence state.statuses)

/-- The status that the report with number `count` about a token gives, counted from zero: the
next one of its sequence, and the last one as often as it takes.
-/
def statusAt (sequence : List Status) (count : Nat) : Option Status :=
  sequence[min (count + 1) sequence.length - 1]?

theorem nextStatus_fst_eq (sequence : List Status)
    : (nextStatus sequence).1 = statusAt sequence 0 := by
  match sequence with
  | [] => rfl
  | [last] => rfl
  | first :: second :: rest => simp [nextStatus, statusAt]

/-- Behind a report, what is reported is what would have been reported one check later. -/
theorem statusAt_nextStatus (sequence : List Status) (count : Nat)
    : statusAt (nextStatus sequence).2 count = statusAt sequence (count + 1) := by
  match sequence with
  | [] => rfl
  | [last] => simp [nextStatus, statusAt]
  | first :: second :: rest =>
      have index
          : min (count + 1 + 1) (rest.length + 1 + 1) - 1
            = min (count + 1) (rest.length + 1) - 1 + 1 := by
        omega
      simp only [nextStatus, statusAt, List.length_cons, index, List.getElem?_cons_succ]

/-- The reports about a token. -/
def about (token : String) (reports : List TokenStatus) : List TokenStatus :=
  reports.filter (·.token = token)

/-- A token that is asked about once has one report at most. -/
theorem about_reportsOf {tokens : List String} (distinct : tokens.Nodup)
    (status? : String → Option Status) {token : String} (member : token ∈ tokens)
    : about token (Gate.reportsOf status? tokens) = (status? token).toList.map (⟨token, ·⟩) := by
  have only : tokens.filter (· = token) = [token] := by
    rw [List.filter_eq, List.count_eq_one_of_mem distinct member]
    rfl
  have own
      : about token (Gate.reportsOf status? tokens)
        = Gate.reportsOf status? (tokens.filter (· = token)) := by
    rw [about, Gate.reportsOf, Gate.reportsOf, List.filter_filterMap, List.filterMap_filter]
    refine List.filterMap_congr fun other _ => ?_
    by_cases same : other = token <;> cases status? other <;> simp [same, Option.filter]
  rw [own, only, Gate.reportsOf]
  cases given : status? token <;> simp [given]

/-- A check of distinct tokens takes the next status of each of them, and leaves the sequences of
all others alone; by induction on the tokens.
-/
theorem reportsFor_lookup {tokens : List String} (distinct : tokens.Nodup)
    (statuses : List (String × List Status)) (token : String)
    : ((reportsFor tokens statuses).2.lookup token).getD []
      = if token ∈ tokens then (nextStatus ((statuses.lookup token).getD [])).2
        else (statuses.lookup token).getD [] := by
  induction tokens generalizing statuses with
  | nil => rfl
  | cons first rest ih =>
      obtain ⟨fresh, distinct⟩ := List.nodup_cons.mp distinct
      unfold reportsFor
      cases found : statuses.lookup first with
      | none =>
          dsimp only
          rw [ih distinct]
          by_cases same : token = first
          · subst same
            simp [fresh, found, nextStatus]
          · simp [same]
      | some sequence =>
          dsimp only
          rw [ih distinct]
          by_cases same : token = first
          · subst same
            simp [fresh, found, lookup_setEntry_self]
          · simp [same, lookup_setEntry_other same]

/-- The reports of an answer to a check that has asked about a token, unless it has failed. -/
def Answer.reportsOn? (token : String) : Answer → Option (List TokenStatus)
  | ⟨⟨_, _, .uploadCheck tokens⟩, .ok reports⟩ => if token ∈ tokens then some reports else none
  | _ => none

/-- An answer takes the next status of a token and reports it, if it has reports on the token at
all.
-/
def Answer.Takes (answer : Answer) (token : String) (before after : List Status) : Prop :=
  match answer.reportsOn? token with
  | some reports =>
      about token reports = (nextStatus before).1.toList.map (⟨token, ·⟩)
      ∧ after = (nextStatus before).2
  | none => after = before

theorem answerStatusCheck_takes (time : Nat) (correlation : CorrelationId)
    {tokens : List String} (distinct : tokens.Nodup) (state : State) (token : String)
    : let result := answerStatusCheck ⟨.uploadCheck, correlation⟩ tokens state
      Answer.Takes ⟨⟨time, correlation, .uploadCheck tokens⟩, result.1⟩ token
        (state.sequence token) (result.2.sequence token) := by
  dsimp only
  unfold answerStatusCheck Answer.Takes
  rcases fired : Armed.fire state.statusFailure with ⟨_ | failure, left⟩
  · have taken := reportsFor_lookup distinct state.statuses token
    by_cases member : token ∈ tokens
    · simp only [Answer.reportsOn?, member, if_true] at taken ⊢
      refine ⟨?_, taken⟩
      rw [reportsFor_distinct distinct, about_reportsOf distinct _ member, nextStatus_fst,
        upcoming, State.sequence]
      cases state.statuses.lookup token <;> rfl
    · simp only [Answer.reportsOn?, member, if_false] at taken ⊢
      exact taken
  · rfl

/-- An answer takes the next status of a token if it reports on it, whenever it is given. -/
theorem Answer.Given.takes (given : answer.Given state after) (token : String)
    : answer.Takes token (state.sequence token) (after.sequence token) := by
  cases given with
  | late distinct => exact answerStatusCheck_takes _ _ distinct state token
  | @atOnce record second apart =>
      have silent (reply : Except Fault record.call.endpoint.Reply)
          : Answer.reportsOn? token ⟨record, reply⟩ = none := by
        obtain ⟨time, correlation, call⟩ := record
        cases call with
        | uploadCheck tokens => exact absurd rfl apart
        | _ => rfl
      obtain ⟨_, _, _, reached⟩ := reply_atOnce apart second state
      rw [Answer.Takes, silent, reached]
      rfl

/-- The reports of the checks that have asked about a token, in the order of their answers. Checks
that have failed and checks that have not been answered do not count.
-/
def reportsOn (token : String) (history : List Occurrence) : List (List TokenStatus) :=
  (history.filterMap Occurrence.answer?).filterMap (Answer.reportsOn? token)

/-- An instruction sets the sequence of a token. -/
def Instruction.SetsSequence (token : String) (instruction : Instruction) : Prop :=
  ∃ sequence, instruction = .setStatuses token sequence

/-- The sequence of a token is used up by the checks that report on it. -/
theorem sequence_supply (token : String)
    : Supply (State.sequence · token) (Answer.reportsOn? token)
        (fun sequence count reports =>
          about token reports = (statusAt sequence count).toList.map (⟨token, ·⟩))
        (Instruction.SetsSequence token) where
  taken given shared := by
    have takes := given.takes token
    rw [Answer.Takes, shared] at takes
    refine ⟨nextStatus_fst_eq _ ▸ takes.1, fun count later reported => ?_⟩
    rw [takes.2, statusAt_nextStatus] at reported
    exact reported
  spared given none := by
    have takes := given.takes token
    rwa [Answer.Takes, none] at takes
  recorded _ _ := rfl
  untold instruction state other := by
    cases instruction with
    | setStatuses named sequence =>
        have unlike : token ≠ named := fun same => other ⟨sequence, by rw [same]⟩
        exact congrArg (Option.getD · []) (lookup_setEntry_other unlike sequence state.statuses)
    | _ => rfl

/-- The reports of an answer are about tokens that were asked about, in the same order. -/
def Answer.InOrder : Answer → Prop
  | ⟨⟨_, _, .uploadCheck tokens⟩, .ok reports⟩ => (reports.map (·.token)).Sublist tokens
  | _ => True

theorem reportsOf_sublist (status? : String → Option Status) (tokens : List String)
    : ((Gate.reportsOf status? tokens).map (·.token)).Sublist tokens := by
  induction tokens with
  | nil => exact .slnil
  | cons token rest ih =>
      rw [Gate.reportsOf, List.filterMap_cons]
      cases status? token with
      | none => exact ih.cons token
      | some status => exact ih.cons_cons token

theorem Answer.Given.inOrder (given : answer.Given state after)
    : answer.InOrder := by
  cases given with
  | @late _ _ tokens distinct =>
      unfold answerStatusCheck
      rcases Armed.fire state.statusFailure with ⟨_ | failure, left⟩
      · change ((reportsFor tokens state.statuses).1.map (·.token)).Sublist tokens
        rw [reportsFor_distinct distinct]
        exact reportsOf_sublist _ tokens
      · trivial
  | @atOnce record second apart =>
      obtain ⟨time, correlation, call⟩ := record
      cases call with
      | uploadCheck tokens => exact absurd rfl apart
      | _ => trivial

-----------------------------------------------------------------------------------------
-- The script of a performance
-----------------------------------------------------------------------------------------

/-- A performance from the beginning keeps to what the authority is told in it.

Whatever is armed in a slot is due, in turn, to the calls that look at it, until the slot is
armed anew; no call fails by a slot that has not been armed. Of a token whose statuses have
been set, each check that is answered with reports takes the next one, and the last one from
then on; nothing is reported about others. Every call is on record once.
-/
structure Replays (history : List Occurrence) (final : State) : Prop where
  armed
    : ∀ early instruction during late slot armed,
        history = early ++ .told instruction :: during ++ late
        → instruction.arming? = some (slot, armed)
        → Untold (Instruction.Arms slot) during
        → ∀ count answer,
            (answersIn slot during)[count]? = some answer
            → Answer.Follows answer (Armed.due armed count)
  unarmed
    : ∀ during late slot,
        history = during ++ late
        → Untold (Instruction.Arms slot) during
        → ∀ answer ∈ answersIn slot during, ∃ value, answer.reply = .ok value
  reported
    : ∀ early token sequence during late,
        history = early ++ .told (.setStatuses token sequence) :: during ++ late
        → Untold (Instruction.SetsSequence token) during
        → ∀ count reports,
            (reportsOn token during)[count]? = some reports
            → about token reports = (statusAt sequence count).toList.map (⟨token, ·⟩)
  unset
    : ∀ token during late,
        history = during ++ late
        → Untold (Instruction.SetsSequence token) during
        → ∀ reports ∈ reportsOn token during, about token reports = []
  inOrder : ∀ answer ∈ history.filterMap Occurrence.answer?, answer.InOrder
  recorded : final.calls = (history.filterMap Occurrence.asked?).map kept

/-- A performance from the beginning replays its script. -/
theorem Performance.replays (performance : Performance [] {} history unanswered final)
    : Replays history final where
  armed early instruction during late slot armed whole arming untold count answer given := by
    subst whole
    obtain ⟨_, _, _, _, waits, behind⟩ := performance.behind_told nofun
    rw [answersIn, ← List.filterMap_eq_filter] at given
    have follows := (slot_supply slot).shared behind waits untold given
    rwa [Instruction.armed_of_arming arming] at follows
  unarmed during late slot whole untold answer member := by
    subst whole
    obtain ⟨_, _, front, _⟩ := performance.split
    obtain ⟨count, given⟩ := List.mem_iff_getElem?.mp member
    rw [answersIn, ← List.filterMap_eq_filter] at given
    have follows := (slot_supply slot).shared front nofun untold given
    cases slot <;> exact follows
  reported early token sequence during late whole untold count reports given := by
    subst whole
    obtain ⟨_, _, _, _, waits, behind⟩ := performance.behind_told nofun
    have reported := (sequence_supply token).shared behind waits untold given
    rwa [Instruction.carryOut, sequence_setStatuses] at reported
  unset token during late whole untold reports member := by
    subst whole
    obtain ⟨_, _, front, _⟩ := performance.split
    obtain ⟨count, given⟩ := List.mem_iff_getElem?.mp member
    exact (sequence_supply token).shared front nofun untold given
  inOrder answer member := by
    obtain ⟨_, _, given⟩ := performance.given_of_mem nofun member
    exact given.inOrder
  recorded := performance.calls nofun

/-- The authority in memory replays its script in every performance, and whatever a service asks
of it is one: from the connection on, in every task.
-/
theorem authority_replaysScript
    : (∀ history unanswered final,
        Performance [] {} history unanswered final → Replays history final)
      ∧ (∀ configuration second library files correlation,
          (Broker.connect configuration (authority second) library files correlation).Performs)
      ∧ ∀ (broker : Broker State) (second : Int) (task : Task),
          ((broker.onMemory second).serve task).Performs :=
  ⟨fun _ _ _ performance => performance.replays, Broker.connect_performs,
    fun broker second task => broker.serve_performs second task⟩

/-- One upload fails, and of two checks that wait together the one that is answered first has the
first status, although it was asked last.
-/
theorem authority_replaysScript_overtaken
    : let put : CallRecord := ⟨0, .nil, .objectPut "u" "c" []⟩
      let check (time : Nat) : CallRecord := ⟨time, .nil, .uploadCheck ["a"]⟩
      let history : List Occurrence :=
        [.told (.failPuts .unavailable (some 1)),
          .told (.setStatuses "a" [.initiated, .succeeded]),
          .served ⟨put, .error (.unavailable ⟨.objectPut, .nil⟩ .refused)⟩,
          .asked (check 1), .asked (check 2),
          .served ⟨put, .ok ()⟩,
          .answered ⟨check 2, .ok [⟨"a", .initiated⟩]⟩,
          .answered ⟨check 1, .ok [⟨"a", .succeeded⟩]⟩]
      let final : State :=
        { calls :=
            [.putObject "u" "c" 0, .statusCheck .nil ["a"], .statusCheck .nil ["a"],
              .putObject "u" "c" 0]
          statuses := [("a", [.succeeded])] }
      Performance [] {} history [] final ∧ Replays history final := by
  intro put check history final
  let told : State :=
    { putFailure := some ⟨.unavailable, some 1⟩
      statuses := [("a", [.initiated, .succeeded])] }
  let failed : State :=
    { told with calls := [.putObject "u" "c" 0], putFailure := some ⟨.unavailable, some 0⟩ }
  let asked : State :=
    { failed with
      calls := [.putObject "u" "c" 0, .statusCheck .nil ["a"], .statusCheck .nil ["a"]] }
  let stored : State := { final with statuses := told.statuses }
  let first := (authority 0).question (check 1) failed
  let second := (authority 0).question (check 2) asked
  have performance : Performance [] {} history [] final := by
    refine .cons (.told _) (.cons (.told _) ?_)
    refine .cons (@Occurrence.Occurs.served _ told put 0 nofun) ?_
    refine .cons (.asked_front 0 (by decide)) (.cons (.asked_front 0 (by decide)) ?_)
    refine .cons (@Occurrence.Occurs.served _ asked put 0 nofun) ?_
    refine .cons (.answered_front second [first] stored) ?_
    exact .cons (.answered_front first [] final) .silence
  exact ⟨performance, authority_replaysScript.1 _ _ _ performance⟩

end ObjectGrants.InMemory
