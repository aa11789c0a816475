import ObjectGrants.Proofs.Calls
import ObjectGrants.Proofs.DispatchAnswers

/-! Faults that name the calls in which they arose. If the authority names its calls in the faults
that it answers with, then so do the steps that operations consist of: repeated calls, the
rounds of a wait and the lanes of a dispatch.
-/

namespace ObjectGrants

variable {σ ε α β : Type}

-----------------------------------------------------------------------------------------
-- Attributed faults
-----------------------------------------------------------------------------------------

/-- A fault names a correlation identifier and one of some endpoints, if it arose in a call. -/
def Fault.Attributed (correlation : CorrelationId) (endpoints : List Endpoint) (fault : Fault)
    : Prop :=
  ∀ origin,
    fault.origin? = some origin
    → origin.correlation = correlation ∧ origin.endpoint ∈ endpoints

section

variable {correlation : CorrelationId} {endpoints more : List Endpoint} {fault : Fault}

theorem Fault.Attributed.of_local (arose : fault.origin? = none)
    : fault.Attributed correlation endpoints := by
  intro origin named
  rw [arose] at named
  exact nomatch named

theorem Fault.Attributed.of_origin {endpoint : Endpoint}
    (arose : fault.origin? = some ⟨endpoint, correlation⟩) (among : endpoint ∈ endpoints)
    : fault.Attributed correlation endpoints := by
  intro origin named
  obtain rfl := Option.some.inj (arose.symm.trans named)
  exact ⟨rfl, among⟩

theorem Fault.Attributed.mono (attributed : fault.Attributed correlation endpoints)
    (subset : endpoints ⊆ more)
    : fault.Attributed correlation more :=
  fun origin named => ⟨(attributed origin named).1, subset (attributed origin named).2⟩

end

/-- A result is as ensured, or a fault that is attributed. -/
def Accounted (correlation : CorrelationId) (endpoints : List Endpoint) (ensures : α → Prop)
    : Except Fault α → Prop
  | .ok value => ensures value
  | .error fault => fault.Attributed correlation endpoints

/-- A result is a value, or a fault that is attributed. -/
abbrev Traced (correlation : CorrelationId) (endpoints : List Endpoint)
    : Except Fault α → Prop :=
  Accounted correlation endpoints fun _ => True

/-- The faults of an authority name the call that they answer, as long as its state is sound, and
no call or answer leads out of the sound states. An answer may be given in a later state than
the one that its call has left.
-/
structure Authority.Attributes (authority : Authority σ) (sound : σ → Prop) : Prop where
  accepted
    : ∀ correlation call state,
        sound state → sound (authority.accept correlation call state).state
  answered
    : ∀ correlation call state later,
        sound state
        → sound later
        → sound ((authority.accept correlation call state).finish later).2
          ∧ Traced correlation [call.endpoint]
              ((authority.accept correlation call state).finish later).1

-----------------------------------------------------------------------------------------
-- Operations that keep states sound
-----------------------------------------------------------------------------------------

namespace Timed

/-- From sound states an operation reaches sound states, and it ends as ensured unless it is cut
off.
-/
def Keeps (sound : σ → Prop) (ensures : α → Prop) (operation : Timed σ ε α) : Prop :=
  ∀ horizon now state,
    sound state
    → sound (operation horizon now state).state
      ∧ ∀ value, (operation horizon now state).outcome = .ok value → ensures value

variable {sound : σ → Prop} {ensures : α → Prop}

theorem keeps_pure {value : α} (holds : ensures value)
    : (pure value : Timed σ ε α).Keeps sound ensures := by
  intro horizon now state begins
  refine ⟨begins, fun other given => ?_⟩
  obtain rfl := Except.ok.inj given
  exact holds

theorem keeps_pause (delay : Nat)
    : (pause delay : Timed σ ε Unit).Keeps sound fun _ => True := by
  intro horizon now state begins
  unfold pause
  split <;> exact ⟨begins, fun _ _ => trivial⟩

theorem keeps_call {authority : Authority σ} (attributes : authority.Attributes sound)
    (correlation : CorrelationId) (asked : Call)
    : (call authority correlation asked : Timed σ ε _).Keeps sound
        (Traced correlation [asked.endpoint]) := by
  intro horizon now state begins
  have after := attributes.accepted correlation asked state begins
  have answers := attributes.answered correlation asked state _ begins after
  dsimp only [call]
  split
  · exact ⟨after, nofun⟩
  · refine ⟨answers.1, fun value given => ?_⟩
    obtain rfl := Except.ok.inj given
    exact answers.2

theorem Keeps.bind {first : Timed σ ε α} {second : α → Timed σ ε β} {last : β → Prop}
    (head : first.Keeps sound ensures)
    (tail : ∀ value, ensures value → (second value).Keeps sound last)
    : (first >>= second).Keeps sound last := by
  intro horizon now state begins
  obtain ⟨between, holds⟩ := head horizon now state begins
  change sound (first.andThen second horizon now state).state
    ∧ ∀ value, (first.andThen second horizon now state).outcome = .ok value → last value
  unfold andThen
  cases ending : first horizon now state with
  | mk outcome elapsed calls reached =>
      rw [ending] at between holds
      cases outcome with
      | error cut => exact ⟨between, nofun⟩
      | ok value => exact tail value (holds value rfl) horizon (now + elapsed) reached between

theorem Keeps.mono {operation : Timed σ ε α} {weaker : α → Prop}
    (keeps : operation.Keeps sound ensures) (weaken : ∀ value, ensures value → weaker value)
    : operation.Keeps sound weaker :=
  fun horizon now state begins =>
    ⟨(keeps horizon now state begins).1, fun value given =>
      weaken value ((keeps horizon now state begins).2 value given)⟩

end Timed

/-- Repetitions of an operation keep what it keeps, by induction on those that are left. -/
theorem RetryPolicy.attempts_keeps (policy : RetryPolicy) {sound : σ → Prop}
    {correlation : CorrelationId} {endpoints : List Endpoint}
    {operation : Timed σ ε (Except Fault α)} {ensures : α → Prop}
    (keeps : operation.Keeps sound (Accounted correlation endpoints ensures)) (retry left : Nat)
    : (policy.attempts operation retry left).Keeps sound
        (Accounted correlation endpoints ensures) := by
  induction left generalizing retry with
  | zero => exact keeps
  | succ left ih =>
      refine keeps.bind fun result holds => ?_
      cases result with
      | ok value => exact Timed.keeps_pure holds
      | error fault =>
          dsimp only
          split
          · exact (Timed.keeps_pause _).bind fun _ _ => ih _
          · exact Timed.keeps_pure holds

/-- A call that is repeated ends with an answer, or with a fault that names it. -/
theorem RetryPolicy.run_keeps (policy : RetryPolicy) {authority : Authority σ}
    {sound : σ → Prop} (attributes : authority.Attributes sound) (correlation : CorrelationId)
    (call : Call)
    : (policy.run (Timed.call authority correlation call) : Timed σ ε _).Keeps sound
        (Traced correlation [call.endpoint]) :=
  policy.attempts_keeps (Timed.keeps_call attributes correlation call) 0 policy.retries

-----------------------------------------------------------------------------------------
-- The gate
-----------------------------------------------------------------------------------------

namespace Gate

variable {sound : σ → Prop} (gate : Gate σ)

/-- A decision names no call. -/
theorem judge_accounted (correlation : CorrelationId) (endpoints : List Endpoint)
    (tokens : List String) (reports : List TokenStatus)
    : Traced correlation endpoints (judge tokens reports) := by
  unfold judge
  dsimp only
  split
  · exact .of_local rfl
  · split
    · exact .of_local rfl
    · trivial

theorem check_keeps (attributes : gate.authority.Attributes sound) (correlation : CorrelationId)
    (tokens : List String)
    : (gate.check correlation tokens : Timed σ ε _).Keeps sound
        (Traced correlation [.uploadCheck]) := by
  unfold check
  split
  · exact Timed.keeps_pure (Fault.Attributed.of_local rfl)
  · refine (gate.policy.run_keeps attributes correlation (.uploadCheck tokens)).bind ?_
    intro result holds
    cases result with
    | ok reports => exact Timed.keeps_pure (judge_accounted _ _ _ _)
    | error fault => exact Timed.keeps_pure holds

/-- A fault that a wait makes of its own names the check of statuses, if it names a call. -/
theorem cancelled_attributed (correlation : CorrelationId)
    : (cancelled correlation).Attributed correlation [.uploadCheck] :=
  .of_origin rfl List.mem_cons_self

theorem overdue_attributed (correlation : CorrelationId) (last : Option (List TokenStatus))
    : (overdue correlation last).Attributed correlation [.uploadCheck] := by
  cases last with
  | none => exact .of_origin rfl List.mem_cons_self
  | some reports => exact .of_local rfl

/-- A check that ends a wait ends it with an accounted result. -/
theorem ofCheck_accounted {correlation : CorrelationId} {last : Option (List TokenStatus)}
    {outcome : Except Interruption (Except Fault Unit)} {result : Except Fault Unit}
    (holds
      : ∀ checked,
          outcome = .ok checked → Traced correlation [.uploadCheck] checked)
    (decided : Verdict.ofCheck correlation last outcome = .decided result)
    : Traced correlation [.uploadCheck] result := by
  unfold Verdict.ofCheck at decided
  split at decided
  · obtain rfl := Verdict.decided.inj decided
    exact cancelled_attributed correlation
  · obtain rfl := Verdict.decided.inj decided
    exact overdue_attributed correlation last
  · exact nomatch decided
  · obtain rfl := Verdict.decided.inj decided
    exact holds _ rfl

/-- A result in the form of that of a wait is accounted for as before. -/
theorem traced_map {correlation : CorrelationId} {endpoints : List Endpoint}
    {result : Except Fault α} {form : α → β} (holds : Traced correlation endpoints result)
    : Traced correlation endpoints (result.map form) := by
  cases result with
  | ok value => trivial
  | error fault => exact holds

/-- A wait keeps states sound and its faults are attributed, by induction on its rounds. -/
theorem waitFrom_keeps (attributes : gate.authority.Attributes sound) (clock : Clock)
    (correlation : CorrelationId) (tokens : List String) (cancel : Option Nat) (deadline : Nat)
    (last : Option (List TokenStatus)) (now : Nat) (state : σ) (begins : sound state)
    : let ended := gate.waitFrom clock correlation tokens cancel deadline last now state
      sound ended.state ∧ Traced correlation [.uploadCheck] ended.value := by
  fun_induction gate.waitFrom clock correlation tokens cancel deadline last now state with
  | case1 last now state horizon cut => exact ⟨begins, cancelled_attributed correlation⟩
  | case2 last now state horizon within round stop result decided =>
      have checked := gate.check_keeps attributes correlation tokens horizon now state begins
      exact ⟨checked.1, traced_map (ofCheck_accounted checked.2 decided)⟩
  | case3 last now state horizon within round stop reports pending overdue =>
      have checked := gate.check_keeps attributes correlation tokens horizon now state begins
      exact ⟨checked.1, .of_local rfl⟩
  | case4 last now state horizon within round stop reports pending early overflow =>
      have checked := gate.check_keeps attributes correlation tokens horizon now state begins
      exact ⟨checked.1, trivial⟩
  | case5 last now state horizon within round stop reports pending early timed wake moment
      reason cut =>
      have checked := gate.check_keeps attributes correlation tokens horizon now state begins
      exact ⟨checked.1, cancelled_attributed correlation⟩
  | case6 last now state horizon within round reports pending early timed wake free rest ih =>
      exact ih (gate.check_keeps attributes correlation tokens horizon now state begins).1

/-- A wait from its start keeps states sound, and its faults are attributed. -/
theorem waitUntilReady_keeps (attributes : gate.authority.Attributes sound) (clock : Clock)
    (correlation : CorrelationId) (tokens : List String) (timeout : Nat) (cancel : Option Nat)
    (now : Nat) (state : σ) (begins : sound state)
    : let ended :=
        (gate.waitUntilReady clock correlation tokens timeout cancel).runAt now state
      sound ended.state ∧ Traced correlation [.uploadCheck] ended.value := by
  rw [waitUntilReady_runAt]
  split
  · exact ⟨begins, trivial⟩
  · exact gate.waitFrom_keeps attributes clock correlation tokens _ _ none now state begins

end Gate

-----------------------------------------------------------------------------------------
-- Dispatches
-----------------------------------------------------------------------------------------

namespace Dispatch

variable {sound : σ → Prop} {setting : Setting σ}

/-- What a lane waits for or has ended with is accounted for. -/
def Phase.Attributes (sound : σ → Prop) (correlation : CorrelationId) : Phase σ → Prop
  | .due _ _ => True
  | .inFlight _ _ finish =>
      ∀ later,
        sound later
        → sound (finish later).2
          ∧ Traced correlation [.bulkUpload] (finish later).1
  | .settled result => Traced correlation [.bulkUpload] result

theorem Phase.Ensures.attributes {correlation : CorrelationId} {phase : Phase σ}
    (holds : phase.Ensures sound (Traced correlation [.bulkUpload]))
    : phase.Attributes sound correlation := by
  cases phase with
  | due time left => trivial
  | inFlight time left finish => exact holds
  | settled result => exact holds

/-- Some lanes and the state of the authority that they have left. -/
def Attributed (sound : σ → Prop) (correlation : CorrelationId) (lanes : List (Lane σ))
    (state : σ)
    : Prop :=
  sound state ∧ ∀ lane ∈ lanes, lane.phase.Attributes sound correlation

/-- A dispatch leaves all lanes attributed. -/
theorem run_attributed (attributes : setting.authority.Attributes sound) (failFast : Bool)
    (batch : List EnrichedRequest) {state : σ} (begins : sound state)
    : Attributed sound setting.correlation (run setting failFast batch state).lanes
        (run setting failFast batch state).state := by
  have authority
      : setting.authority.EnsuresUploads setting.correlation sound
          fun _ => Traced setting.correlation [.bulkUpload] :=
    ⟨fun descriptors => attributes.accepted setting.correlation (.bulkUpload descriptors),
      fun descriptors => attributes.answered setting.correlation (.bulkUpload descriptors)⟩
  obtain ⟨after, lanes⟩ := run_ensured authority failFast batch begins
  exact ⟨after, fun lane member => (lanes lane member).attributes⟩

/-- The failure of an attributed lane is attributed. -/
theorem Phase.fault?_attributed {correlation : CorrelationId} {phase : Phase σ} {fault : Fault}
    (holds : phase.Attributes sound correlation) (failed : phase.fault? = some fault)
    : fault.Attributed correlation [.bulkUpload] := by
  cases phase with
  | due time left => exact nomatch failed
  | inFlight time left finish => exact nomatch failed
  | settled result =>
      cases result with
      | ok grants => exact nomatch failed
      | error cause =>
          obtain rfl := Option.some.inj failed
          exact holds

end Dispatch

end ObjectGrants
