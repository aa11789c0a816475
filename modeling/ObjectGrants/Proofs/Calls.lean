import ObjectGrants.Proofs.DispatchSchedule
import ObjectGrants.Proofs.DownloadRelease
import ObjectGrants.Proofs.GateRounds

/-! Which calls an operation makes: only some, or one at least. Every operation of a service
keeps to its own endpoints and passes on the correlation identifier that it was given, and a
dispatch asks for the groups of its batch and for nothing else.
-/

namespace ObjectGrants

variable {σ ε α β : Type}

-----------------------------------------------------------------------------------------
-- Operations that keep to some calls
-----------------------------------------------------------------------------------------

/-- A call is made under a correlation identifier and goes to one of some endpoints. -/
structure CallRecord.Concerns (correlation : CorrelationId) (endpoints : List Endpoint)
    (record : CallRecord)
    : Prop where
  correlation : record.correlation = correlation
  endpoint : record.call.endpoint ∈ endpoints

/-- A call that goes to some endpoints is none that would go elsewhere. -/
theorem CallRecord.Concerns.ne {correlation : CorrelationId} {endpoints : List Endpoint}
    {record : CallRecord} (concerns : record.Concerns correlation endpoints) {call : Call}
    (elsewhere : call.endpoint ∉ endpoints)
    : record.call ≠ call := by
  rintro rfl
  exact elsewhere concerns.endpoint

/-- The call of an exchange concerns any endpoints among which its own one is. -/
theorem Exchange.Asks.concerns {correlation : CorrelationId} {call : Call}
    {exchange : Exchange} (asks : exchange.Asks correlation call) {endpoints : List Endpoint}
    (among : call.endpoint ∈ endpoints)
    : exchange.record.Concerns correlation endpoints :=
  ⟨asks.correlation, asks.call ▸ among⟩

namespace Operation

/-- Whenever it is started, an operation makes no calls but allowed ones. -/
def CallsOnly (operation : Operation σ α) (allowed : CallRecord → Prop) : Prop :=
  ∀ now state, ∀ record ∈ (operation.runAt now state).calls, allowed record

variable {allowed more : CallRecord → Prop}

theorem CallsOnly.mono {operation : Operation σ α} (only : operation.CallsOnly allowed)
    (weaken : ∀ record, allowed record → more record)
    : operation.CallsOnly more :=
  fun now state record member => weaken record (only now state record member)

/-- What a function makes of the time calls nothing. -/
theorem callsOnly_atTime (result : Nat → Except Fault α)
    : (atTime result : Operation σ α).CallsOnly allowed :=
  fun _ _ _ member => nomatch member

/-- A known result calls nothing. -/
theorem callsOnly_ofResult (result : Except Fault α)
    : (ofResult result : Operation σ α).CallsOnly allowed :=
  callsOnly_atTime fun _ => result

/-- The calls of a sequence are those of its steps. -/
theorem CallsOnly.bind {first : Operation σ α} {following : α → Operation σ β}
    (head : first.CallsOnly allowed) (tail : ∀ value, (following value).CallsOnly allowed)
    : (first >>= following).CallsOnly allowed := by
  intro now state record member
  rw [runAt_bind] at member
  dsimp only at member
  cases reached : (first.runAt now state).value with
  | error fault =>
      rw [reached] at member
      exact head now state record member
  | ok value =>
      rw [reached] at member
      rcases List.mem_append.mp member with early | late
      · exact head now state record early
      · exact tail value _ _ record late

/-- The calls of a dialogue are those of its exchanges. -/
theorem callsOnly_of_led {authority : Authority σ} {operation : Operation σ α}
    {post : List Exchange → Except Empty (Except Fault α) → Prop}
    (led : ∀ now state, (operation.runAt now state).Led authority now state post)
    (asks
      : ∀ history outcome,
          post history outcome → ∀ exchange ∈ history, allowed exchange.record)
    : operation.CallsOnly allowed := by
  intro now state record member
  obtain ⟨history, _, calls, holds⟩ := led now state
  rw [← calls] at member
  obtain ⟨exchange, among, rfl⟩ := List.mem_map.mp member
  exact asks history _ holds exchange among

/-- Repetitions of a call are calls like it. -/
theorem callsOnly_repeated (policy : RetryPolicy) (authority : Authority σ)
    (correlation : CorrelationId) (call : Call) {endpoints : List Endpoint}
    (among : call.endpoint ∈ endpoints)
    : (ofTimed (policy.run (Timed.call authority correlation call))).CallsOnly
        (CallRecord.Concerns correlation endpoints) :=
  callsOnly_of_led
    (fun now state =>
      (policy.run_repeats authority correlation call Horizon.never now state rfl).1)
    fun _ _ repeats exchange member => (repeats.asks exchange member).concerns among

end Operation

-----------------------------------------------------------------------------------------
-- Operations that ask
-----------------------------------------------------------------------------------------

namespace Timed

/-- However an operation is run, it makes a call. -/
def Asks (operation : Timed σ ε α) : Prop :=
  ∀ horizon now state, (operation horizon now state).calls ≠ []

theorem asks_call (authority : Authority σ) (correlation : CorrelationId) (asked : Call)
    : (call authority correlation asked : Timed σ ε _).Asks := by
  intro horizon now state
  dsimp only [call]
  split <;> exact List.cons_ne_nil _ _

/-- What asks first has asked, whatever follows. -/
theorem Asks.bind {first : Timed σ ε α} (asks : first.Asks) (following : α → Timed σ ε β)
    : (first >>= following).Asks := by
  intro horizon now state
  have made := asks horizon now state
  change (first.andThen following horizon now state).calls ≠ []
  unfold andThen
  cases ending : first horizon now state with
  | mk outcome elapsed calls between =>
      rw [ending] at made
      cases outcome with
      | error cut => exact made
      | ok value => exact List.append_ne_nil_of_left_ne_nil made _

end Timed

theorem RetryPolicy.run_asks (policy : RetryPolicy) (authority : Authority σ)
    (correlation : CorrelationId) (call : Call)
    : (policy.run (Timed.call authority correlation call : Timed σ ε _)).Asks := by
  unfold RetryPolicy.run
  cases policy.retries with
  | zero => exact Timed.asks_call authority correlation call
  | succ left => exact (Timed.asks_call authority correlation call).bind _

theorem Gate.check_asks (gate : Gate σ) (correlation : CorrelationId) {tokens : List String}
    (nonempty : tokens ≠ [])
    : (gate.check correlation tokens : Timed σ ε _).Asks := by
  unfold Gate.check
  rw [if_neg (by simpa using nonempty)]
  exact (gate.policy.run_asks gate.authority correlation (.uploadCheck tokens)).bind _

namespace Operation

/-- Started at some time, an operation makes a call. -/
def Asks (operation : Operation σ α) (now : Nat) : Prop :=
  ∀ state, (operation.runAt now state).calls ≠ []

variable {now : Nat}

theorem asks_ofTimed {timed : Timed σ Empty (Except Fault α)} (asks : timed.Asks)
    : (ofTimed timed).Asks now :=
  fun state => asks .never now state

theorem Asks.bind {first : Operation σ α} (asks : first.Asks now)
    (following : α → Operation σ β)
    : (first >>= following).Asks now := by
  intro state
  have made := asks state
  rw [runAt_bind]
  dsimp only
  cases (first.runAt now state).value with
  | error fault => exact made
  | ok value => exact List.append_ne_nil_of_left_ne_nil made _

end Operation

/-- A wait that has not been cancelled before begins with a check, if a timer can be set to its
deadline.
-/
theorem Gate.waitUntilReady_asks (gate : Gate σ) {clock : Clock} (correlation : CorrelationId)
    {tokens : List String} (nonempty : tokens ≠ []) {timeout : Nat} {cancel : Option Nat}
    (begins : cancel ≠ some 0) {now : Nat} (timed : now + timeout ≤ clock.lastTime)
    : (gate.waitUntilReady clock correlation tokens timeout cancel).Asks now := by
  intro state
  let deadline := now + timeout
  let moment := cancel.map (now + ·)
  have early : (waitHorizon deadline none).passes now = true := by
    rw [waitHorizon_none_passes, decide_eq_true_iff]
    exact Nat.le_add_right now timeout
  have within : (waitHorizon deadline moment).passes now = true := by
    cases cancel with
    | none => exact early
    | some later =>
        have positive : later ≠ 0 := fun same => begins (congrArg some same)
        change (waitHorizon deadline (some (now + later))).passes now = true
        rcases Nat.lt_or_ge deadline (now + later) with late | inTime
        · rw [waitHorizon_late late]
          exact early
        · rw [waitHorizon_some_passes inTime, decide_eq_true_iff]
          omega
  have made := gate.check_asks correlation nonempty (waitHorizon deadline moment) now state
  rw [waitUntilReady_runAt, if_neg (Nat.not_lt.mpr timed)]
  change (gate.waitFrom clock correlation tokens moment deadline none now state).calls ≠ []
  rw [waitFrom]
  simp only [Horizon.cut?_of_passes within, Option.isSome_none, Bool.false_eq_true, if_false]
  split
  · exact made
  · split
    · exact made
    · split
      · exact made
      · split
        · exact made
        · exact List.append_ne_nil_of_left_ne_nil made _

-----------------------------------------------------------------------------------------
-- Dispatches
-----------------------------------------------------------------------------------------

namespace Dispatch

/-- An event on a lane makes the call for its requests, or none. -/
theorem Lane.fire_calls {setting : Setting σ} {lane : Lane σ} {state : σ}
    {record : CallRecord} (member : record ∈ (lane.fire setting state).calls)
    : ∃ time, record = setting.record time lane.requests := by
  unfold Lane.fire at member
  cases phase : lane.phase with
  | due time left =>
      rw [phase] at member
      exact ⟨time, List.mem_singleton.mp member⟩
  | inFlight time left finish =>
      rw [phase] at member
      exact nomatch member
  | settled result =>
      rw [phase] at member
      exact nomatch member

/-- An event on some lanes makes no call but for the group of one of them, by induction on the
lanes.
-/
theorem fireAt_calls {setting : Setting σ} {time : Nat} {state : σ} {lanes : List (Lane σ)}
    {record : CallRecord} (member : record ∈ (fireAt setting time state lanes).calls)
    : ∃ group ∈ lanes.map Lane.group, ∃ moment, record = setting.record moment group.2 := by
  induction lanes with
  | nil => exact nomatch member
  | cons lane rest ih =>
      rw [fireAt] at member
      split at member
      · obtain ⟨moment, same⟩ := Lane.fire_calls member
        exact ⟨lane.group, List.mem_cons_self, moment, same⟩
      · obtain ⟨group, among, moment, same⟩ := ih member
        exact ⟨group, List.mem_cons_of_mem _ among, moment, same⟩

/-- All calls of a dispatch are for the groups of its lanes. Witness: induction on the events that
are left; an event leaves the groups as they are.
-/
theorem proceed_calls {setting : Setting σ} {failFast : Bool} {events time : Nat}
    {lanes : List (Lane σ)} {state : σ} {record : CallRecord}
    (member : record ∈ (proceed setting failFast events time lanes state).calls)
    : ∃ group ∈ lanes.map Lane.group, ∃ moment, record = setting.record moment group.2 := by
  induction events generalizing time lanes state with
  | zero => exact nomatch member
  | succ events ih =>
      rw [proceed] at member
      split at member
      · cases member
      · dsimp only at member
        split at member
        · exact fireAt_calls member
        · rcases List.mem_append.mp member with first | later
          · exact fireAt_calls first
          · simpa only [fireAt_group] using ih later

/-- The operation on a batch asks for its groups only. -/
theorem operation_callsOnly (setting : Setting σ) (failFast : Bool)
    (batch : List EnrichedRequest) (result : List (Lane σ) → Except Fault α)
    : (operation setting failFast batch result).CallsOnly fun record =>
        ∃ group ∈ Partition.ofBatch batch, ∃ time, record = setting.record time group.2 := by
  by_cases nonempty : batch = []
  · subst nonempty
    exact Operation.callsOnly_ofResult _
  · intro now state record member
    rw [operation_runAt setting failFast nonempty] at member
    obtain ⟨original, made, rfl⟩ := List.mem_map.mp member
    obtain ⟨group, among, moment, rfl⟩ := proceed_calls made
    rw [lanes_group] at among
    exact ⟨group, among, now + moment, rfl⟩

theorem lanes_ne_nil (setting : Setting σ) {batch : List EnrichedRequest}
    (nonempty : batch ≠ [])
    : lanes setting batch ≠ [] := by
  intro none
  have groups := lanes_group setting batch
  rw [none] at groups
  have perm := Partition.ofBatch_perm batch
  rw [← groups] at perm
  exact nonempty perm.symm.eq_nil

/-- The lanes of a batch that is not empty begin with a call, since a call is due on each of them.
-/
theorem run_asks (setting : Setting σ) (failFast : Bool) {batch : List EnrichedRequest}
    (nonempty : batch ≠ []) (state : σ)
    : (run setting failFast batch state).calls ≠ [] := by
  have begins (lane : Lane σ) (member : lane ∈ lanes setting batch) :=
    lanes_phase member
  unfold run
  cases next : nextTime? (lanes setting batch) with
  | none =>
      obtain ⟨lane, member⟩ := List.exists_mem_of_ne_nil _ (lanes_ne_nil setting nonempty)
      have past := time?_of_nextTime? next lane member
      rw [begins lane member] at past
      exact nomatch past
  | some time =>
      obtain ⟨events, enough⟩ : ∃ events, weight (lanes setting batch) = events + 1 := by
        refine Nat.exists_eq_succ_of_ne_zero fun none => ?_
        exact nomatch (nextTime?_of_weight none).symm.trans next
      have made : (fireAt setting time state (lanes setting batch)).calls ≠ [] := by
        obtain ⟨before, lane, behind, split, due, early, _⟩ := nextTime?_split next
        have phase := begins lane (by simp [split])
        rw [split, fireAt_split due fun other member same =>
          Nat.lt_irrefl _ (early other member _ same), lane.fire_due setting phase]
        exact List.cons_ne_nil _ _
      simp only [enough, proceed, next]
      split
      · exact made
      · exact List.append_ne_nil_of_left_ne_nil made _

end Dispatch

-----------------------------------------------------------------------------------------
-- The operations of a service
-----------------------------------------------------------------------------------------

namespace Broker

/-- In both batch modes a service asks for the groups of a batch only. -/
theorem requestGrants_callsOnly (broker : Broker σ) (correlation : CorrelationId)
    (batch : List EnrichedRequest)
    : (broker.requestGrants correlation batch).CallsOnly fun record =>
        ∃ group ∈ Partition.ofBatch batch, ∃ time,
          record = (broker.setting correlation).record time group.2 := by
  unfold requestGrants
  cases broker.batchMode with
  | failFast =>
      exact (Dispatch.operation_callsOnly _ true batch _).bind fun _ =>
        Operation.callsOnly_ofResult _
  | partialSuccess => exact Dispatch.operation_callsOnly _ false batch _

theorem requestGrants_asks (broker : Broker σ) (correlation : CorrelationId)
    {batch : List EnrichedRequest} (nonempty : batch ≠ []) (now : Nat)
    : (broker.requestGrants correlation batch).Asks now := by
  have dispatched {α : Type} (failFast : Bool)
      (result : List (Dispatch.Lane σ) → Except Fault α)
      : (Dispatch.operation (broker.setting correlation) failFast batch result).Asks now := by
    intro state
    rw [Dispatch.operation_runAt _ _ nonempty]
    exact fun none => Dispatch.run_asks _ failFast nonempty state (List.map_eq_nil_iff.mp none)
  unfold requestGrants
  cases broker.batchMode with
  | failFast => exact (dispatched true _).bind _
  | partialSuccess => exact dispatched false _

/-- Issuing upload grants asks for uploads only. -/
theorem issueUploads_concerns (broker : Broker σ) (correlation : CorrelationId) (clock : Clock)
    (category : Category) (requests : List UploadRequest)
    : (broker.issueUploads correlation clock category requests).CallsOnly
        (CallRecord.Concerns correlation [.bulkUpload]) := by
  refine (Operation.callsOnly_ofResult _).bind fun batch => Operation.CallsOnly.bind ?_ ?_
  · refine (broker.requestGrants_callsOnly correlation batch).mono fun record asked => ?_
    obtain ⟨group, _, time, rfl⟩ := asked
    exact ⟨rfl, List.mem_singleton.mpr rfl⟩
  · exact fun outcome => Operation.callsOnly_atTime _

/-- Behind a gate, downloads are requested and nothing else. -/
theorem downloads_concern (broker : Broker σ) (correlation : CorrelationId) (clock : Clock)
    (tokens : List String) {opening : α} {gate : List String → Operation σ α}
    {follow : List String → α → Operation σ β}
    (opens
      : ∀ names later state,
          ((gate names).runAt later state).Led broker.authority later state
            (Gate.Opens opening correlation names))
    (follows : broker.Follows correlation opening follow)
    : (do
        let names ← Operation.atTime fun time => broker.boundObjects (clock.moment time) tokens
        gate names >>= follow names).CallsOnly
        (CallRecord.Concerns correlation [.uploadCheck, .download]) := by
  refine (Operation.callsOnly_atTime _).bind fun names => Operation.CallsOnly.bind ?_ ?_
  · refine Operation.callsOnly_of_led (opens names) fun history outcome checks => ?_
    exact fun exchange member => (checks.asks exchange member).concerns (by simp [Call.endpoint])
  · intro result
    refine Operation.callsOnly_of_led (follows names result) ?_
    intro history outcome requests exchange member
    exact (requests.2 exchange member).concerns (by simp [Call.endpoint])

theorem issueDownloads_concerns (broker : Broker σ) (correlation : CorrelationId)
    (clock : Clock) (tokens : List String)
    : (broker.issueDownloads correlation clock tokens).CallsOnly
        (CallRecord.Concerns correlation [.uploadCheck, .download]) :=
  broker.downloads_concern correlation clock tokens
    (fun names => broker.gate.ensureReady_opens correlation names)
    (broker.requestDownloads_follows correlation)

theorem issueDownloadsWithin_concerns (broker : Broker σ) (correlation : CorrelationId)
    (clock : Clock) (tokens : List String) (timeout : Nat) (cancel : Option Nat)
    : (broker.issueDownloadsWithin correlation clock tokens timeout cancel).CallsOnly
        (CallRecord.Concerns correlation [.uploadCheck, .download]) :=
  broker.downloads_concern correlation clock tokens
    (fun names => broker.gate.waitUntilReady_opens clock correlation names timeout cancel)
    (broker.requestBehind_follows correlation)

/-- Uploading an object makes that call only. -/
theorem putObject_concerns (broker : Broker σ) (correlation : CorrelationId) (clock : Clock)
    (grant : SignedGrant) (contentType : String) (body : List UInt8)
    : (broker.putObject correlation clock grant contentType body).CallsOnly
        (CallRecord.Concerns correlation [.objectPut]) :=
  (Operation.callsOnly_atTime _).bind fun _ =>
    Operation.callsOnly_repeated _ _ _ _ (List.mem_singleton.mpr rfl)

end Broker

end ObjectGrants
