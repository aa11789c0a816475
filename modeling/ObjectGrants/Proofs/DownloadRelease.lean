import ObjectGrants.Broker
import ObjectGrants.Proofs.GateWait
import ObjectGrants.Proofs.Traversal

/-! Downloads are requested behind the gate only. A request for downloads is made at no point
of any run but behind a check whose answer gives every object a success as its last word, and
nothing about the objects is asked afterwards.
-/

namespace ObjectGrants

namespace Broker

variable {σ α β : Type}

-----------------------------------------------------------------------------------------
-- The objects of a list of bound tokens
-----------------------------------------------------------------------------------------

/-- Every token is verified, and the objects they are bound to are one or more and distinct.
-/
structure Bound (broker : Broker σ) (now : Moment) (tokens : List String)
    (objects : List ObjectId)
    : Prop where
  verified
    : List.Forall₂ (fun token object => broker.verify now token = .ok object) tokens objects
  nonempty : objects ≠ []
  distinct : objects.Nodup

/-- Bound objects are distinct by their names too. -/
theorem Bound.names_nodup {broker : Broker σ} {now : Moment} {tokens : List String}
    {objects : List ObjectId} (bound : broker.Bound now tokens objects)
    : (objects.map (·.text)).Nodup :=
  bound.distinct.map fun first second same => by cases first; cases second; cases same; rfl

/-- Nothing is repeated exactly if the objects are distinct among each other and from those
seen before, by induction on the list.
-/
theorem firstRepeated?_eq_none_iff {seen objects : List ObjectId}
    : firstRepeated? seen objects = none
      ↔ objects.Nodup ∧ ∀ object ∈ objects, object ∉ seen := by
  induction objects generalizing seen with
  | nil => simp [firstRepeated?]
  | cons object rest ih =>
      by_cases member : object ∈ seen
      · simp [firstRepeated?, member]
      · simp only [firstRepeated?, List.contains_eq_mem, member, decide_false,
          Bool.false_eq_true, if_false, ih, List.nodup_cons, List.mem_cons, not_or]
        constructor
        · intro holds
          obtain ⟨distinct, fresh⟩ := holds
          refine ⟨⟨fun again => (fresh object again).1 rfl, distinct⟩, ?_⟩
          intro other holds
          rcases holds with rfl | later
          · exact member
          · exact (fresh other later).2
        · intro holds
          obtain ⟨⟨once, distinct⟩, fresh⟩ := holds
          refine ⟨distinct, fun other later => ⟨?_, fresh other (Or.inr later)⟩⟩
          intro same
          subst same
          exact once later

/-- Tokens give objects to ask about exactly if they are bound to them. -/
theorem boundObjects_eq_ok_iff {broker : Broker σ} {now : Moment} {tokens names : List String}
    : broker.boundObjects now tokens = .ok names
      ↔ ∃ objects, broker.Bound now tokens objects ∧ names = objects.map (·.text) := by
  unfold boundObjects
  cases tokens with
  | nil =>
      simp only [List.isEmpty_nil, if_true, reduceCtorEq, false_iff]
      intro holds
      obtain ⟨objects, bound, _⟩ := holds
      exact bound.nonempty (List.forall₂_nil_left_iff.mp bound.verified)
  | cons token rest =>
      simp only [List.isEmpty_cons, Bool.false_eq_true, if_false, Traversal.bind_eq_ok_iff,
        Traversal.mapM_eq_ok_iff]
      constructor
      · intro holds
        obtain ⟨objects, verified, unrepeated⟩ := holds
        cases repeated : firstRepeated? [] objects with
        | some object => simp [repeated] at unrepeated
        | none =>
            simp only [repeated, Except.ok.injEq] at unrepeated
            refine ⟨objects, ⟨verified, ?_, (firstRepeated?_eq_none_iff.mp repeated).1⟩,
              unrepeated.symm⟩
            intro same
            subst same
            simp at verified
      · intro holds
        obtain ⟨objects, bound, rfl⟩ := holds
        have unrepeated : firstRepeated? [] objects = none :=
          firstRepeated?_eq_none_iff.mpr ⟨bound.distinct, by simp⟩
        exact ⟨objects, bound.verified, by simp only [unrepeated]⟩

-----------------------------------------------------------------------------------------
-- What stands around a request for downloads
-----------------------------------------------------------------------------------------

/-- The last check in `history` has asked about exactly these objects, in their order, and the
last word of its answer on each of them is success.
-/
def Cleared (objects : List ObjectId) (history : List Exchange) : Prop :=
  ∃ early time correlation reports late,
    history
      = early
        ++ ⟨⟨time, correlation, .uploadCheck (objects.map (·.text))⟩, some (.ok reports)⟩
          :: late
    ∧ (∀ exchange ∈ late, exchange.record.call.endpoint ≠ .uploadCheck)
    ∧ ∀ object ∈ objects,
        ∃ report, Gate.LastReport reports object.text report ∧ report.status = .succeeded

/-- A request for downloads that may be made between the exchanges `before` and `after` it. -/
structure Permitted (broker : Broker σ) (now : Moment) (tokens : List String)
    (before : List Exchange) (request : Exchange) (after : List Exchange)
    (objects : List ObjectId)
    : Prop where
  bound : broker.Bound now tokens objects
  cleared : Cleared objects before
  asked : request.record.call = .download ⟨objects.map (·.text), broker.downloadExpirySecs⟩
  unchecked : ∀ exchange ∈ after, exchange.record.call.endpoint ≠ .uploadCheck

/-- An operation on bound tokens that releases downloads behind `gate` only. Every request for
downloads in its log is permitted; a fault of the gate is its result and leaves no request,
nor does any result but `opening`; and a gate that opens is followed by a request.
-/
structure Guarded (broker : Broker σ) (now : Moment) (tokens : List String) (opening : α)
    (gate : List String → Operation σ α) (operation : Operation σ β) (state : σ)
    : Prop where
  permitted
    : ∃ history,
        Dialogue broker.authority 0 state history (operation.start state).elapsed
          (operation.start state).state
        ∧ history.map (·.record) = (operation.start state).calls
        ∧ ∀ before request after,
            history = before ++ request :: after
            → request.record.call.endpoint = .download
            → ∃ objects, broker.Permitted now tokens before request after objects
  refused
    : ∀ objects fault,
        broker.Bound now tokens objects
        → ((gate (objects.map (·.text))).start state).value = .error fault
        → (operation.start state).value = .error fault
          ∧ ∀ record ∈ (operation.start state).calls, record.call.endpoint ≠ .download
  closed
    : ∀ objects result,
        broker.Bound now tokens objects
        → ((gate (objects.map (·.text))).start state).value = .ok result
        → result ≠ opening
        → ∀ record ∈ (operation.start state).calls, record.call.endpoint ≠ .download
  released
    : ∀ objects,
        broker.Bound now tokens objects
        → ((gate (objects.map (·.text))).start state).value = .ok opening
        → ∃ record ∈ (operation.start state).calls,
            record.call = .download ⟨objects.map (·.text), broker.downloadExpirySecs⟩

/-- Requesting downloads asks for nothing else, and at least once. Witness: the repetition of
the one call; what is made of its answer asks nothing.
-/
theorem requestDownloads_asks (broker : Broker σ) (correlation : CorrelationId)
    (objects : List String) (now : Nat) (state : σ)
    : ((broker.requestDownloads correlation objects).runAt now state).Led broker.authority now
        state fun history _ =>
          history ≠ []
          ∧ ∀ exchange ∈ history,
              exchange.Asks correlation (.download ⟨objects, broker.downloadExpirySecs⟩) := by
  let request : Call := .download ⟨objects, broker.downloadExpirySecs⟩
  have head
      : ((Operation.ofTimed (broker.policy.run (Timed.call broker.authority correlation
          request))).runAt now state).Led broker.authority now state
          (Repeats correlation request) :=
    (broker.policy.run_repeats broker.authority correlation request Horizon.never now state
      rfl).1
  have whole := Operation.led_bind head fun grants later between =>
    Operation.led_ofResult (objects.mapM (resolveDownload correlation grants)) later between
  obtain ⟨history, dialogue, calls, split⟩ := whole
  refine ⟨history, dialogue, calls, ?_⟩
  rcases split with ⟨grants, early, late, rfl, repeats, rfl, _⟩ | ⟨fault, repeats, _⟩
  · obtain ⟨before, time, rfl⟩ := repeats.last _ rfl
    exact ⟨by simp, by simpa only [List.append_nil] using repeats.asks⟩
  · obtain ⟨before, time, rfl⟩ := repeats.last _ rfl
    exact ⟨by simp, repeats.asks⟩

/-- What follows a gate: requests for the downloads behind an open one, and nothing otherwise.
-/
def Follows (broker : Broker σ) (correlation : CorrelationId) (opening : α)
    (follow : List String → α → Operation σ β)
    : Prop :=
  ∀ names result now state,
    ((follow names result).runAt now state).Led broker.authority now state fun history _ =>
      (history ≠ [] ↔ result = opening)
      ∧ ∀ exchange ∈ history,
          exchange.Asks correlation (.download ⟨names, broker.downloadExpirySecs⟩)

theorem requestDownloads_follows (broker : Broker σ) (correlation : CorrelationId)
    : broker.Follows correlation () fun names _ =>
        broker.requestDownloads correlation names := by
  intro names result now state
  obtain ⟨history, dialogue, calls, nonempty, asks⟩ :=
    broker.requestDownloads_asks correlation names now state
  exact ⟨history, dialogue, calls, ⟨fun _ => rfl, fun _ => nonempty⟩, asks⟩

theorem requestBehind_follows (broker : Broker σ) (correlation : CorrelationId)
    : broker.Follows correlation (.ok ()) (broker.requestBehind correlation) := by
  intro names waited now state
  cases waited with
  | error panic => exact ⟨[], .silence (Nat.le_add_right now _), rfl, by simp, by simp⟩
  | ok opened =>
      have whole := Operation.led_bind (broker.requestDownloads_asks correlation names now state)
        fun downloads later between =>
          Operation.led_ofResult (.ok (Except.ok (ε := Panic) downloads)) later between
      obtain ⟨history, dialogue, calls, split⟩ := whole
      refine ⟨history, dialogue, calls, ?_⟩
      rcases split with ⟨downloads, early, late, rfl, ⟨nonempty, asks⟩, rfl, _⟩ | ⟨_, asked, _⟩
      · rw [List.append_nil]
        exact ⟨⟨fun _ => rfl, fun _ => nonempty⟩, asks⟩
      · exact ⟨⟨fun _ => rfl, fun _ => asked.1⟩, asked.2⟩

/-- Checks that open the gate clear the objects they have asked about. -/
theorem cleared_of_opens {opening : α} {correlation : CorrelationId}
    {objects : List ObjectId} {history : List Exchange}
    (opens
      : Gate.Opens (ε := Empty) opening correlation (objects.map (·.text)) history
          (.ok (.ok opening)))
    : Cleared objects history := by
  obtain ⟨_, early, time, reports, last, decision⟩ := opens.opened rfl
  refine ⟨early, time, correlation, reports, [], last, by simp, ?_⟩
  intro object member
  exact Gate.standing_eq_zero_iff.mp
    (Gate.judge_ok_iff.mp decision object.text (List.mem_map_of_mem member))

/-- Checks that open a gate, followed by requests for downloads, permit each of the requests.
Witness: a request stands among the later exchanges, so all checks are before it.
-/
theorem permitted_of_opens {broker : Broker σ} {now : Moment} {tokens : List String}
    {objects : List ObjectId} {opening : α} {correlation : CorrelationId}
    {checks requests before after : List Exchange} {request : Exchange}
    (bound : broker.Bound now tokens objects)
    (opens
      : Gate.Opens (ε := Empty) opening correlation (objects.map (·.text)) checks
          (.ok (.ok opening)))
    (asks
      : ∀ exchange ∈ requests,
          exchange.Asks correlation
            (.download ⟨objects.map (·.text), broker.downloadExpirySecs⟩))
    (split : checks ++ requests = before ++ request :: after)
    (download : request.record.call.endpoint = .download)
    : broker.Permitted now tokens before request after objects := by
  have behind
      : ∃ middle, before = checks ++ middle ∧ requests = middle ++ request :: after := by
    rcases List.append_eq_append_iff.mp split with
      ⟨middle, prefixed, rest⟩ | ⟨middle, prefixed, rest⟩
    · exact ⟨middle, prefixed, rest⟩
    · cases middle with
      | nil => exact ⟨[], by simpa using prefixed.symm, by simpa using rest.symm⟩
      | cons first middle =>
          obtain ⟨rfl, _⟩ := List.cons.inj rest
          have check := opens.asks request (by simp [prefixed])
          simp [check.call, Call.endpoint] at download
  obtain ⟨middle, rfl, rfl⟩ := behind
  refine ⟨bound, ?_, (asks request (by simp)).call, ?_⟩
  · obtain ⟨early, time, asked, reports, late, rfl, unchecked, last⟩ := cleared_of_opens opens
    refine ⟨early, time, asked, reports, late ++ middle, by simp, ?_, last⟩
    intro exchange member
    rcases List.mem_append.mp member with first | second
    · exact unchecked exchange first
    · simp [(asks exchange (by simp [second])).call, Call.endpoint]
  · intro exchange member
    simp [(asks exchange (by simp [member])).call, Call.endpoint]

-----------------------------------------------------------------------------------------
-- Both operations on bound tokens
-----------------------------------------------------------------------------------------

section

variable {broker : Broker σ} {correlation : CorrelationId} {opening : α}
  {gate : Operation σ α} {follow : List String → α → Operation σ β} {state : σ}

/-- Behind a gate that opens by its last answer, every request for downloads is permitted, and
there is none behind a gate that stays shut.
-/
theorem permitted_behind {now : Moment} {tokens : List String} {objects : List ObjectId}
    (bound : broker.Bound now tokens objects)
    (opens
      : (gate.runAt 0 state).Led broker.authority 0 state
          (Gate.Opens opening correlation (objects.map (·.text))))
    (follows : broker.Follows correlation opening follow)
    : ((gate >>= follow (objects.map (·.text))).runAt 0 state).Led broker.authority 0 state
        fun history _ =>
          ∀ before request after,
            history = before ++ request :: after
            → request.record.call.endpoint = .download
            → broker.Permitted now tokens before request after objects := by
  obtain ⟨history, dialogue, calls, split⟩ := Operation.led_bind opens fun result later between =>
    follows (objects.map (·.text)) result later between
  refine ⟨history, dialogue, calls, ?_⟩
  intro before request after same download
  rcases split with ⟨result, early, late, rfl, opens, requested, asks⟩ | ⟨fault, opens, _⟩
  · by_cases opened : result = opening
    · subst opened
      exact permitted_of_opens bound opens asks same download
    · obtain rfl : late = [] := Decidable.not_not.mp (mt requested.mp opened)
      have check := opens.asks request (by rw [List.append_nil] at same; simp [same])
      simp [check.call, Call.endpoint] at download
  · have check := opens.asks request (by simp [same])
    simp [check.call, Call.endpoint] at download

/-- A gate that asks for nothing but the status of the tokens requests no downloads. -/
theorem asks_no_download {names : List String}
    (opens
      : (gate.runAt 0 state).Led broker.authority 0 state
          (Gate.Opens opening correlation names))
    : ∀ record ∈ (gate.start state).calls, record.call.endpoint ≠ .download := by
  obtain ⟨history, _, calls, checks⟩ := opens
  intro record made
  rw [Operation.start_eq, ← calls] at made
  obtain ⟨exchange, member, rfl⟩ := List.mem_map.mp made
  simp [(checks.asks exchange member).call, Call.endpoint]

/-- A gate that fails ends the operation behind it with its fault, before any request. -/
theorem refused_behind {names : List String} {fault : Fault}
    (opens
      : (gate.runAt 0 state).Led broker.authority 0 state
          (Gate.Opens opening correlation names))
    (failed : (gate.start state).value = .error fault)
    : ((gate >>= follow names).start state).value = .error fault
      ∧ ∀ record ∈ ((gate >>= follow names).start state).calls,
          record.call.endpoint ≠ .download := by
  have unasked := asks_no_download opens
  simp only [Operation.start_eq, Operation.runAt_bind] at failed unasked ⊢
  rw [failed]
  exact ⟨rfl, unasked⟩

/-- A gate that neither fails nor opens is followed by no request. -/
theorem closed_behind {names : List String} {result : α}
    (opens
      : (gate.runAt 0 state).Led broker.authority 0 state
          (Gate.Opens opening correlation names))
    (follows : broker.Follows correlation opening follow)
    (ended : (gate.start state).value = .ok result) (shut : result ≠ opening)
    : ∀ record ∈ ((gate >>= follow names).start state).calls,
        record.call.endpoint ≠ .download := by
  have unasked := asks_no_download opens
  obtain ⟨history, _, calls, requested, _⟩ :=
    follows names result (gate.runAt 0 state).elapsed (gate.runAt 0 state).state
  obtain rfl : history = [] := Decidable.not_not.mp (mt requested.mp shut)
  simp only [Operation.start_eq, Operation.runAt_bind, Nat.zero_add] at ended unasked ⊢
  rw [ended]
  simpa [← calls] using unasked

/-- A gate that opens is followed by a request for the downloads. -/
theorem released_behind {names : List String}
    (follows : broker.Follows correlation opening follow)
    (opened : (gate.start state).value = .ok opening)
    : ∃ record ∈ ((gate >>= follow names).start state).calls,
        record.call = .download ⟨names, broker.downloadExpirySecs⟩ := by
  obtain ⟨history, _, calls, requested, asks⟩ :=
    follows names opening (gate.runAt 0 state).elapsed (gate.runAt 0 state).state
  obtain ⟨exchange, rest, rfl⟩ := List.exists_cons_of_ne_nil (requested.mpr rfl)
  refine ⟨exchange.record, ?_, (asks exchange (by simp)).call⟩
  simp only [Operation.start_eq, Operation.runAt_bind, Nat.zero_add] at opened ⊢
  rw [opened]
  simp [← calls]

end

/-- What is done about the objects of some tokens when the clock is looked at, from the start. -/
theorem boundObjects_start (broker : Broker σ) (clock : Clock) (tokens : List String)
    (following : List String → Operation σ β) (state : σ)
    : ((Operation.atTime fun time => broker.boundObjects (clock.moment time) tokens)
          >>= following).start state
      = match broker.boundObjects (clock.moment 0) tokens with
        | .ok names => (following names).start state
        | .error fault => (Operation.ofResult (.error fault)).start state := by
  rw [Operation.start_eq, Operation.runAt_atTime_bind, Operation.ofResult_bind]
  cases broker.boundObjects (clock.moment 0) tokens <;> rfl

/-- An operation that asks a gate about the objects of its tokens and requests their downloads
behind it is guarded by that gate, whichever gate leads a dialogue of checks and opens by its
last answer.
-/
theorem guarded_of_opens (broker : Broker σ) (correlation : CorrelationId) (clock : Clock)
    (tokens : List String) {opening : α} {gate : List String → Operation σ α}
    {follow : List String → α → Operation σ β} (state : σ)
    (opens
      : ∀ names,
          ((gate names).runAt 0 state).Led broker.authority 0 state
            (Gate.Opens opening correlation names))
    (follows : broker.Follows correlation opening follow)
    : broker.Guarded (clock.moment 0) tokens opening gate
        (do
          let names ← Operation.atTime fun time => broker.boundObjects (clock.moment time) tokens
          gate names >>= follow names)
        state := by
  have start := broker.boundObjects_start clock tokens
    (fun names => gate names >>= follow names) state
  cases known : broker.boundObjects (clock.moment 0) tokens with
  | error fault =>
      rw [known] at start
      have unbound {objects} : ¬ broker.Bound (clock.moment 0) tokens objects := by
        intro bound
        have := boundObjects_eq_ok_iff.mpr ⟨objects, bound, rfl⟩
        simp [known] at this
      -- Tokens that do not all verify end the operation before anything is asked.
      refine ⟨?_, ?_, ?_, ?_⟩
      · rw [start]
        exact ⟨[], .silence (Nat.le_refl 0), rfl, by simp⟩
      · exact fun objects _ bound => absurd bound unbound
      · exact fun objects _ bound => absurd bound unbound
      · exact fun objects bound => absurd bound unbound
  | ok names =>
      rw [known] at start
      obtain ⟨objects, bound, rfl⟩ := boundObjects_eq_ok_iff.mp known
      -- The tokens bind one list of objects only, so the gate was asked about these.
      have named {others} (bound : broker.Bound (clock.moment 0) tokens others)
          : others.map (·.text) = objects.map (·.text) := by
        have := boundObjects_eq_ok_iff.mpr ⟨others, bound, rfl⟩
        exact (Except.ok.inj (known.symm.trans this)).symm
      refine ⟨?_, ?_, ?_, ?_⟩
      · rw [start]
        obtain ⟨history, dialogue, calls, permitted⟩ := permitted_behind bound (opens _) follows
        rw [Nat.zero_add] at dialogue
        exact ⟨history, dialogue, calls, fun before request after same download =>
          ⟨objects, permitted before request after same download⟩⟩
      · intro others fault bound failed
        rw [named bound] at failed
        rw [start]
        exact refused_behind (opens _) failed
      · intro others result bound ended shut
        rw [named bound] at ended
        rw [start]
        exact closed_behind (opens _) follows ended shut
      · intro others bound opened
        rw [named bound] at opened ⊢
        rw [start]
        exact released_behind follows opened

/-- Downloads behind a wait that panics end in the panic. -/
theorem issueDownloadsWithin_panicked {broker : Broker σ} {correlation : CorrelationId}
    {clock : Clock} {tokens : List String} {objects : List ObjectId} {timeout : Nat}
    {cancel : Option Nat} {state : σ} {panic : Panic}
    (bound : broker.Bound (clock.moment 0) tokens objects)
    (panicked
      : ((broker.gate.waitUntilReady clock correlation (objects.map (·.text)) timeout
            cancel).start state).value
        = .ok (.error panic))
    : ((broker.issueDownloadsWithin correlation clock tokens timeout cancel).start state).value
      = .ok (.error panic) := by
  rw [issueDownloadsWithin, boundObjects_start,
    boundObjects_eq_ok_iff.mpr ⟨objects, bound, rfl⟩]
  rw [Operation.start_eq] at panicked
  simp only [Operation.start_eq, Operation.runAt_bind, panicked]
  rfl

/-- Downloads are released behind the gate only, whether the gate is asked once or waited at:
in every run, each request for downloads follows a check that clears exactly the objects of
the verified tokens, and no check follows it. A gate that ends in a fault ends the operation,
and so does a wait that panics.
-/
theorem downloads_guarded (broker : Broker σ) (correlation : CorrelationId) (clock : Clock)
    (tokens : List String) (timeout : Nat) (cancel : Option Nat) (state : σ)
    : let wait (names : List String) :=
        broker.gate.waitUntilReady clock correlation names timeout cancel
      let within := broker.issueDownloadsWithin correlation clock tokens timeout cancel
      broker.Guarded (clock.moment 0) tokens () (broker.gate.ensureReady correlation)
        (broker.issueDownloads correlation clock tokens) state
      ∧ broker.Guarded (clock.moment 0) tokens (.ok ()) wait within state
      ∧ ∀ objects panic,
          broker.Bound (clock.moment 0) tokens objects
          → ((wait (objects.map (·.text))).start state).value = .ok (.error panic)
          → (within.start state).value = .ok (.error panic) := by
  intro wait within
  refine ⟨?_, ?_, fun objects panic bound panicked => issueDownloadsWithin_panicked bound panicked⟩
  · exact broker.guarded_of_opens correlation clock tokens state
      (fun names => broker.gate.ensureReady_opens correlation names 0 state)
      (broker.requestDownloads_follows correlation)
  · exact broker.guarded_of_opens correlation clock tokens state
      (fun names =>
        broker.gate.waitUntilReady_opens clock correlation names timeout cancel 0 state)
      (broker.requestBehind_follows correlation)

end Broker

end ObjectGrants
