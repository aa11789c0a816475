import ObjectGrants.Proofs.DownloadRelease
import ObjectGrants.Proofs.GateRounds
import ObjectGrants.Proofs.UploadAccounting

/-! Waits at the gate that are cancelled. Until the moment of cancellation such a wait does what
it does without one; then it ends, and nothing more is asked of the authority. A cancellation
that falls on another event of the wait comes before it.
-/

namespace ObjectGrants

namespace Gate

variable {σ : Type}

-----------------------------------------------------------------------------------------
-- A wait with and without a cancellation
-----------------------------------------------------------------------------------------

/-- A cancellation behind the deadline changes nothing, by induction on the checks of the wait.
-/
theorem waitFrom_late (gate : Gate σ) (clock : Clock) (correlation : CorrelationId)
    (tokens : List String) {deadline moment : Nat} (late : deadline < moment)
    (last : Option (List TokenStatus)) (now : Nat) (state : σ)
    : gate.waitFrom clock correlation tokens (some moment) deadline last now state
      = gate.waitFrom clock correlation tokens none deadline last now state := by
  fun_induction waitFrom gate clock correlation tokens none deadline last now state with
  | case1 last now state horizon cut =>
      rw [waitFrom, waitHorizon_late late, if_pos cut]
  | case2 last now state horizon within round stop result decided =>
      rw [waitFrom, waitHorizon_late late, if_neg within]
      simp only [horizon, round] at decided ⊢
      rw [decided]
  | case3 last now state horizon within round stop reports pending overdue =>
      rw [waitFrom, waitHorizon_late late, if_neg within]
      simp only [horizon, round] at pending overdue ⊢
      rw [pending]
      exact if_pos overdue
  | case4 last now state horizon within round stop reports pending early overflow =>
      rw [waitFrom, waitHorizon_late late, if_neg within]
      simp only [horizon, round] at pending early overflow ⊢
      rw [pending]
      simp only [if_neg early, if_pos overflow, stop, round, horizon]
  | case5 last now state horizon within round stop reports pending early timed wake moment
      reason cut =>
      rw [waitFrom, waitHorizon_late late, if_neg within]
      simp only [horizon, round, wake] at pending early timed cut ⊢
      rw [pending]
      simp only [if_neg early, if_neg timed, cut, stop, round, horizon]
  | case6 last now state horizon within round reports pending early timed wake free rest ih =>
      rw [waitFrom, waitHorizon_late late, if_neg within]
      simp only [horizon, round, wake] at pending early timed free ih ⊢
      rw [pending]
      simp only [if_neg early, if_neg timed, free, ih, rest, wake, round, horizon]

/-- The calls of a wait are made between its start and its end. -/
theorem waitFrom_spans (gate : Gate σ) (clock : Clock) (correlation : CorrelationId)
    (tokens : List String) (cancel : Option Nat) (deadline : Nat)
    (last : Option (List TokenStatus)) (now : Nat) (state : σ)
    : (gate.waitFrom clock correlation tokens cancel deadline last now state).Spans now := by
  obtain ⟨history, dialogue, calls, _⟩ :=
    gate.waitFrom_opens clock correlation tokens cancel deadline last now state
  intro record member
  rw [← calls] at member
  obtain ⟨exchange, heard, rfl⟩ := List.mem_map.mp member
  exact dialogue.within heard

theorem waitFrom_refused (gate : Gate σ) (clock : Clock) (correlation : CorrelationId)
    (tokens : List String) {cancel : Option Nat} {deadline now : Nat}
    (last : Option (List TokenStatus)) (state : σ)
    (cut : (waitHorizon deadline cancel).passes now = false)
    : gate.waitFrom clock correlation tokens cancel deadline last now state
      = ⟨.ok (.error (cancelled correlation)), 0, [], state⟩ := by
  rw [waitFrom, if_pos (by simpa [Horizon.passes, Option.isSome_iff_ne_none] using cut)]

section

variable {gate : Gate σ} {clock : Clock} {correlation : CorrelationId} {tokens : List String}
  {deadline : Nat} {last : Option (List TokenStatus)} {round : Round σ} {wait : Waited σ}

/-- A moment that cuts off a check, or the sleep behind it, leaves the calls of this check only,
as all others of the wait are made when it wakes or later.
-/
theorem Proceeds.filter_calls {moment : Nat}
    (proceeds
      : gate.Proceeds clock correlation tokens none deadline last deadline .deadline round wait)
    (started : round.start ≤ deadline) (within : moment ≤ deadline)
    (wakes : moment ≤ (gate.nextRound correlation tokens deadline round).start)
    (cut : moment ≤ round.finish ∨ gate.GoesOn clock deadline round)
    : moment ≤ round.start + wait.elapsed
      ∧ wait.calls.filter (·.time < moment) = round.ended.calls.filter (·.time < moment) := by
  have finish : round.finish = round.start + round.ended.elapsed := rfl
  cases proceeds with
  | heard passes final =>
      refine ⟨?_, rfl⟩
      simp only [Round.waited]
      rcases cut with reached | goesOn
      · omega
      · obtain ⟨statuses, pending⟩ := Option.ne_none_iff_exists'.mp goesOn.undecided
        have := final statuses pending
        have := goesOn.early
        omega
  | dropped late =>
      refine ⟨by simp only; omega, ?_⟩
      simp only [waitHorizon_none_passes, List.filter_filter]
      refine List.filter_congr fun record _ => ?_
      simp only [← Bool.decide_and]
      exact decide_eq_decide.mpr (by omega)
  | overflowed passes overflows =>
      refine ⟨?_, rfl⟩
      simp only [Round.waited]
      rcases cut with reached | goesOn
      · omega
      · have := goesOn.timed
        have := overflows.untimed
        omega
  | asleep passes pending goesOn late =>
      rw [waitHorizon_none_passes, decide_eq_false_iff_not] at late
      exact absurd (Nat.min_le_right _ _) late
  | @again statuses passes pending goesOn awake =>
      have wake_eq
          : (gate.nextRound correlation tokens deadline round).start
            = min (round.finish + gate.pollInterval) deadline :=
        rfl
      have early := goesOn.early
      generalize (gate.nextRound correlation tokens deadline round).start = wake
        at wakes wake_eq ⊢
      have spans := gate.waitFrom_spans clock correlation tokens none deadline (some statuses)
        wake round.ended.state
      generalize gate.waitFrom clock correlation tokens none deadline (some statuses) wake
        round.ended.state = rest at spans ⊢
      have gone : rest.calls.filter (·.time < moment) = [] := by
        refine List.filter_eq_nil_iff.mpr fun record member => ?_
        have := (spans record member).1
        simp only [decide_eq_true_eq]
        omega
      refine ⟨by simp only [Ended.followedBy]; omega, ?_⟩
      simp only [Ended.followedBy, List.filter_append, gone, List.append_nil]

/-- Without a cancellation, a check that decides or reaches the deadline in time ends its wait. -/
theorem Proceeds.eq_of_final
    (proceeds
      : gate.Proceeds clock correlation tokens none deadline last deadline .deadline round wait)
    (inTime : round.finish ≤ deadline)
    (final : ∀ statuses, round.pending? = some statuses → deadline ≤ round.finish)
    : wait = round.waited := by
  have reached (undecided : round.pending? ≠ none) (early : round.finish < deadline) : False := by
    obtain ⟨statuses, pending⟩ := Option.ne_none_iff_exists'.mp undecided
    exact absurd (final statuses pending) (by omega)
  cases proceeds with
  | heard _ _ => rfl
  | dropped late =>
      simp only [waitHorizon_none_passes, decide_eq_false_iff_not] at late
      omega
  | overflowed _ overflows => exact (reached overflows.undecided overflows.early).elim
  | asleep _ _ goesOn _ => exact (reached goesOn.undecided goesOn.early).elim
  | again _ _ goesOn _ => exact (reached goesOn.undecided goesOn.early).elim

/-- Without a cancellation, a check whose interval does not fit into a timer ends its wait by the
panic.
-/
theorem Proceeds.eq_of_overflows
    (proceeds
      : gate.Proceeds clock correlation tokens none deadline last deadline .deadline round wait)
    (overflows : gate.Overflows clock deadline round)
    : wait = { round.waited with outcome := .ok (.ok (.error .timeOverflow)) } := by
  have early := overflows.early
  have untimed := overflows.untimed
  cases proceeds with
  | heard _ final =>
      obtain ⟨statuses, pending⟩ := Option.ne_none_iff_exists'.mp overflows.undecided
      exact absurd (final statuses pending) (by omega)
  | dropped late =>
      simp only [waitHorizon_none_passes, decide_eq_false_iff_not] at late
      omega
  | overflowed _ _ => rfl
  | asleep _ _ goesOn _ => exact absurd goesOn.timed (by omega)
  | again _ _ goesOn _ => exact absurd goesOn.timed (by omega)

/-- Without a cancellation, a check behind which another one follows is followed by it. -/
theorem Proceeds.eq_of_goesOn {statuses}
    (proceeds
      : gate.Proceeds clock correlation tokens none deadline last deadline .deadline round wait)
    (pending : round.pending? = some statuses) (goesOn : gate.GoesOn clock deadline round)
    : wait
      = { round.ended with
          elapsed := (gate.nextRound correlation tokens deadline round).start - round.start
        }.followedBy
          (gate.waitFrom clock correlation tokens none deadline (some statuses)
            (gate.nextRound correlation tokens deadline round).start round.ended.state) := by
  have early := goesOn.early
  cases proceeds with
  | heard _ final => exact absurd (final _ pending) (by omega)
  | dropped late =>
      simp only [waitHorizon_none_passes, decide_eq_false_iff_not] at late
      omega
  | overflowed _ overflows => exact absurd overflows.untimed (Nat.not_lt.mpr goesOn.timed)
  | asleep _ _ _ late =>
      rw [waitHorizon_none_passes, decide_eq_false_iff_not] at late
      exact absurd (Nat.min_le_right _ _) late
  | again _ pending' _ _ =>
      obtain rfl := Option.some.inj (pending.symm.trans pending')
      rfl

end

/-- What a cancellation at `moment` makes of a wait that starts at `now`: nothing changes if
the wait is over before, and else it ends there with the calls made before.
-/
structure CancelledAt (correlation : CorrelationId) (now moment : Nat) (free cut : Waited σ)
    : Prop where
  unaffected : now + free.elapsed < moment → cut = free
  cancelled
    : moment ≤ now + free.elapsed
      → cut.value = .error (cancelled correlation)
        ∧ now + cut.elapsed = moment
        ∧ cut.calls = free.calls.filter (·.time < moment)

/-- What is done before the cancellation stands in front of both waits. -/
theorem CancelledAt.prepend {correlation : CorrelationId} {now wake moment : Nat}
    {first : Ended σ Empty (Except Fault Unit)} {free cut : Waited σ}
    (kept : first.calls.filter (·.time < moment) = first.calls) (slept : now ≤ wake)
    (cancelledAt : CancelledAt correlation wake moment free cut)
    : CancelledAt correlation now moment
        ({ first with elapsed := wake - now }.followedBy free)
        ({ first with elapsed := wake - now }.followedBy cut) := by
  constructor
  · intro past
    simp only [Ended.followedBy] at past
    rw [cancelledAt.unaffected (by omega)]
  · intro reached
    simp only [Ended.followedBy] at reached
    obtain ⟨value, ends, calls⟩ := cancelledAt.cancelled (by omega)
    refine ⟨value, by simp only [Ended.followedBy]; omega, ?_⟩
    simp only [Ended.followedBy, List.filter_append, kept, calls]

/-- A cancelled wait goes along with the one that is not, check by check. Witness: induction on
the time that is left until the deadline; where the two part, the calls that only the other
one makes come behind the cancellation.
-/
theorem waitFrom_cancelledAt (gate : Gate σ) (clock : Clock) (correlation : CorrelationId)
    (tokens : List String) {deadline moment now : Nat} (last : Option (List TokenStatus))
    (state : σ) (within : moment ≤ deadline) (later : now ≤ moment)
    : CancelledAt correlation now moment
        (gate.waitFrom clock correlation tokens none deadline last now state)
        (gate.waitFrom clock correlation tokens (some moment) deadline last now state) := by
  induction left : deadline - now using Nat.strongRecOn generalizing last now state with
  | _ left ih =>
  have ends := waitHorizon_some_ends within
  have passesAt := waitHorizon_some_passes within
  rcases Nat.eq_or_lt_of_le later with rfl | before
  · have cut : (waitHorizon deadline (some now)).passes now = false := by simp [passesAt]
    have spans := gate.waitFrom_spans clock correlation tokens none deadline last now state
    rw [gate.waitFrom_refused clock correlation tokens last state cut]
    refine ⟨fun past => by omega, fun _ => ⟨rfl, rfl, ?_⟩⟩
    simp only [← passesAt]
    exact (spans.filter_cut ends cut).symm
  · let round := gate.roundAt correlation tokens now state
    have spans : round.ended.Spans round.start :=
      (gate.check_curtails (ε := Empty) correlation tokens).spans now state
    have free
        : gate.Proceeds clock correlation tokens none deadline last deadline .deadline round _ :=
      gate.waitFrom_proceeds clock correlation tokens last state (waitHorizon_none_ends deadline)
        (by simp only [waitHorizon_none_passes, decide_eq_true_eq]; omega)
    have cut
        : gate.Proceeds clock correlation tokens (some moment) deadline last moment .cancelled
            round _ :=
      gate.waitFrom_proceeds clock correlation tokens last state ends
        (by simpa [passesAt] using before)
    have finish : round.finish = now + round.ended.elapsed := rfl
    have first : round.start = now := rfl
    have started : round.start ≤ deadline := by omega
    generalize gate.waitFrom clock correlation tokens none deadline last now state = whole
      at free ⊢
    generalize gate.waitFrom clock correlation tokens (some moment) deadline last now state = part
      at cut ⊢
    cases cut with
    | heard passes final =>
        simp only [passesAt, decide_eq_true_eq] at passes
        rw [free.eq_of_final (by omega) final]
        refine ⟨fun _ => rfl, fun past => ?_⟩
        simp only [Round.waited] at past
        omega
    | dropped cut =>
        simp only [passesAt, decide_eq_false_iff_not] at cut
        obtain ⟨reached, calls⟩ := free.filter_calls started within
          (Nat.le_min.mpr ⟨by omega, within⟩) (Or.inl (by omega))
        refine ⟨fun past => by omega, fun _ => ⟨rfl, ?_, ?_⟩⟩
        · exact Nat.add_sub_cancel' later
        · simp only [passesAt]
          exact calls.symm
    | overflowed passes overflows =>
        simp only [passesAt, decide_eq_true_eq] at passes
        rw [free.eq_of_overflows overflows]
        refine ⟨fun _ => rfl, fun past => ?_⟩
        simp only [Round.waited] at past
        omega
    | @asleep statuses passes pending goesOn cut =>
        have kept := spans.filter_passes ends passes
        simp only [passesAt, decide_eq_false_iff_not] at cut kept
        obtain ⟨reached, calls⟩ := free.filter_calls started within (by omega) (Or.inr goesOn)
        refine ⟨fun past => by omega, fun _ => ⟨rfl, ?_, ?_⟩⟩
        · exact Nat.add_sub_cancel' later
        · exact kept.symm.trans calls.symm
    | @again statuses passes pending goesOn awake =>
        have kept := spans.filter_passes ends passes
        simp only [passesAt, decide_eq_true_eq] at awake kept
        have wake_eq
            : (gate.nextRound correlation tokens deadline round).start
              = min (round.finish + gate.pollInterval) deadline :=
          rfl
        have interval := gate.pollInterval_pos
        have early := goesOn.early
        rw [free.eq_of_goesOn pending goesOn]
        exact .prepend kept (by omega)
          (ih _ (by omega) (some statuses) round.ended.state (by omega) rfl)

/-- A wait that is cancelled at a moment and one that is not, from their start on, if a timer can
be set to their deadline.
-/
theorem waitUntilReady_cancelledAt (gate : Gate σ) {clock : Clock} (correlation : CorrelationId)
    (tokens : List String) {timeout : Nat} (timed : timeout ≤ clock.lastTime) (moment : Nat)
    (state : σ)
    : CancelledAt correlation 0 moment
        ((gate.waitUntilReady clock correlation tokens timeout none).start state)
        ((gate.waitUntilReady clock correlation tokens timeout (some moment)).start state) := by
  rw [gate.waitUntilReady_start correlation tokens timed,
    gate.waitUntilReady_start correlation tokens timed]
  rcases Nat.lt_or_ge timeout moment with late | within
  · obtain ⟨count, concludes⟩ :=
      gate.waitFrom_concludes clock correlation tokens none state (Nat.zero_le timeout)
    have past := concludes.elapsed_le
    rw [gate.waitFrom_late clock correlation tokens late]
    exact ⟨fun _ => rfl, fun reached => absurd reached (by omega)⟩
  · exact gate.waitFrom_cancelledAt clock correlation tokens none state within
      (Nat.zero_le moment)

end Gate

-----------------------------------------------------------------------------------------
-- Downloads behind a wait that is cancelled
-----------------------------------------------------------------------------------------

variable {σ : Type}

/-- Downloads behind a wait that fails end as the wait does. -/
theorem Broker.issueDownloadsWithin_failed {broker : Broker σ} {clock : Clock}
    {correlation : CorrelationId} {tokens objects : List String} {timeout : Nat}
    {cancel : Option Nat} {state : σ} {fault : Fault}
    (bound : broker.boundObjects (clock.moment 0) tokens = .ok objects)
    (failed
      : ((broker.gate.waitUntilReady clock correlation objects timeout cancel).start state).value
        = .error fault)
    : (broker.issueDownloadsWithin correlation clock tokens timeout cancel).start state
      = { (broker.gate.waitUntilReady clock correlation objects timeout cancel).start state with
          outcome := .ok (.error fault) } := by
  rw [issueDownloadsWithin, boundObjects_start, bound]
  rw [Operation.start_eq] at failed
  simp only [Operation.start_eq, Operation.runAt_bind, failed]

/-- Downloads behind a wait that panics at once do so too. -/
theorem Broker.issueDownloadsWithin_untimed {broker : Broker σ} {clock : Clock}
    {correlation : CorrelationId} {tokens objects : List String} {timeout : Nat}
    {cancel : Option Nat} {state : σ}
    (bound : broker.boundObjects (clock.moment 0) tokens = .ok objects)
    (untimed : clock.lastTime < timeout)
    : (broker.issueDownloadsWithin correlation clock tokens timeout cancel).start state
      = ⟨.ok (.ok (.error .timeOverflow)), 0, [], state⟩ := by
  have waited := broker.gate.waitUntilReady_untimed correlation objects untimed cancel state
  rw [Operation.start_eq] at waited
  rw [issueDownloadsWithin, boundObjects_start, bound]
  simp only [Operation.start_eq, Operation.runAt_bind, waited]
  rfl

/-- A cancellation cuts a wait cleanly, wherever it falls. A wait that is over before stays what
it is. Any other one ends at that moment with the fault of a cancelled wait and with exactly
the calls made before, and no download is requested behind it. Where no timer can be set to
the deadline, both waits are over at once by the same panic, before a cancellation counts.
-/
theorem cancellation_cuts_waits (clock : Clock) (correlation : CorrelationId)
    (timeout moment : Nat) (state : σ)
    : (∀ (gate : Gate σ) (tokens : List String),
        let free := (gate.waitUntilReady clock correlation tokens timeout none).start state
        let cut :=
          (gate.waitUntilReady clock correlation tokens timeout (some moment)).start state
        (free.elapsed < moment → cut = free)
        ∧ (timeout ≤ clock.lastTime
          → moment ≤ free.elapsed
          → cut.value = .error (.unavailable ⟨.uploadCheck, correlation⟩ .waitCancelled)
            ∧ cut.elapsed = moment
            ∧ cut.calls = free.calls.filter (·.time < moment))
        ∧ (moment = 0 → cut.calls = [])
        ∧ (clock.lastTime < timeout
          → free = ⟨.ok (.ok (.error .timeOverflow)), 0, [], state⟩ ∧ cut = free))
      ∧ ∀ (broker : Broker σ) (tokens objects : List String),
          let free :=
            (broker.gate.waitUntilReady clock correlation objects timeout none).start state
          let downloads :=
            (broker.issueDownloadsWithin correlation clock tokens timeout (some moment)).start
              state
          broker.boundObjects (clock.moment 0) tokens = .ok objects
          → (timeout ≤ clock.lastTime
              → moment ≤ free.elapsed
              → downloads.value
                  = .error (.unavailable ⟨.uploadCheck, correlation⟩ .waitCancelled)
                ∧ downloads.elapsed = moment
                ∧ downloads.calls = free.calls.filter (·.time < moment)
                ∧ ∀ record ∈ downloads.calls, record.call = .uploadCheck objects)
            ∧ (clock.lastTime < timeout
              → downloads = ⟨.ok (.ok (.error .timeOverflow)), 0, [], state⟩) := by
  constructor
  · intro gate tokens free cut
    rcases Nat.lt_or_ge clock.lastTime timeout with untimed | timed
    · have panics := gate.waitUntilReady_untimed correlation tokens untimed
      have same : cut = free := (panics (some moment) state).trans (panics none state).symm
      have silent : cut.calls = [] := by
        simp only [cut, panics (some moment) state]
      exact ⟨fun _ => same, fun timed => absurd timed (Nat.not_le.mpr untimed), fun _ => silent,
        fun _ => ⟨panics none state, same⟩⟩
    · obtain ⟨unaffected, cancelled⟩ :=
        gate.waitUntilReady_cancelledAt correlation tokens timed moment state
      simp only [Nat.zero_add] at unaffected cancelled
      refine ⟨unaffected, fun _ => cancelled, ?_,
        fun untimed => absurd untimed (Nat.not_lt.mpr timed)⟩
      intro atOnce
      obtain ⟨_, _, calls⟩ := cancelled (by omega)
      refine calls.trans (List.filter_eq_nil_iff.mpr fun record _ => ?_)
      simp [atOnce]
  · intro broker tokens objects free downloads bound
    refine ⟨fun timed reached => ?_, Broker.issueDownloadsWithin_untimed bound⟩
    have cancelledAt :=
      broker.gate.waitUntilReady_cancelledAt correlation objects timed moment state
    have cancelled := cancelledAt.cancelled
    simp only [Nat.zero_add] at cancelled
    obtain ⟨value, ends, kept⟩ := cancelled reached
    obtain ⟨history, _, made, opens⟩ :=
      broker.gate.waitUntilReady_opens clock correlation objects timeout (some moment) 0 state
    have same := Broker.issueDownloadsWithin_failed bound value
    simp only [downloads, same]
    refine ⟨rfl, ends, kept, ?_⟩
    intro record member
    rw [Operation.start_eq, ← made] at member
    obtain ⟨exchange, asked, rfl⟩ := List.mem_map.mp member
    exact (opens.asks exchange asked).call

/-- An authority that takes three milliseconds to find the upload `o` pending, every time. -/
def rehearsedScans : Script where
  reports := [{ answer := .ok [⟨"o", .scanningForMalware⟩], delay := 3 }]

/-- A wait for the object `o` is cancelled while its second check is under way. Nothing is asked
afterwards, and there are no downloads; without the cancellation there is a third check.
-/
theorem cancellation_cuts_waits_midway
    : let clock : Clock := .still ⟨0, 0⟩ 100
      let tokens := [Broker.rehearsedGrant.boundToken]
      let check (time : Nat) : CallRecord := ⟨time, .nil, .uploadCheck ["o"]⟩
      let wait (cancel : Option Nat) :=
        (Broker.rehearsed.gate.waitUntilReady clock .nil ["o"] 10 cancel).start rehearsedScans
      let downloads :=
        (Broker.rehearsed.issueDownloadsWithin .nil clock tokens 10 (some 5)).start
          rehearsedScans
      Broker.rehearsed.boundObjects (clock.moment 0) tokens = .ok ["o"]
      ∧ 5 ≤ (wait none).elapsed
      ∧ (wait none).calls = [check 0, check 4, check 8]
      ∧ (wait (some 5)).calls = [check 0, check 4]
      ∧ downloads.value = .error (.unavailable ⟨.uploadCheck, .nil⟩ .waitCancelled)
      ∧ downloads.elapsed = 5
      ∧ downloads.calls = [check 0, check 4] := by
  intro clock tokens check wait downloads
  have bound : Broker.rehearsed.boundObjects (clock.moment 0) tokens = .ok ["o"] := rfl
  have timed : 10 ≤ clock.lastTime := by decide
  have reached : 5 ≤ (wait none).elapsed := by decide +kernel
  have asked : (wait none).calls = [check 0, check 4, check 8] := by decide +kernel
  obtain ⟨waits, issues⟩ := cancellation_cuts_waits clock .nil 10 5 rehearsedScans
  obtain ⟨_, cut, _⟩ := waits Broker.rehearsed.gate ["o"]
  obtain ⟨_, _, waited⟩ := cut timed reached
  obtain ⟨value, elapsed, made, _⟩ := (issues _ _ _ bound).1 timed reached
  refine ⟨bound, reached, asked, waited.trans ?_, value, elapsed, made.trans ?_⟩ <;>
    · rw [asked]
      rfl

end ObjectGrants
