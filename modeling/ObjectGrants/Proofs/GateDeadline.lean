import Mathlib.Algebra.Order.Floor.Div
import ObjectGrants.Proofs.GateCancellation

/-! Waits at the gate and their deadline. A wait gives the result of the first check that decides
by the deadline, or ends at the deadline with what it knows by then. It makes a bounded number
of checks, and none behind the deadline. A wait that needs a timer for a time that no timer can
be set to panics; which waits do so is part of each statement.
-/

namespace ObjectGrants

namespace Gate

variable {σ : Type}

-----------------------------------------------------------------------------------------
-- The first check that decides
-----------------------------------------------------------------------------------------

section

variable (gate : Gate σ) (clock : Clock) (check : Nat → Round σ) (deadline k : Nat)

/-- A wait makes check `k`: every check before it is followed by another. -/
def Made : Prop :=
  ∀ earlier < k, gate.GoesOn clock deadline (check earlier)

/-- Check `k` is the first that ends by the deadline with anything but a gate that is not ready.
-/
structure FirstDecision : Prop where
  made : gate.Made clock check deadline k
  inTime : (check k).finish ≤ deadline
  decides : (check k).pending? = none

/-- Check `k` is the last that a wait makes: it decides, reaches the deadline or lets the wait
panic.
-/
structure FinalCheck : Prop where
  made : gate.Made clock check deadline k
  ends
    : deadline ≤ (check k).finish
      ∨ (check k).pending? = none
      ∨ gate.Overflows clock deadline (check k)

end

section

variable {gate : Gate σ} {clock : Clock} {correlation : CorrelationId}
  {check : Nat → Round σ} {deadline now count k : Nat} {last : Option (List TokenStatus)}
  {wait : Waited σ}

theorem Concludes.made
    (concludes : gate.Concludes clock correlation check deadline last now count wait)
    (le : k ≤ count)
    : gate.Made clock check deadline k :=
  fun earlier before => concludes.goesOn earlier (Nat.lt_of_lt_of_le before le)

/-- The check that concludes a wait is the final one. -/
theorem Concludes.finalCheck
    (concludes : gate.Concludes clock correlation check deadline last now count wait)
    : gate.FinalCheck clock check deadline count := by
  refine ⟨concludes.made (Nat.le_refl count), ?_⟩
  rcases concludes.closes with ⟨_, final, _⟩ | ⟨overflows, _⟩ | ⟨late, _⟩
  · cases pending : (check count).pending? with
    | none => exact Or.inr (Or.inl rfl)
    | some statuses => exact Or.inl (final (by simp [pending]))
  · exact Or.inr (Or.inr overflows)
  · exact Or.inl (Nat.le_of_lt late)

end

/-- A check makes one call for each attempt at most. -/
theorem check_makesAtMost {ε : Type} (gate : Gate σ) (correlation : CorrelationId)
    (tokens : List String)
    : (gate.check correlation tokens : Timed σ ε _).MakesAtMost (gate.policy.retries + 1) := by
  unfold check
  split
  · exact (Timed.makesAtMost_pure _).mono (Nat.zero_le _)
  · have attempts := gate.policy.attempts_makesAtMost (ε := ε)
      (Timed.makesAtMost_call gate.authority correlation (.uploadCheck tokens)) 0
      gate.policy.retries
    refine (attempts.bind fun answer => ?_).mono (Nat.le_refl (gate.policy.retries + 1 + 0))
    cases answer with
    | ok reports => exact Timed.makesAtMost_pure _
    | error fault => exact Timed.makesAtMost_pure _

theorem rounds_makesAtMost (gate : Gate σ) (correlation : CorrelationId)
    (tokens : List String) (deadline now : Nat) (state : σ) (k : Nat)
    : (gate.rounds correlation tokens deadline (gate.roundAt correlation tokens now state)
        k).ended.calls.length
      ≤ gate.policy.retries + 1 := by
  cases k with
  | zero => exact gate.check_makesAtMost correlation tokens .never now state
  | succ k => exact gate.check_makesAtMost correlation tokens .never _ _

theorem callsOf_length_le {check : Nat → Round σ} {bound : Nat}
    (each : ∀ k, (check k).ended.calls.length ≤ bound) (count : Nat)
    : (callsOf check count).length ≤ bound * count := by
  induction count generalizing check with
  | zero => exact Nat.zero_le _
  | succ count ih =>
      have first := each 0
      have others := ih fun k => each (k + 1)
      rw [callsOf_succ, List.length_append, Nat.mul_succ]
      omega

/-- Between the starts of two checks lies at least the interval of the gate, unless the deadline
is reached.
-/
theorem le_rounds_start (gate : Gate σ) (correlation : CorrelationId) (tokens : List String)
    (deadline : Nat) (state : σ) (k : Nat)
    : min (k * gate.pollInterval) deadline
      ≤ (gate.rounds correlation tokens deadline (gate.roundAt correlation tokens 0 state)
          k).start := by
  induction k with
  | zero => simp
  | succ k ih =>
      let round :=
        gate.rounds correlation tokens deadline (gate.roundAt correlation tokens 0 state) k
      have finish : round.finish = round.start + round.ended.elapsed := rfl
      change _ ≤ min (round.finish + gate.pollInterval) deadline
      change _ ≤ round.start at ih
      rw [Nat.succ_mul]
      omega

/-- As many intervals as there are checks before the final one begin before the deadline. -/
theorem FinalCheck.le_ceilDiv {gate : Gate σ} {clock : Clock} {correlation : CorrelationId}
    {tokens : List String} {deadline k : Nat} {state : σ}
    (final
      : gate.FinalCheck clock
          (gate.rounds correlation tokens deadline (gate.roundAt correlation tokens 0 state))
          deadline k)
    : k ≤ deadline ⌈/⌉ gate.pollInterval := by
  cases k with
  | zero => exact Nat.zero_le _
  | succ k =>
      let round :=
        gate.rounds correlation tokens deadline (gate.roundAt correlation tokens 0 state) k
      have finish : round.finish = round.start + round.ended.elapsed := rfl
      have early : round.finish < deadline := (final.made k (Nat.lt_succ_self k)).early
      have start : min (k * gate.pollInterval) deadline ≤ round.start :=
        gate.le_rounds_start correlation tokens deadline state k
      rw [Nat.succ_le_iff, ← Nat.not_le, ceilDiv_le_iff_le_mul gate.pollInterval_pos,
        Nat.mul_comm]
      omega

/-- A wait, cancelled or not, makes its checks up to the final one, less what they would ask
behind the deadline or from the cancellation on.
-/
theorem waitUntilReady_final (gate : Gate σ) {clock : Clock} (correlation : CorrelationId)
    (tokens : List String) {timeout : Nat} (timed : timeout ≤ clock.lastTime)
    (cancel : Option Nat) (state : σ)
    : let check :=
        gate.rounds correlation tokens timeout (gate.roundAt correlation tokens 0 state)
      let wait := (gate.waitUntilReady clock correlation tokens timeout cancel).start state
      ∃ k,
        gate.FinalCheck clock check timeout k
        ∧ wait.elapsed ≤ timeout
        ∧ wait.calls
          = (callsOf check (k + 1)).filter fun record =>
              record.time ≤ timeout && cancel.all (record.time < ·) := by
  intro check wait
  obtain ⟨k, concludes⟩ := gate.waitUntilReady_concludes correlation tokens timed state
  have past := concludes.elapsed_le
  rw [Nat.zero_add] at past
  refine ⟨k, concludes.finalCheck, ?_⟩
  cases cancel with
  | none => exact ⟨past, by simpa using concludes.calls⟩
  | some moment =>
      have spans := gate.waitFrom_spans clock correlation tokens none timeout none 0 state
      rw [← gate.waitUntilReady_start correlation tokens timed] at spans
      have ⟨unaffected, cancelled⟩ :=
        gate.waitUntilReady_cancelledAt correlation tokens timed moment state
      have split
          : (callsOf check (k + 1)).filter
              (fun record => record.time ≤ timeout && (some moment).all (record.time < ·))
            = ((gate.waitUntilReady clock correlation tokens timeout none).start
                state).calls.filter (·.time < moment) := by
        rw [concludes.calls, List.filter_filter]
        simp only [Option.all_some, Bool.and_comm, check]
      rw [split]
      simp only [Nat.zero_add] at unaffected cancelled spans
      generalize (gate.waitUntilReady clock correlation tokens timeout none).start state = free
        at past spans unaffected cancelled ⊢
      rcases Nat.lt_or_ge free.elapsed moment with before | reached
      · rw [show wait = free from unaffected before]
        refine ⟨past, (List.filter_eq_self.mpr fun record member => ?_).symm⟩
        have := (spans record member).2
        simp only [decide_eq_true_eq]
        omega
      · obtain ⟨_, ends, calls⟩ := cancelled reached
        exact ⟨ends.trans_le (reached.trans past), calls⟩

/-- Checks that lead to a panic do so before the deadline, where the interval behind one of them
ends too late for a timer; by induction on the rounds.
-/
theorem waitFrom_panics (gate : Gate σ) (clock : Clock) (correlation : CorrelationId)
    (tokens : List String) (cancel : Option Nat) (deadline : Nat)
    (last : Option (List TokenStatus)) (now : Nat) (state : σ) {panic : Panic}
    (panics
      : (gate.waitFrom clock correlation tokens cancel deadline last now state).value
        = .ok (.error panic))
    : clock.lastTime < deadline + gate.pollInterval := by
  fun_induction waitFrom gate clock correlation tokens cancel deadline last now state with
  | case1 last now state horizon cut => cases panics
  | case2 last now state horizon within round stop result decided =>
      cases result <;> cases panics
  | case3 last now state horizon within round stop reports pending overdue => cases panics
  | case4 last now state horizon within round stop reports pending early overflow => omega
  | case5 last now state horizon within round stop reports pending early timed wake moment
      reason cut => cases panics
  | case6 last now state horizon within round reports pending early timed wake free rest ih =>
      exact ih panics

/-- A wait that panics needs a timer that cannot be set: the one for its deadline, or one for an
interval that begins before.
-/
theorem waitUntilReady_panics (gate : Gate σ) (clock : Clock) (correlation : CorrelationId)
    (tokens : List String) (timeout : Nat) (cancel : Option Nat) (state : σ) {panic : Panic}
    (panics
      : ((gate.waitUntilReady clock correlation tokens timeout cancel).start state).value
        = .ok (.error panic))
    : clock.lastTime < timeout + gate.pollInterval := by
  rcases Nat.lt_or_ge clock.lastTime timeout with untimed | timed
  · omega
  · rw [gate.waitUntilReady_start correlation tokens timed] at panics
    exact gate.waitFrom_panics clock correlation tokens _ _ _ _ _ panics

/-- A wait ends by its deadline after a bounded number of checks. Every interval until the
deadline has room for one of them, and one more may start at the deadline itself; each makes
one call for each attempt at most, and none is made behind the deadline. It ends in a panic
only where a timer cannot be set, and at once if that is the one for the deadline.
-/
theorem waitUntilReady_bounded (gate : Gate σ) (clock : Clock) (correlation : CorrelationId)
    (tokens : List String) (timeout : Nat) (cancel : Option Nat) (state : σ)
    : let check :=
        gate.rounds correlation tokens timeout (gate.roundAt correlation tokens 0 state)
      let wait := (gate.waitUntilReady clock correlation tokens timeout cancel).start state
      (∃ result, wait.outcome = .ok result)
      ∧ wait.elapsed ≤ timeout
      ∧ (timeout ≤ clock.lastTime
        → ∃ k,
            gate.FinalCheck clock check timeout k
            ∧ k + 1 ≤ timeout ⌈/⌉ gate.pollInterval + 1
            ∧ wait.calls
              = (callsOf check (k + 1)).filter fun record =>
                  record.time ≤ timeout && cancel.all (record.time < ·))
      ∧ wait.calls.length
        ≤ (gate.policy.retries + 1) * (timeout ⌈/⌉ gate.pollInterval + 1)
      ∧ (∀ record ∈ wait.calls, record.call = .uploadCheck tokens ∧ record.time ≤ timeout)
      ∧ (clock.lastTime < timeout → wait = ⟨.ok (.ok (.error .timeOverflow)), 0, [], state⟩)
      ∧ ∀ panic,
          wait.value = .ok (.error panic) → clock.lastTime < timeout + gate.pollInterval := by
  intro check wait
  have panics (panic : Panic) (value : wait.value = .ok (.error panic)) :=
    gate.waitUntilReady_panics clock correlation tokens timeout cancel state value
  rcases Nat.lt_or_ge clock.lastTime timeout with untimed | timed
  · have atOnce : wait = ⟨.ok (.ok (.error .timeOverflow)), 0, [], state⟩ :=
      gate.waitUntilReady_untimed correlation tokens untimed cancel state
    refine ⟨⟨wait.value, wait.outcome_eq⟩, ?_, fun timed => ?_, ?_, ?_, fun _ => atOnce, panics⟩
    · rw [atOnce]
      exact Nat.zero_le timeout
    · exact absurd timed (Nat.not_le.mpr untimed)
    · rw [atOnce]
      exact Nat.zero_le _
    · rw [atOnce]
      exact nofun
  · obtain ⟨k, final, elapsed, calls⟩ :=
      gate.waitUntilReady_final correlation tokens timed cancel state
    have most : k + 1 ≤ timeout ⌈/⌉ gate.pollInterval + 1 := Nat.succ_le_succ final.le_ceilDiv
    refine ⟨⟨wait.value, wait.outcome_eq⟩, elapsed, fun _ => ⟨k, final, most, calls⟩, ?_, ?_,
      fun untimed => absurd untimed (Nat.not_lt.mpr timed), panics⟩
    · have each := gate.rounds_makesAtMost correlation tokens timeout 0 state
      calc wait.calls.length
          ≤ (callsOf check (k + 1)).length := calls ▸ List.length_filter_le _ _
        _ ≤ (gate.policy.retries + 1) * (k + 1) := callsOf_length_le each (k + 1)
        _ ≤ _ := Nat.mul_le_mul_left _ most
    · intro record member
      constructor
      · obtain ⟨history, _, made, opens⟩ :=
          gate.waitUntilReady_opens clock correlation tokens timeout cancel 0 state
        have heard : record ∈ history.map Exchange.record := made ▸ member
        obtain ⟨exchange, asked, rfl⟩ := List.mem_map.mp heard
        exact (opens.asks exchange asked).call
      · rw [calls, List.mem_filter, Bool.and_eq_true, decide_eq_true_eq] at member
        exact member.2.1

/-- An authority that finds the upload pending, every time. -/
def rehearsedPending : Script where
  reports := [{ answer := .ok [⟨"obj-1", .scanningForMalware⟩] }]

/-- An upload that stays pending is asked about three times in two seconds and a half, and a last
time at the deadline.
-/
theorem waitUntilReady_bounded_pending
    : let wait :=
        (rehearsed.waitUntilReady (.still ⟨0, 0⟩ 5000) .nil ["obj-1"] 2500 none).start
          rehearsedPending
      wait.elapsed ≤ 2500
      ∧ wait.calls.length ≤ 4
      ∧ wait.calls.map (·.time) = [0, 1000, 2000, 2500]
      ∧ ∀ panic, wait.value ≠ .ok (.error panic) := by
  intro wait
  obtain ⟨_, elapsed, _, most, _, _, panics⟩ :=
    waitUntilReady_bounded rehearsed (.still ⟨0, 0⟩ 5000) .nil ["obj-1"] 2500 none
      rehearsedPending
  have intervals : 2500 ⌈/⌉ rehearsed.pollInterval = 3 := by
    rw [Nat.ceilDiv_eq_add_pred_div]
    rfl
  rw [intervals] at most
  have times : wait.calls.map (·.time) = [0, 1000, 2000, 2500] := by decide +kernel
  refine ⟨elapsed, most, times, fun panic value => ?_⟩
  exact absurd (panics panic value) (by decide)

end Gate

end ObjectGrants
