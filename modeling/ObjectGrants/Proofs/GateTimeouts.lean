import ObjectGrants.Proofs.GateDeadline
import ObjectGrants.Proofs.Postponement

/-! Waits at the gate that differ in their timeout. The deadline decides when a check starts,
and never what it hears: a longer wait makes the checks of a shorter one, of which the last may
start later. So a decision that the shorter wait comes to is that of the longer one.
-/

namespace ObjectGrants

namespace Gate

variable {σ : Type}

-----------------------------------------------------------------------------------------
-- Checks under two deadlines
-----------------------------------------------------------------------------------------

/-- `later` is the check `round`, started at the same time or later. -/
structure Round.Postponed (round later : Round σ) : Prop where
  start : round.start ≤ later.start
  ended : later.ended = round.ended.postponed (later.start - round.start)

namespace Round.Postponed

variable {round later : Round σ}

theorem result (postponed : round.Postponed later) : later.result = round.result := by
  rw [Round.result, postponed.ended, Ended.postponed_value, Round.result]

theorem pending? (postponed : round.Postponed later) : later.pending? = round.pending? := by
  rw [Round.pending?, postponed.result, Round.pending?]

theorem asked (postponed : round.Postponed later)
    : later.ended.calls.map (·.call) = round.ended.calls.map (·.call) := by
  rw [postponed.ended, Ended.postponed_asked]

theorem state (postponed : round.Postponed later) : later.ended.state = round.ended.state := by
  rw [postponed.ended, Ended.postponed_state]

theorem elapsed (postponed : round.Postponed later)
    : later.ended.elapsed = round.ended.elapsed := by
  rw [postponed.ended, Ended.postponed_elapsed]

/-- A check that is not started later at all is the same check. -/
theorem eq_of_start (postponed : round.Postponed later) (same : later.start = round.start)
    : later = round := by
  obtain ⟨start, ended⟩ := round
  obtain ⟨start', ended'⟩ := later
  obtain rfl : start' = start := same
  have kept := postponed.ended
  rw [Nat.sub_self, Ended.postponed_zero] at kept
  exact congrArg (Round.mk start') kept

end Round.Postponed

theorem roundAt_postponed (gate : Gate σ) (correlation : CorrelationId) (tokens : List String)
    {start later : Nat} (le : start ≤ later) (state : σ)
    : (gate.roundAt correlation tokens start state).Postponed
        (gate.roundAt correlation tokens later state) := by
  refine ⟨le, ?_⟩
  have moved := gate.check_postponable correlation tokens start (later - start) state
  rwa [Nat.add_sub_cancel' le] at moved

/-- Behind one check, a later deadline can only postpone the next. -/
theorem nextRound_postponed (gate : Gate σ) (correlation : CorrelationId)
    (tokens : List String) {deadline later : Nat} (le : deadline ≤ later) (round : Round σ)
    : (gate.nextRound correlation tokens deadline round).Postponed
        (gate.nextRound correlation tokens later round) :=
  gate.roundAt_postponed correlation tokens (by omega) round.ended.state

/-- A check that starts before the deadline does not start then because of it, so it is the same
check under a later one.
-/
theorem nextRound_eq_of_early (gate : Gate σ) (correlation : CorrelationId)
    (tokens : List String) {deadline later : Nat} (le : deadline ≤ later) (round : Round σ)
    (early : (gate.nextRound correlation tokens deadline round).start < deadline)
    : gate.nextRound correlation tokens later round
      = gate.nextRound correlation tokens deadline round := by
  refine (gate.nextRound_postponed correlation tokens le round).eq_of_start ?_
  change min (round.finish + gate.pollInterval) deadline < deadline at early
  change min (round.finish + gate.pollInterval) later
    = min (round.finish + gate.pollInterval) deadline
  omega

/-- Checks that end before the deadline are the same under a later one, by induction on their
number.
-/
theorem rounds_eq_of_early (gate : Gate σ) (correlation : CorrelationId)
    (tokens : List String) {deadline later : Nat} (le : deadline ≤ later) (first : Round σ)
    {k : Nat}
    (early : ∀ j ≤ k, (gate.rounds correlation tokens deadline first j).finish < deadline)
    : gate.rounds correlation tokens later first k
      = gate.rounds correlation tokens deadline first k := by
  induction k with
  | zero => rfl
  | succ k ih =>
      have same := ih fun j before => early j (Nat.le_succ_of_le before)
      rw [rounds, rounds, same]
      refine gate.nextRound_eq_of_early correlation tokens le _ ?_
      exact Nat.lt_of_le_of_lt (Nat.le_add_right _ _) (early (k + 1) (Nat.le_refl _))

/-- Of the checks that a wait makes, only the last can start later under a later deadline. -/
theorem rounds_postponed (gate : Gate σ) {clock : Clock} (correlation : CorrelationId)
    (tokens : List String) {deadline later : Nat} (le : deadline ≤ later) (first : Round σ)
    {k : Nat} (made : gate.Made clock (gate.rounds correlation tokens deadline first) deadline k)
    : (gate.rounds correlation tokens deadline first k).Postponed
        (gate.rounds correlation tokens later first k) := by
  cases k with
  | zero => exact ⟨Nat.le_refl _, by simp [rounds, Ended.postponed_zero]⟩
  | succ k =>
      have same := gate.rounds_eq_of_early correlation tokens le first
        fun j before => (made j (Nat.lt_succ_of_le before)).early
      rw [rounds, rounds, same]
      exact gate.nextRound_postponed correlation tokens le _

theorem rounds_start_le (gate : Gate σ) (correlation : CorrelationId)
    (tokens : List String) {deadline : Nat} {first : Round σ} (start : first.start ≤ deadline)
    (k : Nat)
    : (gate.rounds correlation tokens deadline first k).start ≤ deadline := by
  cases k with
  | zero => exact start
  | succ k => exact Nat.min_le_right _ _

/-- A check that is followed by another one is so under a later deadline. -/
theorem GoesOn.later {gate : Gate σ} {clock : Clock} {deadline later : Nat} {round : Round σ}
    (le : deadline ≤ later) (goesOn : gate.GoesOn clock deadline round)
    : gate.GoesOn clock later round :=
  ⟨goesOn.undecided, Nat.lt_of_lt_of_le goesOn.early le, goesOn.timed⟩

/-- The first check that decides by a deadline is the first that decides by a later one. It may
start later only if it took no time at the deadline, and then it is still in time.
-/
theorem FirstDecision.later {gate : Gate σ} {clock : Clock} {correlation : CorrelationId}
    {tokens : List String} {deadline later k : Nat} {first : Round σ} (le : deadline ≤ later)
    (start : first.start ≤ deadline)
    (decision
      : gate.FirstDecision clock (gate.rounds correlation tokens deadline first) deadline k)
    : gate.FirstDecision clock (gate.rounds correlation tokens later first) later k := by
  have postponed := gate.rounds_postponed correlation tokens le first decision.made
  have same : ∀ j < k,
      gate.rounds correlation tokens later first j
        = gate.rounds correlation tokens deadline first j := by
    intro j before
    refine gate.rounds_eq_of_early correlation tokens le first fun i upTo => ?_
    exact (decision.made i (Nat.lt_of_le_of_lt upTo before)).early
  refine ⟨?_, ?_, postponed.pending?.trans decision.decides⟩
  · intro j before
    rw [same j before]
    exact (decision.made j before).later le
  · have bound := gate.rounds_start_le correlation tokens (Nat.le_trans start le) k
    have inTime := decision.inTime
    have elapsed := postponed.elapsed
    simp only [Round.finish] at inTime ⊢
    by_cases moved
        : (gate.rounds correlation tokens later first k).start
          = (gate.rounds correlation tokens deadline first k).start
    · rw [moved, elapsed]
      exact Nat.le_trans inTime le
    · -- A check is moved only from the deadline itself, where it has no time left to take.
      have clipped : deadline ≤ (gate.rounds correlation tokens deadline first k).start := by
        cases k with
        | zero => exact absurd rfl moved
        | succ k =>
            rw [← Nat.not_lt]
            intro early
            rw [rounds, rounds, same k (Nat.lt_succ_self k)] at moved
            exact moved
              (congrArg Round.start
                (gate.nextRound_eq_of_early correlation tokens le _ early))
      omega

-----------------------------------------------------------------------------------------
-- Waits under two deadlines
-----------------------------------------------------------------------------------------

section

variable {gate : Gate σ} {clock : Clock} {correlation : CorrelationId} {tokens : List String}
  {timeout : Nat} {state : σ}

end

end Gate

end ObjectGrants
