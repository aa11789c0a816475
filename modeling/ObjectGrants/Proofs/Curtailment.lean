import ObjectGrants.Gate
import ObjectGrants.Proofs.Timed

/-! Operations under a horizon. Whatever a horizon cuts off has done up to then what it does
without one: its calls are those made by the moment of the cut, and it ends at that moment.
-/

namespace ObjectGrants

-----------------------------------------------------------------------------------------
-- Horizons with one moment
-----------------------------------------------------------------------------------------

/-- Whether an operation may go on at a time. -/
def Horizon.passes {ε : Type} (horizon : Horizon ε) (time : Nat) : Bool :=
  (horizon.cut? time).isNone

/-- A horizon that cuts off at one moment and for one reason whatever it does not let pass.
The moment itself may pass or not.
-/
structure Horizon.Ends {ε : Type} (horizon : Horizon ε) (moment : Nat) (reason : ε)
    : Prop where
  before : ∀ time, horizon.passes time = true → time ≤ moment
  behind : ∀ time, horizon.passes time = false → moment ≤ time
  cuts
    : ∀ time, horizon.passes time = false → horizon.cut? time = some (moment, reason)

theorem Horizon.cut?_of_passes {ε : Type} {horizon : Horizon ε} {time : Nat}
    (passes : horizon.passes time = true)
    : horizon.cut? time = none :=
  Option.isNone_iff_eq_none.mp passes

/-- What passes at one time has passed at every earlier time, as all that is cut lies at the
moment or behind it.
-/
theorem Horizon.Ends.passes_earlier {ε : Type} {horizon : Horizon ε} {moment : Nat}
    {reason : ε} (ends : horizon.Ends moment reason) {earlier later : Nat}
    (passes : horizon.passes later = true) (le : earlier ≤ later)
    : horizon.passes earlier = true := by
  rw [← Bool.not_eq_false]
  intro cut
  have bounded := ends.before later passes
  have reached := ends.behind earlier cut
  have same : earlier = later := by omega
  subst same
  rw [passes] at cut
  exact Bool.noConfusion cut

-----------------------------------------------------------------------------------------
-- Runs that are cut off
-----------------------------------------------------------------------------------------

variable {σ ε α β : Type}

/-- All calls are made between the start of a run and its end. -/
def Ended.Spans (now : Nat) (ended : Ended σ ε α) : Prop :=
  ∀ record ∈ ended.calls, now ≤ record.time ∧ record.time ≤ now + ended.elapsed

/-- A run that goes on with another one where it has ended. -/
def Ended.followedBy (first : Ended σ Empty α) (second : Ended σ ε β) : Ended σ ε β :=
  { second with
    elapsed := first.elapsed + second.elapsed
    calls := first.calls ++ second.calls }

/-- What a horizon that ends at `moment` leaves of a run: all of it, if its end passes, and else
the calls that pass, with `moment` as the end.
-/
def Ended.LeftOf (horizon : Horizon ε) (moment : Nat) (reason : ε) (now : Nat)
    (whole : Ended σ Empty α) (part : Ended σ ε α)
    : Prop :=
  (horizon.passes (now + whole.elapsed) = true
    ∧ part = { whole with outcome := .ok whole.value })
  ∨ (horizon.passes (now + whole.elapsed) = false
    ∧ ∃ final,
        part
          = ⟨.error reason, moment - now, whole.calls.filter (horizon.passes ·.time), final⟩)

/-- `bounded` does under any horizon what `free` does without one, until it is cut off. -/
structure Timed.Curtails (free : Timed σ Empty α) (bounded : Timed σ ε α) : Prop where
  spans : ∀ now state, (free .never now state).Spans now
  left
    : ∀ {horizon : Horizon ε} {moment : Nat} {reason : ε} {now : Nat} (state : σ),
        horizon.Ends moment reason
        → horizon.passes now = true
        → Ended.LeftOf horizon moment reason now (free .never now state)
            (bounded horizon now state)

namespace Ended

/-- A run that nothing cuts off is known by its value and what it leaves. -/
theorem with_value (ended : Ended σ Empty α)
    : { ended with outcome := .ok ended.value } = ended := by
  rw [← ended.outcome_eq]

theorem Spans.followedBy {now : Nat} {first : Ended σ Empty α} {second : Ended σ ε β}
    (spans : first.Spans now) (later : second.Spans (now + first.elapsed))
    : (first.followedBy second).Spans now := by
  intro record member
  simp only [Ended.followedBy] at member ⊢
  rcases List.mem_append.mp member with early | late
  · have := spans record early
    omega
  · have := later record late
    omega

/-- Calls that pass are all left. -/
theorem Spans.filter_passes {horizon : Horizon ε} {moment now : Nat} {reason : ε}
    {whole : Ended σ Empty α} (spans : whole.Spans now) (ends : horizon.Ends moment reason)
    (passes : horizon.passes (now + whole.elapsed) = true)
    : whole.calls.filter (horizon.passes ·.time) = whole.calls :=
  List.filter_eq_self.mpr fun record member =>
    ends.passes_earlier passes (spans record member).2

/-- Of calls that begin where nothing passes any more, none are left. -/
theorem Spans.filter_cut {horizon : Horizon ε} {moment now : Nat} {reason : ε}
    {whole : Ended σ Empty α} (spans : whole.Spans now) (ends : horizon.Ends moment reason)
    (cut : horizon.passes now = false)
    : whole.calls.filter (horizon.passes ·.time) = [] := by
  refine List.filter_eq_nil_iff.mpr fun record member passes => ?_
  rw [ends.passes_earlier passes (spans record member).1] at cut
  exact Bool.noConfusion cut

end Ended

namespace Timed

theorem curtails_pure (value : α)
    : Curtails (pure value : Timed σ Empty α) (pure value : Timed σ ε α) where
  spans := nofun
  left _ _ passes := Or.inl ⟨passes, rfl⟩

theorem curtails_pause (delay : Nat)
    : Curtails (pause delay : Timed σ Empty Unit) (pause delay : Timed σ ε Unit) where
  spans := nofun
  left {horizon} _ _ now state ends _ := by
    cases passes : horizon.passes (now + delay) with
    | true =>
        refine Or.inl ⟨passes, ?_⟩
        simp only [pause, Horizon.cut?_of_passes passes]
        rfl
    | false =>
        refine Or.inr ⟨passes, state, ?_⟩
        simp only [pause, ends.cuts _ passes]
        rfl

theorem curtails_call (authority : Authority σ) (correlation : CorrelationId) (asked : Call)
    : Curtails (call authority correlation asked : Timed σ Empty _)
        (call authority correlation asked : Timed σ ε _) where
  spans now state := by
    intro record member
    obtain rfl := List.mem_singleton.mp member
    exact ⟨Nat.le_refl now, Nat.le_add_right now _⟩
  left {horizon} _ _ now state ends start := by
    let pending := authority.accept correlation asked state
    cases passes : horizon.passes (now + pending.delay) with
    | true =>
        refine Or.inl ⟨passes, ?_⟩
        simp only [call, pending, Horizon.cut?_of_passes passes]
        rfl
    | false =>
        refine Or.inr ⟨passes, pending.state, ?_⟩
        simp only [call, pending, ends.cuts _ passes]
        simp [Horizon.never, start]

/-- Without a horizon the second step of a sequence always follows the first. -/
theorem andThen_never (first : Timed σ Empty α) (second : α → Timed σ Empty β) (now : Nat)
    (state : σ)
    : first.andThen second .never now state
      = (first .never now state).followedBy
          (second (first .never now state).value .never
            (now + (first .never now state).elapsed) (first .never now state).state) := by
  simp only [andThen]
  rw [Ended.outcome_eq (first .never now state)]
  rfl

/-- What is cut off in a sequence is cut off in one of its steps. The calls of the first step
all pass if its end does, and those of the second are gone if its start is.
-/
theorem Curtails.bind {first : Timed σ Empty α} {first' : Timed σ ε α}
    {second : α → Timed σ Empty β} {second' : α → Timed σ ε β} (head : Curtails first first')
    (tail : ∀ value, Curtails (second value) (second' value))
    : Curtails (first >>= second) (first' >>= second') where
  spans now state := by
    change (first.andThen second .never now state).Spans now
    rw [andThen_never]
    exact (head.spans now state).followedBy ((tail _).spans _ _)
  left {horizon} moment reason now state ends start := by
    change Ended.LeftOf horizon moment reason now (first.andThen second .never now state)
      (first'.andThen second' horizon now state)
    have spans := head.spans now state
    rw [andThen_never]
    rcases head.left state ends start with ⟨passes, part⟩ | ⟨cut, final, part⟩
    · have left := (tail (first .never now state).value).left
        (first .never now state).state ends passes
      simp only [andThen, part]
      rcases left with ⟨passes', rest⟩ | ⟨cut, final, rest⟩
      · exact Or.inl ⟨by simpa only [Ended.followedBy, ← Nat.add_assoc] using passes',
          by rw [rest]; rfl⟩
      · refine Or.inr ⟨by simpa only [Ended.followedBy, ← Nat.add_assoc] using cut, final, ?_⟩
        have reached := ends.before _ passes
        rw [rest, Ended.followedBy, List.filter_append, spans.filter_passes ends passes]
        simp only [Ended.mk.injEq, and_true, true_and]
        omega
    · have later := (tail (first .never now state).value).spans
        (now + (first .never now state).elapsed) (first .never now state).state
      refine Or.inr ⟨?_, final, ?_⟩
      · rw [← Bool.not_eq_true]
        intro passes
        rw [ends.passes_earlier passes (by simp only [Ended.followedBy]; omega)] at cut
        exact Bool.noConfusion cut
      · simp only [andThen, part, Ended.followedBy, List.filter_append,
          later.filter_cut ends cut, List.append_nil]

end Timed

-----------------------------------------------------------------------------------------
-- Repeated calls and checks
-----------------------------------------------------------------------------------------

/-- Without a horizon an attempt is the last one, or the others follow after a pause. -/
theorem RetryPolicy.attempts_succ_never (policy : RetryPolicy)
    (operation : Timed σ Empty (Except Fault α)) (retry left now : Nat) (state : σ)
    : policy.attempts operation retry (left + 1) .never now state
      = let first := operation .never now state
        match first.value with
        | .ok _ => first
        | .error fault =>
            if fault.isRetryable policy.transientCodes then
              { first with elapsed := first.elapsed + policy.backoff retry }.followedBy
                (policy.attempts operation (retry + 1) left .never
                  (now + first.elapsed + policy.backoff retry) first.state)
            else first := by
  rw [RetryPolicy.attempts]
  change Timed.andThen _ _ _ _ _ = _
  rw [Timed.andThen_never]
  generalize operation .never now state = first
  have whole := first.with_value
  have alone (result : Except Fault α) (same : first.value = result)
      : first.followedBy (Timed.done result .never (now + first.elapsed) first.state)
        = first := by
    subst same
    simpa only [Ended.followedBy, Timed.done, Nat.add_zero, List.append_nil] using whole
  dsimp only
  cases value : first.value with
  | ok grants => exact alone _ value
  | error fault =>
      by_cases retryable : fault.isRetryable policy.transientCodes = true
      · simp only [retryable, if_true]
        change first.followedBy (Timed.andThen _ _ _ _ _) = _
        rw [Timed.andThen_never]
        simp only [Timed.pause, Horizon.never, Ended.followedBy, Nat.add_assoc, List.nil_append]
      · simp only [retryable]
        exact alone _ value

/-- Attempts of an operation are cut off where one of them or the pause behind it is. -/
theorem RetryPolicy.attempts_curtails (policy : RetryPolicy)
    {free : Timed σ Empty (Except Fault α)} {bounded : Timed σ ε (Except Fault α)}
    (curtails : free.Curtails bounded) (retry left : Nat)
    : (policy.attempts free retry left).Curtails (policy.attempts bounded retry left) := by
  induction left generalizing retry with
  | zero => exact curtails
  | succ left ih =>
      refine curtails.bind fun answer => ?_
      cases answer with
      | ok value => exact Timed.curtails_pure _
      | error fault =>
          by_cases retryable : fault.isRetryable policy.transientCodes = true
          · simp only [retryable, if_true]
            exact (Timed.curtails_pause _).bind fun _ => ih (retry + 1)
          · simp only [retryable]
            exact Timed.curtails_pure _

/-- A check of the gate under a horizon is what the horizon leaves of it. -/
theorem Gate.check_curtails (gate : Gate σ) (correlation : CorrelationId)
    (tokens : List String)
    : (gate.check correlation tokens : Timed σ Empty _).Curtails
        (gate.check correlation tokens : Timed σ ε _) := by
  unfold Gate.check
  split
  · exact Timed.curtails_pure _
  · refine (gate.policy.attempts_curtails (Timed.curtails_call _ _ _) _ _).bind
      fun answer => ?_
    cases answer with
    | ok reports => exact Timed.curtails_pure _
    | error fault => exact Timed.curtails_pure _

end ObjectGrants
