import ObjectGrants.Proofs.Curtailment

/-! Operations that are started later. Calls and pauses do not look at the time unless a horizon
does, so what consists of them is, without a horizon, the same run at any time, with its calls
moved.
-/

namespace ObjectGrants

variable {σ ε α β : Type}

/-- The same call, made later. -/
def CallRecord.postponed (delay : Nat) (record : CallRecord) : CallRecord :=
  { record with time := record.time + delay }

/-- The same run, started later. -/
def Ended.postponed (delay : Nat) (ended : Ended σ ε α) : Ended σ ε α :=
  { ended with calls := ended.calls.map (·.postponed delay) }

/-- An operation does the same whenever it is started. -/
def Timed.Postponable (operation : Timed σ Empty α) : Prop :=
  ∀ now delay state,
    operation .never (now + delay) state = (operation .never now state).postponed delay

namespace Ended

@[simp]
theorem postponed_value (delay : Nat) (ended : Ended σ Empty α)
    : (ended.postponed delay).value = ended.value :=
  rfl

@[simp]
theorem postponed_elapsed (delay : Nat) (ended : Ended σ ε α)
    : (ended.postponed delay).elapsed = ended.elapsed :=
  rfl

@[simp]
theorem postponed_state (delay : Nat) (ended : Ended σ ε α)
    : (ended.postponed delay).state = ended.state :=
  rfl

/-- What is asked does not depend on when it is asked. -/
@[simp]
theorem postponed_asked (delay : Nat) (ended : Ended σ ε α)
    : (ended.postponed delay).calls.map (·.call) = ended.calls.map (·.call) := by
  simp [postponed, CallRecord.postponed, Function.comp_def]

theorem postponed_zero (ended : Ended σ ε α) : ended.postponed 0 = ended := by
  simp [postponed, CallRecord.postponed]

/-- A sequence of runs is postponed as a whole. -/
theorem followedBy_postponed (delay : Nat) (first : Ended σ Empty α) (second : Ended σ ε β)
    : (first.followedBy second).postponed delay
      = (first.postponed delay).followedBy (second.postponed delay) := by
  simp [followedBy, postponed]

end Ended

namespace Timed

theorem postponable_pure (value : α) : (pure value : Timed σ Empty α).Postponable :=
  fun _ _ _ => rfl

theorem postponable_pause (delay : Nat) : (pause delay : Timed σ Empty Unit).Postponable :=
  fun _ _ _ => rfl

theorem postponable_call (authority : Authority σ) (correlation : CorrelationId)
    (asked : Call)
    : (call authority correlation asked : Timed σ Empty _).Postponable :=
  fun _ _ _ => rfl

/-- The second step of a sequence starts later by as much as the first. -/
theorem Postponable.bind {first : Timed σ Empty α} {second : α → Timed σ Empty β}
    (head : first.Postponable) (tail : ∀ value, (second value).Postponable)
    : (first >>= second).Postponable := by
  intro now delay state
  change first.andThen second .never (now + delay) state
    = (first.andThen second .never now state).postponed delay
  rw [andThen_never, andThen_never, Ended.followedBy_postponed, head now delay state]
  rw [Ended.postponed_value, Ended.postponed_elapsed, Ended.postponed_state,
    Nat.add_right_comm, tail]

end Timed

/-- Attempts of an operation that can be started at any time can be, too. -/
theorem RetryPolicy.attempts_postponable (policy : RetryPolicy)
    {operation : Timed σ Empty (Except Fault α)} (postponable : operation.Postponable)
    (retry left : Nat)
    : (policy.attempts operation retry left).Postponable := by
  induction left generalizing retry with
  | zero => exact postponable
  | succ left ih =>
      refine postponable.bind fun answer => ?_
      cases answer with
      | ok value => exact Timed.postponable_pure _
      | error fault =>
          by_cases retryable : fault.isRetryable policy.transientCodes = true
          · simp only [retryable, if_true]
            exact (Timed.postponable_pause _).bind fun _ => ih (retry + 1)
          · simp only [retryable]
            exact Timed.postponable_pure _

/-- A check of the gate is the same whenever it starts. -/
theorem Gate.check_postponable (gate : Gate σ) (correlation : CorrelationId)
    (tokens : List String)
    : (gate.check correlation tokens : Timed σ Empty _).Postponable := by
  unfold Gate.check
  split
  · exact Timed.postponable_pure _
  · refine (gate.policy.attempts_postponable (Timed.postponable_call _ _ _) _ _).bind
      fun answer => ?_
    cases answer with
    | ok reports => exact Timed.postponable_pure _
    | error fault => exact Timed.postponable_pure _

end ObjectGrants
