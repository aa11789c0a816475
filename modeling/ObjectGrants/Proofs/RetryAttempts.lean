import Mathlib.Algebra.BigOperators.Group.Finset.Basic
import Mathlib.Order.Bounds.Basic
import ObjectGrants.Proofs.Curtailment

/-! How often an operation is attempted, and when. The answers decide how many attempts are made,
and the sum of what they take and of the pauses behind them is when each attempt starts. What
is given in the end is the last answer as it was.
-/

namespace ObjectGrants

variable {σ α : Type}

-----------------------------------------------------------------------------------------
-- Faults that may pass
-----------------------------------------------------------------------------------------

/-- A fault that may be gone when the same call is made again: the authority was not reached, an
upload is pending, or the authority refused with a code that is listed, ASCII case aside.
-/
inductive Fault.Transient (codes : List String) : Fault → Prop where
  | unavailable (origin cause) : Transient codes (.unavailable origin cause)
  | notReady (reports) : Transient codes (.notReady reports)
  | rejected {listed code} (origin message httpStatus) (member : listed ∈ codes)
    (same : Text.asciiLower listed = Text.asciiLower code)
    : Transient codes (.rejected origin code message httpStatus)

theorem Fault.transient_rejected_iff {codes : List String} {origin : Origin}
    {code message : String} {httpStatus : Option Nat}
    : (rejected origin code message httpStatus).Transient codes
      ↔ ∃ listed ∈ codes, Text.asciiLower listed = Text.asciiLower code := by
  constructor
  · rintro (_ | _ | ⟨_, _, _, member, same⟩)
    exact ⟨_, member, same⟩
  · rintro ⟨listed, member, same⟩
    exact .rejected origin message httpStatus member same

/-- What is repeated are the faults that may pass, by cases on the kinds of faults. -/
theorem Fault.isRetryable_iff {codes : List String} {fault : Fault}
    : fault.isRetryable codes = true ↔ fault.Transient codes := by
  cases fault with
  | unavailable origin cause => exact iff_of_true rfl (.unavailable origin cause)
  | notReady reports => exact iff_of_true rfl (.notReady reports)
  | rejected origin code message httpStatus =>
      rw [transient_rejected_iff]
      simp [isRetryable, Text.sameLetters]
  | _ => exact iff_of_false Bool.false_ne_true nofun

-----------------------------------------------------------------------------------------
-- Attempts without end
-----------------------------------------------------------------------------------------

/-- One attempt of an operation: when it starts, and how it ends. -/
structure Attempt (σ α : Type) where
  start : Nat
  ended : Ended σ Empty (Except Fault α)

namespace Attempt

/-- The attempt of an operation that starts at a time and in a state. -/
def of (operation : Timed σ Empty (Except Fault α)) (start : Nat) (state : σ)
    : Attempt σ α where
  start := start
  ended := operation .never start state

/-- What an attempt has come to. -/
def answer (attempt : Attempt σ α) : Except Fault α := attempt.ended.value

/-- How long the answer to an attempt takes. -/
def delay (attempt : Attempt σ α) : Nat := attempt.ended.elapsed

/-- The moment at which the answer to an attempt arrives. -/
def finish (attempt : Attempt σ α) : Nat := attempt.start + attempt.delay

end Attempt

namespace RetryPolicy

/-- The attempt behind another one and the pause of a repetition. -/
def nextAttempt (policy : RetryPolicy) (operation : Timed σ Empty (Except Fault α))
    (retry : Nat) (attempt : Attempt σ α)
    : Attempt σ α :=
  .of operation (attempt.finish + policy.backoff retry) attempt.ended.state

/-- Attempt number `k` behind a first one, as if every attempt were followed by another one. The
first repetition has number `retry`.
-/
def attemptsBehind (policy : RetryPolicy) (operation : Timed σ Empty (Except Fault α))
    (retry : Nat) (first : Attempt σ α)
    : (k : Nat) → Attempt σ α
  | 0 => first
  | k + 1 => policy.nextAttempt operation (retry + k)
      (policy.attemptsBehind operation retry first k)

/-- The attempts behind the second one are those behind the first. -/
theorem attemptsBehind_nextAttempt (policy : RetryPolicy)
    (operation : Timed σ Empty (Except Fault α)) (retry : Nat) (first : Attempt σ α) (k : Nat)
    : policy.attemptsBehind operation (retry + 1) (policy.nextAttempt operation retry first) k
      = policy.attemptsBehind operation retry first (k + 1) := by
  induction k with
  | zero => rfl
  | succ k ih =>
      rw [attemptsBehind, ih, attemptsBehind.eq_2 policy operation retry first (k + 1),
        Nat.add_right_comm, Nat.add_assoc]

/-- Each attempt starts when all answers before it have been waited for, and all pauses. -/
theorem attemptsBehind_start (policy : RetryPolicy)
    (operation : Timed σ Empty (Except Fault α)) (retry : Nat) (first : Attempt σ α) (k : Nat)
    : let attempt := policy.attemptsBehind operation retry first
      (attempt k).start
        = first.start
          + ∑ j ∈ Finset.range k, ((attempt j).delay + policy.backoff (retry + j)) := by
  intro attempt
  induction k with
  | zero => rfl
  | succ k ih =>
      rw [Finset.sum_range_succ, ← Nat.add_assoc, ← ih, ← Nat.add_assoc]
      rfl

/-- An attempt is the last one: it succeeds, it fails for good, or as many as `limit` have been
made.
-/
inductive Settles (policy : RetryPolicy) (limit : Nat) (attempt : Nat → Attempt σ α) (k : Nat)
    : Prop where
  | succeeds {value} (given : (attempt k).answer = .ok value)
  | fails {fault} (given : (attempt k).answer = .error fault)
    (lasting : ¬ fault.Transient policy.transientCodes)
  | exhausted (reached : k + 1 = limit)

/-- An attempt settles among those behind the first one if it does among all of them. -/
theorem settles_succ_iff {policy : RetryPolicy} {limit : Nat} {attempt : Nat → Attempt σ α}
    {k : Nat}
    : policy.Settles (limit + 1) attempt (k + 1)
      ↔ policy.Settles limit (fun k => attempt (k + 1)) k := by
  constructor
  · rintro (given | ⟨given, lasting⟩ | reached)
    · exact .succeeds given
    · exact .fails given lasting
    · exact .exhausted (Nat.succ.inj reached)
  · rintro (given | ⟨given, lasting⟩ | reached)
    · exact .succeeds given
    · exact .fails given lasting
    · exact .exhausted (congrArg Nat.succ reached)

/-- A run consists of the attempts up to number `last`, one after the other, and nothing else. -/
structure Consists (attempt : Nat → Attempt σ α) (last now : Nat)
    (whole : Ended σ Empty (Except Fault α))
    : Prop where
  answer : whole.value = (attempt last).answer
  finish : now + whole.elapsed = (attempt last).finish
  calls : whole.calls = (List.range (last + 1)).flatMap fun k => (attempt k).ended.calls
  state : whole.state = (attempt last).ended.state

/-- If the first attempt does not settle, the first that does is the first behind it. -/
theorem isLeast_settles_succ {policy : RetryPolicy} {limit last : Nat}
    {attempt : Nat → Attempt σ α} (unsettled : ¬ policy.Settles (limit + 1) attempt 0)
    (first : IsLeast {k | policy.Settles limit (fun k => attempt (k + 1)) k} last)
    : IsLeast {k | policy.Settles (limit + 1) attempt k} (last + 1) := by
  obtain ⟨settles, least⟩ := first
  refine ⟨settles_succ_iff.mpr settles, fun k settled => ?_⟩
  cases k with
  | zero => exact absurd settled unsettled
  | succ k => exact Nat.succ_le_succ (least (settles_succ_iff.mp settled))

/-- An attempt and a pause stand in front of the attempts that are made from then on. -/
theorem Consists.prepend {attempt : Nat → Attempt σ α} {last pause : Nat}
    {rest : Ended σ Empty (Except Fault α)}
    (consists
      : Consists (fun k => attempt (k + 1)) last ((attempt 0).finish + pause) rest)
    : Consists attempt (last + 1) (attempt 0).start
        ({ (attempt 0).ended with elapsed := (attempt 0).delay + pause }.followedBy rest) := by
  refine ⟨consists.answer, ?_, ?_, consists.state⟩
  · have ends := consists.finish
    simp only [Attempt.finish, Ended.followedBy] at ends ⊢
    omega
  · rw [List.range_succ_eq_map, List.flatMap_cons, List.flatMap_map]
    exact congrArg _ consists.calls

/-- Attempts with some repetitions left are made up to the first that settles, by induction on the
repetitions left.
-/
theorem attempts_consists (policy : RetryPolicy) (operation : Timed σ Empty (Except Fault α))
    (retry left now : Nat) (state : σ)
    : let attempt := policy.attemptsBehind operation retry (.of operation now state)
      ∃ last,
        IsLeast {k | policy.Settles (left + 1) attempt k} last
        ∧ Consists attempt last now
            (policy.attempts operation retry left .never now state) := by
  induction left generalizing retry now state with
  | zero =>
      refine ⟨0, ⟨.exhausted rfl, fun _ _ => Nat.zero_le _⟩, ⟨rfl, rfl, ?_, rfl⟩⟩
      simp [attemptsBehind, attempts, Attempt.of]
  | succ left ih =>
      intro attempt
      let first := operation .never now state
      have alone (settles : policy.Settles (left + 2) attempt 0)
          : ∃ last,
              IsLeast {k | policy.Settles (left + 2) attempt k} last
              ∧ Consists attempt last now first :=
        ⟨0, ⟨settles, fun _ _ => Nat.zero_le _⟩, rfl, rfl, (List.append_nil _).symm, rfl⟩
      rw [attempts_succ_never]
      dsimp only
      cases given : (operation .never now state).value with
      | ok value => exact alone (.succeeds given)
      | error fault =>
          by_cases retryable : fault.isRetryable policy.transientCodes = true
          · simp only [retryable, if_true]
            obtain ⟨last, least, consists⟩ :=
              ih (retry + 1) (now + first.elapsed + policy.backoff retry) first.state
            have shifted
                : policy.attemptsBehind operation (retry + 1)
                    (.of operation (now + first.elapsed + policy.backoff retry) first.state)
                  = fun k => attempt (k + 1) :=
              funext (policy.attemptsBehind_nextAttempt operation retry (attempt 0))
            rw [shifted] at least consists
            refine ⟨last + 1, isLeast_settles_succ ?_ least, consists.prepend⟩
            rintro (succeeded | ⟨failed, lasting⟩ | reached)
            · cases given.symm.trans succeeded
            · obtain rfl := Except.error.inj (given.symm.trans failed)
              exact lasting (Fault.isRetryable_iff.mp retryable)
            · omega
          · simp only [retryable]
            exact alone (.fails given fun passing => retryable (Fault.isRetryable_iff.mpr passing))

-----------------------------------------------------------------------------------------
-- Runs under a policy
-----------------------------------------------------------------------------------------

/-- What a policy is made of. -/
inductive Source where
  | settings (settings : RetrySettings) (transientCodes : List String)
  | configuration (configuration : Configuration)
  | default
  | none

namespace Source

/-- The policy that is made. -/
def policy : Source → RetryPolicy
  | .settings given transientCodes => .ofSettings given transientCodes
  | .configuration given => .ofConfiguration given
  | .default => .default
  | .none => .none

/-- The number of attempts that is asked for, which may be zero. -/
def maxAttempts : Source → Nat
  | .settings given _ => given.maxAttempts.toNat
  | .configuration given => given.retry.maxAttempts.toNat
  | .default => 3
  | .none => 1

/-- There is always a first attempt. -/
theorem retries_succ (source : Source)
    : source.policy.retries + 1 = max 1 source.maxAttempts := by
  have behind (asked : Nat) : asked - 1 + 1 = max 1 asked := by omega
  cases source with
  | settings given => exact behind given.maxAttempts.toNat
  | configuration given => exact behind given.retry.maxAttempts.toNat
  | default => rfl
  | none => rfl

end Source

/-- A run under a policy makes attempts up to the first one that succeeds, fails for good or is the
last one allowed, and gives its answer. Each attempt starts when all answers before it have been
waited for and all pauses, and the run ends when its last answer arrives. If every attempt makes
one call, the calls are made at the starts of the attempts. A refusal with a code that is not
listed is never repeated.
-/
theorem run_attempts (source : Source) (operation : Timed σ Empty (Except Fault α))
    (now : Nat) (state : σ)
    : let policy := source.policy
      let attempt := policy.attemptsBehind operation 0 (.of operation now state)
      let whole := policy.run operation .never now state
      ∃ last,
        IsLeast {k | policy.Settles (max 1 source.maxAttempts) attempt k} last
        ∧ Consists attempt last now whole
        ∧ (∀ k,
            (attempt k).start
              = now + ∑ j ∈ Finset.range k, ((attempt j).delay + policy.backoff j))
        ∧ (∀ record : Nat → CallRecord,
            (∀ now state, (operation .never now state).calls = [record now])
            → whole.calls = (List.range (last + 1)).map fun k => record (attempt k).start)
        ∧ ∀ k ≤ last, ∀ origin code message httpStatus,
            (attempt k).answer = .error (.rejected origin code message httpStatus)
            → (∀ listed ∈ policy.transientCodes,
                Text.asciiLower listed ≠ Text.asciiLower code)
            → k = last := by
  intro policy attempt whole
  obtain ⟨last, least, consists⟩ :=
    policy.attempts_consists operation 0 policy.retries now state
  rw [source.retries_succ] at least
  refine ⟨last, least, consists, fun k => ?_, fun record once => ?_, ?_⟩
  · have start := policy.attemptsBehind_start operation 0 (.of operation now state) k
    simp only [Nat.zero_add] at start
    exact start
  · have each (k : Nat) : (attempt k).ended.calls = [record (attempt k).start] := by
      cases k with
      | zero => exact once now state
      | succ k => exact once _ _
    refine consists.calls.trans ?_
    rw [List.map_eq_flatMap]
    exact List.flatMap_congr fun k _ => each k
  · intro k upTo origin code message httpStatus refused unlisted
    refine Nat.le_antisymm upTo (least.2 (.fails refused ?_))
    rw [Fault.transient_rejected_iff]
    rintro ⟨listed, member, same⟩
    exact unlisted listed member same

-----------------------------------------------------------------------------------------
-- The answer in the end
-----------------------------------------------------------------------------------------

/-- The attempts of an operation, from a time and a state on, come to `answer`: it is the answer to
the first attempt that settles.
-/
def FinalAnswer (policy : RetryPolicy) (operation : Timed σ Empty (Except Fault α)) (now : Nat)
    (state : σ) (answer : Except Fault α)
    : Prop :=
  let attempt := policy.attemptsBehind operation 0 (.of operation now state)
  ∃ last,
    IsLeast {k | policy.Settles (policy.retries + 1) attempt k} last
    ∧ (attempt last).answer = answer

/-- A run gives the final answer and nothing else. -/
theorem finalAnswer_iff {policy : RetryPolicy} {operation : Timed σ Empty (Except Fault α)}
    {now : Nat} {state : σ} {answer : Except Fault α}
    : policy.FinalAnswer operation now state answer
      ↔ (policy.run operation .never now state).value = answer := by
  obtain ⟨last, least, consists⟩ :=
    policy.attempts_consists operation 0 policy.retries now state
  constructor
  · intro holds
    obtain ⟨other, first, given⟩ := holds
    obtain rfl := first.unique least
    exact consists.answer.trans given
  · intro given
    exact ⟨last, least, consists.answer.symm.trans given⟩

end RetryPolicy

end ObjectGrants
