import ObjectGrants.Configuration
import ObjectGrants.Timed

/-!
Repeating calls that have failed. A failure is worth repeating if the authority was not
reached, if uploads are pending, or if the authority refused with a code that is listed as
transient. The pauses double from one repetition to the next, up to a limit.
-/

namespace ObjectGrants

/-- Whether the same call can succeed when it is repeated. Codes are compared without regard
to the case of ASCII letters. -/
def Fault.isRetryable (transientCodes : List String) : Fault → Bool
  | .unavailable _ _ => true
  | .notReady _ => true
  | .rejected _ code _ _ => transientCodes.any (Text.sameLetters · code)
  | _ => false

namespace Span

/-! Spans of time in milliseconds, with the bounds of the arithmetic on them. -/

/-- The longest span: as many seconds as 64 bits can count, and all but one part of another. -/
def longest : Nat := (UInt64.size - 1) * 1000 + 999

/-- A multiple of a span, at most the longest one. -/
def scale (span factor : Nat) : Nat :=
  min (span * factor) longest

/-- A power of two in 32 bits, the greatest number of 32 bits if it does not fit. -/
def doublings (exponent : Nat) : Nat :=
  min (Nat.pow 2 exponent) (UInt32.size - 1)

end Span

/-- How failed calls are repeated: how many times at most, after which pauses, and for which
codes of the authority. -/
structure RetryPolicy where
  retries : Nat
  baseDelay : Nat
  maxDelay : Nat
  transientCodes : List String
  deriving DecidableEq, Repr

namespace RetryPolicy

/-- The policy of some settings. There is always a first attempt. -/
def ofSettings (settings : RetrySettings) (transientCodes : List String) : RetryPolicy where
  retries := settings.maxAttempts.toNat - 1
  baseDelay := settings.baseDelayMs.toNat
  maxDelay := settings.maxDelayMs.toNat
  transientCodes := transientCodes

/-- The policy of a configuration. -/
def ofConfiguration (configuration : Configuration) : RetryPolicy :=
  ofSettings configuration.retry configuration.transientCodes

/-- Never repeats. -/
def none : RetryPolicy := ⟨0, 0, 0, []⟩

/-- The policy of the default settings, without transient codes. -/
def default : RetryPolicy := ofSettings {} []

/-- The pause before a repetition, where the first repetition has number zero. The doubling
stops after the sixteenth. -/
def backoff (policy : RetryPolicy) (retry : Nat) : Nat :=
  min (Span.scale policy.baseDelay (Span.doublings (min retry 16))) policy.maxDelay

variable {σ ε α : Type}

/-- Attempts an operation, with `retry` repetitions behind and `left` still allowed. -/
def attempts (policy : RetryPolicy) (operation : Timed σ ε (Except Fault α)) (retry : Nat)
    : (left : Nat) → Timed σ ε (Except Fault α)
  | 0 => operation
  | left + 1 => do
      match ← operation with
      | .ok value => pure (.ok value)
      | .error fault =>
          if fault.isRetryable policy.transientCodes then
            Timed.pause (policy.backoff retry)
            policy.attempts operation (retry + 1) left
          else pure (.error fault)

/-- Runs an operation until it succeeds, fails for good, or may not be repeated again. The
last failure is given unchanged. -/
def run (policy : RetryPolicy) (operation : Timed σ ε (Except Fault α))
    : Timed σ ε (Except Fault α) :=
  policy.attempts operation 0 policy.retries

end RetryPolicy

end ObjectGrants
