import ObjectGrants.CommandLine.Program
import ObjectGrants.Proofs.CorrelationTravel

/-! Runs of the program as runs of its steps. A step ends with a failure, which ends the run, or
lets the next one go on where it has ended; connecting the service asks for keys only.
-/

namespace ObjectGrants

namespace CommandLine

open Json

variable {σ α β : Type}

-----------------------------------------------------------------------------------------
-- Steps
-----------------------------------------------------------------------------------------

namespace Step

/-- Runs a step at some time. -/
def runAt (step : Step σ α) (now : Nat) (state : σ) : Ended σ Empty (Except Failure α) :=
  ExceptT.run step Horizon.never now state

/-- A known result takes no time and makes no call before what follows it. -/
theorem ofResult_bind (result : Except Failure α) (following : α → Step σ β)
    : (ofResult result >>= following)
      = match result with
        | .ok value => following value
        | .error failure => ofResult (.error failure) := by
  refine (Timed.known_bind result following).trans ?_
  cases result <;> rfl

variable {first : Step σ α} {following : α → Step σ β} {now : Nat} {state : σ}

theorem runAt_bind_of_error {failure : Failure}
    (failed : (first.runAt now state).value = .error failure)
    : (first >>= following).runAt now state
      = { first.runAt now state with outcome := .ok (.error failure) } :=
  Timed.run_bind_of_error failed

theorem runAt_bind_of_ok {value : α}
    (succeeded : (first.runAt now state).value = .ok value)
    : (first >>= following).runAt now state
      = let reached := first.runAt now state
        let rest := (following value).runAt (now + reached.elapsed) reached.state
        { rest with
          elapsed := reached.elapsed + rest.elapsed
          calls := reached.calls ++ rest.calls } :=
  Timed.run_bind_of_ok succeeded

/-- A step that fails and makes no calls before but allowed ones. -/
structure FailsWithin (allowed : CallRecord → Prop) (ended : Ended σ Empty (Except Failure α))
    : Prop where
  failure : ∃ failure, ended.value = .error failure
  calls : ∀ record ∈ ended.calls, allowed record

/-- A sequence fails if its second step does wherever the first one does not. -/
theorem FailsWithin.bind {allowed : CallRecord → Prop}
    (head : ∀ record ∈ (first.runAt now state).calls, allowed record)
    (tail
      : ∀ value,
          (first.runAt now state).value = .ok value
          → FailsWithin allowed
              ((following value).runAt (now + (first.runAt now state).elapsed)
                (first.runAt now state).state))
    : FailsWithin allowed ((first >>= following).runAt now state) := by
  cases reached : (first.runAt now state).value with
  | error failure =>
      rw [runAt_bind_of_error reached]
      exact ⟨⟨failure, rfl⟩, head⟩
  | ok value =>
      obtain ⟨failure, calls⟩ := tail value reached
      rw [runAt_bind_of_ok reached]
      refine ⟨failure, fun record member => ?_⟩
      rcases List.mem_append.mp member with early | late
      · exact head record early
      · exact calls record late

end Step

-----------------------------------------------------------------------------------------
-- The program
-----------------------------------------------------------------------------------------

/-- A run that reports a failure. Nothing goes to its output. -/
structure Outcome.Fails (outcome : Outcome) : Prop where
  failure : ∃ failure, outcome = .failed failure
  silent : outcome.output = ""

theorem Outcome.fails_failed (failure : Failure) : (Outcome.failed failure).Fails :=
  ⟨⟨failure, rfl⟩, rfl⟩

/-- What a run of the program makes of the result of its command. -/
def Outcome.ofResult : Except Failure Value → Outcome
  | .ok value => .report value
  | .error failure => .failed failure

/-- The correlation identifier of a run: the one that is given, or else a made up one. -/
def World.correlation (world : World) (requestId : Option String) : CorrelationId :=
  (requestId.map CorrelationId.ofText).getD world.requestId

end CommandLine

end ObjectGrants
