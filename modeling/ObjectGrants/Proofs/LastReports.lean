import ObjectGrants.Proofs.GateDecision
import ObjectGrants.Proofs.RetryAttempts
import ObjectGrants.Proofs.Traversal

/-! What a gate that is asked once gives by the reports it hears. The last report about each token
decides, and the faults carry these reports as they are. Reports about other tokens decide
nothing, and the order of the reports decides only where a token is reported twice.
-/

namespace ObjectGrants.Gate

open Traversal (Gathers gathers_filterMap)

variable {tokens : List String} {reports others : List TokenStatus}

-----------------------------------------------------------------------------------------
-- The result by the last reports
-----------------------------------------------------------------------------------------

/-- The last report about some token says that its upload has failed for good. -/
def SomeDenied (tokens : List String) (reports : List TokenStatus) : Prop :=
  ∃ token ∈ tokens, ∃ report, LastReport reports token report ∧ report.status.isDenied = true

/-- Some token is not reported at all, or the last report about it is no success. -/
def SomeUnfinished (tokens : List String) (reports : List TokenStatus) : Prop :=
  ∃ token ∈ tokens,
    (∀ report ∈ reports, report.token ≠ token)
    ∨ ∃ report, LastReport reports token report ∧ report.status ≠ .succeeded

/-- The result that the last reports about some tokens call for: a denial outweighs everything
else, and what is unfinished outweighs success. A fault carries the last reports, in the order of
the tokens.
-/
structure ByLastReports (tokens : List String) (reports : List TokenStatus)
    (result : Except Fault Unit)
    : Prop where
  denied
    : SomeDenied tokens reports
      → ∃ last, Gathers (LastReport reports) tokens last ∧ result = .error (.denied last)
  notReady
    : ¬ SomeDenied tokens reports
      → SomeUnfinished tokens reports
      → ∃ last, Gathers (LastReport reports) tokens last ∧ result = .error (.notReady last)
  opened
    : ¬ SomeDenied tokens reports → ¬ SomeUnfinished tokens reports → result = .ok ()

/-- Some token is denied exactly if one stands as a failure. -/
theorem someDenied_iff
    : SomeDenied tokens reports ↔ ∃ token ∈ tokens, 2 ≤ standing reports token := by
  refine exists_congr fun token => and_congr_right fun _ => ?_
  simp only [← lastReport?_eq_some_iff, standing]
  cases lastReport? reports token with
  | none => simp
  | some report => simp [Status.isDenied_iff_gravity]

/-- Some token is unfinished exactly if one does not stand as a success. -/
theorem someUnfinished_iff
    : SomeUnfinished tokens reports ↔ ∃ token ∈ tokens, standing reports token ≠ 0 := by
  refine exists_congr fun token => and_congr_right fun _ => ?_
  simp only [← lastReport?_eq_some_iff, ← lastReport?_eq_none_iff, standing]
  cases lastReport? reports token with
  | none => simp
  | some report => simp [Status.gravity_eq_zero_iff]

/-- The decision is the one that the last reports call for. Witness: it is that of the gravest
standing.
-/
theorem judge_byLastReports (tokens : List String) (reports : List TokenStatus)
    : ByLastReports tokens reports (judge tokens reports) := by
  have gathers
      : Gathers (LastReport reports) tokens (tokens.filterMap (lastReport? reports)) :=
    gathers_filterMap lastReport?_eq_some_iff tokens
  rw [judge_eq]
  constructor
  · intro denied
    exact ⟨_, gathers, if_pos (someDenied_iff.mp denied)⟩
  · intro mild unfinished
    refine ⟨_, gathers, ?_⟩
    exact (if_neg (mt someDenied_iff.mpr mild)).trans (if_pos (someUnfinished_iff.mp unfinished))
  · intro mild finished
    exact (if_neg (mt someDenied_iff.mpr mild)).trans
      (if_neg (mt someUnfinished_iff.mpr finished))

-----------------------------------------------------------------------------------------
-- Reports that decide nothing
-----------------------------------------------------------------------------------------

/-- The decision is made by the last reports alone. -/
theorem judge_congr
    (same : ∀ token ∈ tokens, lastReport? reports token = lastReport? others token)
    : judge tokens reports = judge tokens others := by
  have gathered
      : tokens.filterMap (lastReport? reports) = tokens.filterMap (lastReport? others) :=
    List.filterMap_congr same
  have standings (bound : Nat → Prop)
      : (∃ token ∈ tokens, bound (standing reports token))
        ↔ ∃ token ∈ tokens, bound (standing others token) := by
    refine exists_congr fun token => and_congr_right fun member => ?_
    rw [standing, standing, same token member]
  simp only [judge_eq, gathered, standings (2 ≤ ·), standings (· ≠ 0)]

/-- Reports that tell the same about the tokens lead to the same decision. -/
theorem judge_of_tellsSame (tells : TellsSame TokenStatus.token tokens reports others)
    : judge tokens reports = judge tokens others :=
  judge_congr fun _ member => tells.find?_reverse_eq member

-----------------------------------------------------------------------------------------
-- The gate asked once
-----------------------------------------------------------------------------------------

variable {σ : Type}

/-- A gate that is asked about some tokens comes to hear `answer`, from a time and a state on. -/
structure Hears (gate : Gate σ) (correlation : CorrelationId) (tokens : List String)
    (now : Nat) (state : σ) (answer : Except Fault (List TokenStatus))
    : Prop where
  nonempty : tokens ≠ []
  heard
    : gate.policy.FinalAnswer (Timed.call gate.authority correlation (.uploadCheck tokens)) now
        state answer

/-- What a gate gives is made of the answer it comes to hear. -/
theorem Hears.value {gate : Gate σ} {correlation : CorrelationId} {now : Nat} {state : σ}
    {answer : Except Fault (List TokenStatus)}
    (hears : gate.Hears correlation tokens now state answer)
    : ((gate.ensureReady correlation tokens).runAt now state).value
      = answer.bind (judge tokens) := by
  rw [gate.ensureReady_eq correlation hears.nonempty]
  refine (congrArg Ended.value (Operation.runAt_bind_ofResult _ _ now state)).trans ?_
  exact congrArg (Except.bind · (judge tokens)) (RetryPolicy.finalAnswer_iff.mp hears.heard)

/-- Without tokens a gate refuses and asks nothing. Otherwise a fault in place of reports is what
it gives, and reports decide by the last one about each token: a denial denies, else anything
but success is not ready, and what is carried are the last reports. Any gate that hears reports
which tell the same about the tokens gives the same.
-/
theorem ensureReady_byLastReports (gate : Gate σ) (correlation : CorrelationId)
    (tokens : List String) (now : Nat) (state : σ)
    : let run := (gate.ensureReady correlation tokens).runAt now state
      (tokens = [] → run.value = .error (.invalidRequest .noTokens) ∧ run.calls = [])
      ∧ (∀ fault,
          gate.Hears correlation tokens now state (.error fault) → run.value = .error fault)
      ∧ ∀ reports,
          gate.Hears correlation tokens now state (.ok reports)
          → ByLastReports tokens reports run.value
            ∧ ∀ {τ : Type} (other : Gate τ) (correlation' : CorrelationId) (later : Nat)
                (state' : τ) (others : List TokenStatus),
                other.Hears correlation' tokens later state' (.ok others)
                → TellsSame TokenStatus.token tokens reports others
                → ((other.ensureReady correlation' tokens).runAt later state').value
                  = run.value := by
  intro run
  refine ⟨?_, ?_, ?_⟩
  · intro empty
    subst empty
    exact ⟨rfl, rfl⟩
  · intro fault hears
    exact hears.value
  · intro reports hears
    have given : run.value = judge tokens reports := hears.value
    refine ⟨given ▸ judge_byLastReports tokens reports, ?_⟩
    intro τ other correlation' later state' others again tells
    rw [given, judge_of_tellsSame tells]
    exact again.value

/-- A foreign report and a denial that a later report supersedes are heard, and both are passed
over.
-/
example
    : rehearsed.Hears .nil ["a", "b"] 0
        { reports :=
            [{ answer := .ok [⟨"b", .virusDetected⟩, ⟨"c", .virusDetected⟩, ⟨"b", .initiated⟩] }] }
        (.ok [⟨"b", .virusDetected⟩, ⟨"c", .virusDetected⟩, ⟨"b", .initiated⟩])
      ∧ judge ["a", "b"] [⟨"b", .virusDetected⟩, ⟨"c", .virusDetected⟩, ⟨"b", .initiated⟩]
        = .error (.notReady [⟨"b", .initiated⟩]) :=
  ⟨⟨by decide, RetryPolicy.finalAnswer_iff.mpr rfl⟩, by decide⟩

end ObjectGrants.Gate
