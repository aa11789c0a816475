import ObjectGrants.Authority.Script
import ObjectGrants.Gate
import ObjectGrants.Proofs.LastEntry
import ObjectGrants.Proofs.Retry

/-! What the gate decides by a list of reports, and how far that is from failing closed.

Only the last report about a token counts. The decision is that of the gravest last report,
where a token without a report counts as pending; a graver report that a later one about the
same token supersedes is not looked at.
-/

namespace ObjectGrants

/-- How far a status is from success: not at all, pending, or for good. -/
def Status.gravity : Status → Nat
  | .succeeded => 0
  | .initiated | .validatingMetadata | .scanningForMalware => 1
  | .validationFailed | .virusDetected => 2

theorem Status.isDenied_iff_gravity (status : Status)
    : status.isDenied = true ↔ 2 ≤ status.gravity := by
  cases status <;> simp [isDenied, gravity]

theorem Status.gravity_eq_zero_iff (status : Status)
    : status.gravity = 0 ↔ status = .succeeded := by
  cases status <;> simp [gravity]

theorem Status.isSuccess_iff_gravity (status : Status)
    : status.isSuccess = true ↔ status.gravity = 0 := by
  cases status <;> simp [isSuccess, gravity]

namespace Gate

-----------------------------------------------------------------------------------------
-- The last report about a token
-----------------------------------------------------------------------------------------

/-- `report` is about `token`, and no report behind it is. -/
def LastReport (reports : List TokenStatus) (token : String) (report : TokenStatus) : Prop :=
  ∃ early late,
    reports = early ++ report :: late
    ∧ report.token = token
    ∧ ∀ later ∈ late, later.token ≠ token

/-- The search from the back finds the last report. -/
theorem lastReport?_eq_some_iff {reports : List TokenStatus} {token : String}
    {report : TokenStatus}
    : lastReport? reports token = some report ↔ LastReport reports token report :=
  LastEntry.find?_reverse_eq_some_iff

/-- No last report is found exactly if no report is about the token. -/
theorem lastReport?_eq_none_iff {reports : List TokenStatus} {token : String}
    : lastReport? reports token = none ↔ ∀ report ∈ reports, report.token ≠ token :=
  LastEntry.find?_reverse_eq_none_iff

/-- The last report about a token is one of the reports about it. -/
theorem lastReport?_mem {reports : List TokenStatus} {token : String} {report : TokenStatus}
    (found : lastReport? reports token = some report)
    : report ∈ reports ∧ report.token = token := by
  have last : LastEntry TokenStatus.token reports token report :=
    lastReport?_eq_some_iff.mp found
  exact ⟨last.mem, last.named⟩

/-- The gravity that the last report gives a token; pending if there is none. -/
def standing (reports : List TokenStatus) (token : String) : Nat :=
  ((lastReport? reports token).map (·.status.gravity)).getD 1

-----------------------------------------------------------------------------------------
-- The decision by the standing of the tokens
-----------------------------------------------------------------------------------------

/-- The decision in terms of standings: the gravest one decides. The faults carry the last
reports in the order of the tokens.
-/
theorem judge_eq (tokens : List String) (reports : List TokenStatus)
    : judge tokens reports
      = let last := tokens.filterMap (lastReport? reports)
        if ∃ token ∈ tokens, 2 ≤ standing reports token then .error (.denied last)
        else if ∃ token ∈ tokens, standing reports token ≠ 0 then .error (.notReady last)
        else .ok () := by
  have denied
      : (tokens.filterMap (lastReport? reports)).any (·.status.isDenied) = true
        ↔ ∃ token ∈ tokens, 2 ≤ standing reports token := by
    simp only [List.any_eq_true, List.mem_filterMap, Status.isDenied_iff_gravity]
    constructor
    · intro holds
      obtain ⟨report, ⟨token, member, found⟩, grave⟩ := holds
      exact ⟨token, member, by simpa [standing, found] using grave⟩
    · intro holds
      obtain ⟨token, member, grave⟩ := holds
      cases found : lastReport? reports token with
      | none => simp [standing, found] at grave
      | some report =>
          exact ⟨report, ⟨token, member, found⟩, by simpa [standing, found] using grave⟩
  have pending
      : ((tokens.any fun token => (lastReport? reports token).isNone)
          || (tokens.filterMap (lastReport? reports)).any (!·.status.isSuccess)) = true
        ↔ ∃ token ∈ tokens, standing reports token ≠ 0 := by
    simp only [Bool.or_eq_true, List.any_eq_true, List.mem_filterMap, Bool.not_eq_true',
      ← Bool.not_eq_true, Status.isSuccess_iff_gravity]
    constructor
    · intro holds
      rcases holds with ⟨token, member, missing⟩ | ⟨report, ⟨token, member, found⟩, grave⟩
      · exact ⟨token, member, by simp [standing, Option.isNone_iff_eq_none.mp missing]⟩
      · exact ⟨token, member, by simpa [standing, found] using grave⟩
    · intro holds
      obtain ⟨token, member, grave⟩ := holds
      cases found : lastReport? reports token with
      | none => exact Or.inl ⟨token, member, by simp [found]⟩
      | some report =>
          exact Or.inr ⟨report, ⟨token, member, found⟩, by simpa [standing, found] using grave⟩
  unfold judge
  simp only [denied, pending]

/-- The gate denies exactly if some token stands as a failure. -/
theorem judge_denied_iff {tokens : List String} {reports : List TokenStatus}
    : (∃ last, judge tokens reports = .error (.denied last))
      ↔ ∃ token ∈ tokens, 2 ≤ standing reports token := by
  rw [judge_eq]
  by_cases grave : ∃ token ∈ tokens, 2 ≤ standing reports token
  · simp only [grave, if_true, iff_true]
    exact ⟨_, rfl⟩
  · simp only [grave, if_false, iff_false]
    split <;> simp

/-- The gate is not ready exactly if no token stands as a failure and some is pending. -/
theorem judge_notReady_iff {tokens : List String} {reports : List TokenStatus}
    : (∃ last, judge tokens reports = .error (.notReady last))
      ↔ (¬ ∃ token ∈ tokens, 2 ≤ standing reports token)
        ∧ ∃ token ∈ tokens, standing reports token ≠ 0 := by
  rw [judge_eq]
  by_cases grave : ∃ token ∈ tokens, 2 ≤ standing reports token
  · simp [grave]
  · by_cases pending : ∃ token ∈ tokens, standing reports token ≠ 0
    · simp only [grave, pending, if_true, if_false, not_false_eq_true, and_self, iff_true]
      exact ⟨_, rfl⟩
    · simp only [grave, pending, if_false, and_false, iff_false]
      simp

/-- The gate opens exactly if every token stands as a success. -/
theorem judge_ok_iff {tokens : List String} {reports : List TokenStatus}
    : judge tokens reports = .ok () ↔ ∀ token ∈ tokens, standing reports token = 0 := by
  rw [judge_eq]
  by_cases pending : ∃ token ∈ tokens, standing reports token ≠ 0
  · have stands : ¬ ∀ token ∈ tokens, standing reports token = 0 := by
      obtain ⟨token, member, short⟩ := pending
      exact fun all => short (all token member)
    simp only [pending, stands, if_true, iff_false]
    split <;> simp
  · have stands : ∀ token ∈ tokens, standing reports token = 0 := by
      intro token member
      exact Decidable.not_not.mp fun short => pending ⟨token, member, short⟩
    have mild : ¬ ∃ token ∈ tokens, 2 ≤ standing reports token := by
      intro holds
      obtain ⟨token, member, grave⟩ := holds
      have := stands token member
      omega
    simp only [mild, pending, if_false, true_iff]
    exact stands

/-- A token stands as a success exactly if its last report says so. -/
theorem standing_eq_zero_iff {reports : List TokenStatus} {token : String}
    : standing reports token = 0
      ↔ ∃ report, LastReport reports token report ∧ report.status = .succeeded := by
  simp only [← lastReport?_eq_some_iff, standing]
  cases lastReport? reports token with
  | none => simp
  | some report => simp [Status.gravity_eq_zero_iff]

-----------------------------------------------------------------------------------------
-- One report for each token
-----------------------------------------------------------------------------------------

section

/-- One report for each token that has a status. -/
def reportsOf (status? : String → Option Status) (tokens : List String) : List TokenStatus :=
  tokens.filterMap fun token => (status? token).map (⟨token, ·⟩)

variable {tokens : List String} {status? : String → Option Status} {token : String}

/-- The last report about a token gives its status. -/
theorem lastReport?_reportsOf (member : token ∈ tokens)
    : lastReport? (reportsOf status? tokens) token = (status? token).map (⟨token, ·⟩) := by
  have only {report : TokenStatus} (among : report ∈ reportsOf status? tokens)
      : status? report.token = some report.status := by
    obtain ⟨other, _, made⟩ := List.mem_filterMap.mp among
    obtain ⟨status, given, rfl⟩ := Option.map_eq_some_iff.mp made
    exact given
  cases given : status? token with
  | none =>
      refine lastReport?_eq_none_iff.mpr fun report among same => ?_
      have reported := only among
      rw [same, given] at reported
      cases reported
  | some status =>
      have reported : ⟨token, status⟩ ∈ reportsOf status? tokens :=
        List.mem_filterMap.mpr ⟨token, member, by rw [given]; rfl⟩
      cases found : lastReport? (reportsOf status? tokens) token with
      | none => exact absurd rfl (lastReport?_eq_none_iff.mp found _ reported)
      | some report =>
          obtain ⟨among, rfl⟩ := lastReport?_mem found
          have same := given.symm.trans (only among)
          rw [Option.some.inj same]
          rfl

theorem standing_reportsOf (member : token ∈ tokens)
    : standing (reportsOf status? tokens) token = ((status? token).map Status.gravity).getD 1 := by
  rw [standing, lastReport?_reportsOf member, Option.map_map]
  rfl

/-- Some token has a status that denies it. -/
def Denies (status? : String → Option Status) (tokens : List String) : Prop :=
  ∃ token ∈ tokens, ∃ status, status? token = some status ∧ status.isDenied = true

/-- The gate opens exactly if every token has succeeded. -/
theorem judge_reportsOf_ok_iff
    : judge tokens (reportsOf status? tokens) = .ok ()
      ↔ ∀ token ∈ tokens, status? token = some .succeeded := by
  rw [judge_ok_iff]
  refine forall₂_congr fun token member => ?_
  rw [standing_reportsOf member]
  cases status? token with
  | none => simp
  | some status => simp [Status.gravity_eq_zero_iff]

/-- The gate denies exactly if the status of some token does. -/
theorem judge_reportsOf_denied_iff
    : (∃ last, judge tokens (reportsOf status? tokens) = .error (.denied last))
      ↔ Denies status? tokens := by
  rw [judge_denied_iff, Denies]
  refine exists_congr fun token => and_congr_right fun member => ?_
  rw [standing_reportsOf member]
  cases status? token with
  | none => simp
  | some status => simp [Status.isDenied_iff_gravity]

/-- The gate is not ready exactly if no status denies and some token has not succeeded. -/
theorem judge_reportsOf_notReady_iff
    : (∃ last, judge tokens (reportsOf status? tokens) = .error (.notReady last))
      ↔ ¬Denies status? tokens ∧ ¬∀ token ∈ tokens, status? token = some .succeeded := by
  rw [judge_notReady_iff, ← judge_denied_iff, judge_reportsOf_denied_iff, ← judge_reportsOf_ok_iff,
    judge_ok_iff]
  simp

end

-----------------------------------------------------------------------------------------
-- Failing closed
-----------------------------------------------------------------------------------------

/-- A requested token is reported as failed for good, whatever else is reported about it. -/
def ReportsDenial (tokens : List String) (reports : List TokenStatus) : Prop :=
  ∃ report ∈ reports, report.token ∈ tokens ∧ report.status.isDenied = true

/-- A requested token is not reported at all, or is reported as anything but a success. -/
def LacksSuccess (tokens : List String) (reports : List TokenStatus) : Prop :=
  (∃ token ∈ tokens, ∀ report ∈ reports, report.token ≠ token)
  ∨ ∃ report ∈ reports, report.token ∈ tokens ∧ report.status ≠ .succeeded

/-- The result of a gate that weighs every report about the requested tokens: one denial
denies, anything else short of success keeps it shut, and it opens for nothing less.
-/
structure FailsClosed (tokens : List String) (reports : List TokenStatus)
    (result : Except Fault Unit)
    : Prop where
  denies : ReportsDenial tokens reports → ∃ last, result = .error (.denied last)
  waits
    : ¬ ReportsDenial tokens reports
      → LacksSuccess tokens reports
      → ∃ last, result = .error (.notReady last)
  admits
    : result = .ok ()
      → ∀ token ∈ tokens,
          (∃ report ∈ reports, report.token = token)
          ∧ ∀ report ∈ reports, report.token = token → report.status = .succeeded

/-- Every report about a requested token is at most as grave as the last word on some
requested token, so superseding it changes nothing.
-/
def Upheld (tokens : List String) (reports : List TokenStatus) : Prop :=
  ∀ report ∈ reports,
    report.token ∈ tokens
    → ∃ token ∈ tokens, report.status.gravity ≤ standing reports token

/-- A token that stands as a failure is reported as one. -/
theorem reportsDenial_of_standing {tokens : List String} {reports : List TokenStatus}
    {token : String} (member : token ∈ tokens) (grave : 2 ≤ standing reports token)
    : ReportsDenial tokens reports := by
  cases found : lastReport? reports token with
  | none => simp [standing, found] at grave
  | some report =>
      obtain ⟨reported, rfl⟩ := lastReport?_mem found
      refine ⟨report, reported, member, ?_⟩
      rw [Status.isDenied_iff_gravity]
      simpa [standing, found] using grave

/-- A decision that fails closed was made on reports that are upheld. Witness: what it says of
the gravest report is said by the standing of some token.
-/
theorem upheld_of_failsClosed {tokens : List String} {reports : List TokenStatus}
    (closed : FailsClosed tokens reports (judge tokens reports))
    : Upheld tokens reports := by
  intro report reported requested
  by_cases grave : ReportsDenial tokens reports
  · obtain ⟨token, member, failed⟩ := judge_denied_iff.mp (closed.denies grave)
    refine ⟨token, member, Nat.le_trans ?_ failed⟩
    cases report.status <;> simp [Status.gravity]
  · by_cases success : report.status = .succeeded
    · rw [← Status.gravity_eq_zero_iff] at success
      exact ⟨report.token, requested, by omega⟩
    -- Short of a denial the report is pending, and so must the last word on some token be.
    · have lacks : LacksSuccess tokens reports :=
        Or.inr ⟨report, reported, requested, success⟩
      obtain ⟨_, token, member, short⟩ := judge_notReady_iff.mp (closed.waits grave lacks)
      have bounded : ¬ 2 ≤ report.status.gravity := by
        rw [← Status.isDenied_iff_gravity]
        exact fun denied => grave ⟨report, reported, requested, denied⟩
      exact ⟨token, member, by omega⟩

/-- A decision on reports that are upheld fails closed. Witness: each report is outweighed by
the standing of some token, and a standing is never graver than some report.
-/
theorem failsClosed_of_upheld {tokens : List String} {reports : List TokenStatus}
    (upheld : Upheld tokens reports)
    : FailsClosed tokens reports (judge tokens reports) := by
  constructor
  · intro denial
    obtain ⟨report, reported, requested, denied⟩ := denial
    obtain ⟨token, member, bound⟩ := upheld report reported requested
    rw [Status.isDenied_iff_gravity] at denied
    exact judge_denied_iff.mpr ⟨token, member, Nat.le_trans denied bound⟩
  · intro noDenial lacks
    refine judge_notReady_iff.mpr ⟨?_, ?_⟩
    · intro denied
      obtain ⟨token, member, grave⟩ := denied
      exact noDenial (reportsDenial_of_standing member grave)
    · rcases lacks with ⟨token, member, missing⟩ | ⟨report, reported, requested, short⟩
      · exact ⟨token, member, by simp [standing, lastReport?_eq_none_iff.mpr missing]⟩
      · obtain ⟨token, member, bound⟩ := upheld report reported requested
        rw [Ne, ← Status.gravity_eq_zero_iff] at short
        exact ⟨token, member, by omega⟩
  · intro opened token member
    have stands := judge_ok_iff.mp opened
    refine ⟨?_, ?_⟩
    · obtain ⟨report, last, _⟩ := standing_eq_zero_iff.mp (stands token member)
      exact ⟨report, lastReport?_mem (lastReport?_eq_some_iff.mpr last)⟩
    · intro report reported same
      subst same
      obtain ⟨other, requested, bound⟩ := upheld report reported member
      rw [← Status.gravity_eq_zero_iff]
      have := stands other requested
      omega

/-- The decision fails closed exactly on reports that are upheld. -/
theorem judge_failsClosed_iff (tokens : List String) (reports : List TokenStatus)
    : FailsClosed tokens reports (judge tokens reports) ↔ Upheld tokens reports :=
  ⟨upheld_of_failsClosed, failsClosed_of_upheld⟩

-----------------------------------------------------------------------------------------
-- The gate asked once
-----------------------------------------------------------------------------------------

variable {σ ε : Type}

/-- Nothing but the status of the tokens is asked, and the result is the decision on the last
answer or the fault that came in its place. Without tokens nothing is asked.
-/
structure Decides (correlation : CorrelationId) (tokens : List String)
    (history : List Exchange) (outcome : Except ε (Except Fault Unit))
    : Prop where
  asks : ∀ exchange ∈ history, exchange.Asks correlation (.uploadCheck tokens)
  decision
    : ∀ result,
        outcome = .ok result
        → (tokens = [] ∧ history = [] ∧ result = .error (.invalidRequest .noTokens))
          ∨ (tokens ≠ []
            ∧ ∃ early time reply,
                history = early ++ [⟨⟨time, correlation, .uploadCheck tokens⟩, some reply⟩]
                ∧ result = reply.bind (judge tokens))

/-- A check decides by the answer that was heard last, by the repetition of its call. -/
theorem check_decides (gate : Gate σ) (correlation : CorrelationId) (tokens : List String)
    : (gate.check correlation tokens : Timed σ ε _).Leads gate.authority
        (Decides correlation tokens) := by
  unfold check
  cases tokens with
  | nil =>
      refine (Timed.leads_pure _).mono ?_
      intro history outcome holds
      obtain ⟨rfl, rfl⟩ := holds
      exact ⟨by simp, fun result given => Or.inl ⟨rfl, rfl, (Except.ok.inj given).symm⟩⟩
  | cons token rest =>
      simp only [List.isEmpty_cons, Bool.false_eq_true, if_false]
      refine ((gate.policy.run_repeats gate.authority correlation
        (.uploadCheck (token :: rest))).bind
        (?_ : ∀ reply, Timed.Leads gate.authority _ fun late outcome =>
          late = [] ∧ outcome = .ok (Except.bind reply (judge (token :: rest))))).mono ?_
      · intro reply
        cases reply with
        | ok reports => exact Timed.leads_pure _
        | error fault => exact Timed.leads_pure _
      · intro history outcome holds
        rcases holds with ⟨reply, early, late, rfl, repeats, rfl, rfl⟩ | ⟨cut, repeats, rfl⟩
        · obtain ⟨before, time, rfl⟩ := repeats.last reply rfl
          refine ⟨by simpa only [List.append_nil] using repeats.asks, fun result given => ?_⟩
          exact Or.inr ⟨by simp, before, time, reply, by simp, (Except.ok.inj given).symm⟩
        · exact ⟨repeats.asks, fun result given => nomatch given⟩

/-- A gate asked about some tokens decides on the reports of the first answer without a fault. -/
theorem ensureReady_eq (gate : Gate σ) (correlation : CorrelationId)
    {tokens : List String} (nonempty : tokens ≠ [])
    : gate.ensureReady correlation tokens
      = Operation.ofTimed
          (gate.policy.run (Timed.call gate.authority correlation (.uploadCheck tokens)))
        >>= fun reports => Operation.ofResult (judge tokens reports) := by
  unfold ensureReady check
  rw [if_neg (by simpa using nonempty)]
  refine congrArg (Timed.andThen _) (funext fun reply => ?_)
  cases reply <;> rfl

/-- Asking the gate once gives the decision on the answer that was heard last. -/
theorem ensureReady_decides (gate : Gate σ) (correlation : CorrelationId)
    (tokens : List String) (now : Nat) (state : σ)
    : ((gate.ensureReady correlation tokens).runAt now state).Led gate.authority now state
        (Decides correlation tokens) :=
  (gate.check_decides correlation tokens Horizon.never now state rfl).1

/-- A run of the gate asked once follows the answer that was heard last: `decision` relates
the reports of that answer to its result, and a fault in their place is its result.
-/
def FollowsLastAnswer (gate : Gate σ) (correlation : CorrelationId) (tokens : List String)
    (state : σ) (decision : List TokenStatus → Except Fault Unit → Prop)
    : Prop :=
  let run := (gate.ensureReady correlation tokens).start state
  ∃ history early time reply,
    Dialogue gate.authority 0 state history run.elapsed run.state
    ∧ history.map (·.record) = run.calls
    ∧ history = early ++ [⟨⟨time, correlation, .uploadCheck tokens⟩, some reply⟩]
    ∧ match reply with
      | .ok reports => decision reports run.value
      | .error fault => run.value = .error fault

/-- Asked about some tokens, the gate gives the decision on the reports it has heard. -/
theorem ensureReady_followsLastAnswer (gate : Gate σ) (correlation : CorrelationId)
    (tokens : List String) (nonempty : tokens ≠ []) (state : σ)
    : gate.FollowsLastAnswer correlation tokens state
        fun reports result => result = judge tokens reports := by
  obtain ⟨history, dialogue, calls, decides⟩ :=
    gate.ensureReady_decides correlation tokens 0 state
  rw [Nat.zero_add] at dialogue
  rcases decides.decision _ (Ended.outcome_eq _) with
    ⟨empty, _⟩ | ⟨_, early, time, reply, split, result⟩
  · exact absurd empty nonempty
  · refine ⟨history, early, time, reply, dialogue, calls, split, ?_⟩
    cases reply with
    | ok reports => exact result
    | error fault => exact result

/-- When the authority has answered with reports, the gate asked once fails closed exactly if
these are upheld. It admits a token whose failure a later report of the same answer turns
into a success.
-/
theorem ensureReady_failsClosed_iff (gate : Gate σ) (correlation : CorrelationId)
    (tokens : List String) (nonempty : tokens ≠ []) (state : σ)
    : gate.FollowsLastAnswer correlation tokens state
        fun reports result => FailsClosed tokens reports result ↔ Upheld tokens reports := by
  obtain ⟨history, early, time, reply, dialogue, calls, split, follows⟩ :=
    gate.ensureReady_followsLastAnswer correlation tokens nonempty state
  refine ⟨history, early, time, reply, dialogue, calls, split, ?_⟩
  cases reply with
  | ok reports =>
      dsimp only at follows ⊢
      rw [follows]
      exact judge_failsClosed_iff tokens reports
  | error fault => exact follows

/-- A gate that asks a rehearsed authority once, without repetitions. -/
def rehearsed : Gate Script where
  authority := Script.authority
  pollInterval := 1000
  pollInterval_pos := by decide
  policy := .none

/-- A success superseded by a virus report is a conflict on which the gate fails closed. -/
theorem ensureReady_failsClosed_iff_virus_last
    : ["obj-1"] ≠ []
      ∧ rehearsed.FollowsLastAnswer .nil ["obj-1"]
          { reports :=
              [{ answer := .ok [⟨"obj-1", .succeeded⟩, ⟨"obj-1", .virusDetected⟩] }] }
          fun reports result =>
            FailsClosed ["obj-1"] reports result ↔ Upheld ["obj-1"] reports :=
  ⟨by decide, ensureReady_failsClosed_iff rehearsed .nil ["obj-1"] (by decide) _⟩

/-- A virus report superseded by a success within one answer opens the gate, although a token
is reported as denied.
-/
theorem ensureReady_admits_superseded_denial
    : let reports : List TokenStatus := [⟨"obj-1", .virusDetected⟩, ⟨"obj-1", .succeeded⟩]
      let run := (rehearsed.ensureReady .nil ["obj-1"]).start
        { reports := [{ answer := .ok reports }] }
      run.value = .ok ()
      ∧ ReportsDenial ["obj-1"] reports
      ∧ ¬ FailsClosed ["obj-1"] reports run.value := by
  intro reports run
  have opened : run.value = .ok () := rfl
  have denial : ReportsDenial ["obj-1"] reports := ⟨⟨"obj-1", .virusDetected⟩, by decide⟩
  refine ⟨opened, denial, ?_⟩
  intro closed
  obtain ⟨last, denied⟩ := closed.denies denial
  simp [opened] at denied

end Gate

end ObjectGrants
