import ObjectGrants.Proofs.GateDecision

/-! A wait at the gate as one dialogue of status checks. Whatever ends it, a wait succeeds only
by the decision on the answer that was heard last.
-/

namespace ObjectGrants

namespace Gate

variable {σ ε α : Type}

/-- A horizon that lets one moment pass cuts later ones off only behind that moment. -/
theorem waitHorizon_cut?_le {deadline earlier later moment : Nat} {cancel : Option Nat}
    {reason : Interruption} (passed : (waitHorizon deadline cancel).cut? earlier = none)
    (cut : (waitHorizon deadline cancel).cut? later = some (moment, reason))
    : earlier ≤ moment := by
  cases cancel with
  | none =>
      simp only [waitHorizon, Option.filter_none] at passed cut
      split at passed <;> split at cut <;> grind
  | some cancelled =>
      simp only [waitHorizon, Option.filter_some] at passed cut
      grind

/-- Nothing but the status of the tokens is asked, and the gate opens, with `opening` as the
result, only by an answer that was heard last and opens it.
-/
structure Opens (opening : α) (correlation : CorrelationId) (tokens : List String)
    (history : List Exchange) (outcome : Except ε (Except Fault α))
    : Prop where
  asks : ∀ exchange ∈ history, exchange.Asks correlation (.uploadCheck tokens)
  opened
    : outcome = .ok (.ok opening)
      → tokens ≠ []
        ∧ ∃ early time reports,
            history
              = early ++ [⟨⟨time, correlation, .uploadCheck tokens⟩, some (.ok reports)⟩]
            ∧ judge tokens reports = .ok ()

/-- A check that decides opens the gate only by its last answer. -/
theorem Decides.opens {correlation : CorrelationId} {tokens : List String}
    {history : List Exchange} {outcome : Except ε (Except Fault Unit)}
    (decides : Decides correlation tokens history outcome)
    : Opens () correlation tokens history outcome := by
  refine ⟨decides.asks, fun given => ?_⟩
  rcases decides.decision (.ok ()) given with
    ⟨_, _, fault⟩ | ⟨nonempty, early, time, reply, last, decision⟩
  · exact nomatch fault
  · cases reply with
    | error fault => exact nomatch decision
    | ok reports => exact ⟨nonempty, early, time, reports, last, decision.symm⟩

/-- Checks before a wait extend it to the front, since only the last answer opens the gate. -/
theorem Opens.prepend {opening : α} {correlation : CorrelationId} {tokens : List String}
    {early late : List Exchange} {outcome : Except ε (Except Fault α)}
    (before : ∀ exchange ∈ early, exchange.Asks correlation (.uploadCheck tokens))
    (opens : Opens opening correlation tokens late outcome)
    : Opens opening correlation tokens (early ++ late) outcome := by
  constructor
  · intro exchange member
    rcases List.mem_append.mp member with first | later
    · exact before exchange first
    · exact opens.asks exchange later
  · intro given
    obtain ⟨nonempty, middle, time, reports, last, decision⟩ := opens.opened given
    exact ⟨nonempty, early ++ middle, time, reports, by rw [last, List.append_assoc], decision⟩

/-- A check lets a wait go on only when it has ended with reports of pending uploads. -/
theorem Verdict.ofCheck_eq_pending {correlation : CorrelationId}
    {last : Option (List TokenStatus)} {reports : List TokenStatus}
    {outcome : Except Interruption (Except Fault Unit)}
    (pending : Verdict.ofCheck correlation last outcome = .pending reports)
    : outcome = .ok (.error (.notReady reports)) := by
  unfold Verdict.ofCheck at pending
  split at pending <;> simp_all

/-- A check ends a wait with success only when it has ended with success itself. -/
theorem Verdict.ofCheck_eq_opened {correlation : CorrelationId}
    {last : Option (List TokenStatus)} {outcome : Except Interruption (Except Fault Unit)}
    (decided : Verdict.ofCheck correlation last outcome = .decided (.ok ()))
    : outcome = .ok (.ok ()) := by
  unfold Verdict.ofCheck at decided
  split at decided <;> simp_all

/-- The result of a check is that of a wait with an open gate only if the check has opened it.
-/
theorem map_ok_eq_opened {result : Except Fault Unit}
    (opened : result.map Except.ok = (.ok (.ok ()) : Except Fault (Except Panic Unit)))
    : result = .ok () := by
  cases result with
  | error fault => cases opened
  | ok opening => rfl

/-- Rounds of a wait form one dialogue of checks. Witness: induction on the rounds; a round
decides, or its checks stand in front of those of the rounds behind the next sleep.
-/
theorem waitFrom_opens (gate : Gate σ) (clock : Clock) (correlation : CorrelationId)
    (tokens : List String) (cancel : Option Nat) (deadline : Nat)
    (last : Option (List TokenStatus)) (now : Nat) (state : σ)
    : (gate.waitFrom clock correlation tokens cancel deadline last now state).Led gate.authority
        now state (Opens (.ok ()) correlation tokens) := by
  fun_induction waitFrom gate clock correlation tokens cancel deadline last now state with
  | case1 last now state horizon cut =>
      exact ⟨[], .silence (Nat.le_add_right now _), rfl, by simp, by simp⟩
  | case2 last now state horizon within round stop result decided =>
      have start := Option.not_isSome_iff_eq_none.mp within
      obtain ⟨history, dialogue, calls, decides⟩ :=
        (gate.check_decides correlation tokens horizon now state start).1
      refine ⟨history, dialogue, calls, decides.asks, fun given => ?_⟩
      have opened : result = .ok () := map_ok_eq_opened (Except.ok.inj given)
      exact decides.opens.opened (Verdict.ofCheck_eq_opened (opened ▸ decided))
  | case3 last now state horizon within round stop reports pending overdue =>
      have start := Option.not_isSome_iff_eq_none.mp within
      obtain ⟨history, dialogue, calls, decides⟩ :=
        (gate.check_decides correlation tokens horizon now state start).1
      exact ⟨history, dialogue, calls, decides.asks, fun given => nomatch given⟩
  | case4 last now state horizon within round stop reports pending early overflow =>
      have start := Option.not_isSome_iff_eq_none.mp within
      obtain ⟨history, dialogue, calls, decides⟩ :=
        (gate.check_decides correlation tokens horizon now state start).1
      exact ⟨history, dialogue, calls, decides.asks, fun given => nomatch given⟩
  | case5 last now state horizon within round stop reports pending early timed wake moment
      reason cut =>
      have start := Option.not_isSome_iff_eq_none.mp within
      obtain ⟨⟨history, dialogue, calls, decides⟩, still⟩ :=
        gate.check_decides correlation tokens horizon now state start
      have reached := waitHorizon_cut?_le (still _ (Verdict.ofCheck_eq_pending pending)) cut
      refine ⟨history, dialogue.extend ?_, calls, decides.asks, fun given => nomatch given⟩
      simp only [stop] at reached ⊢
      omega
  | case6 last now state horizon within round reports pending early timed wake free rest ih =>
      have start := Option.not_isSome_iff_eq_none.mp within
      obtain ⟨history, dialogue, calls, decides⟩ :=
        (gate.check_decides correlation tokens horizon now state start).1
      obtain ⟨late, following, more, opens⟩ := ih
      have slept : now + round.elapsed ≤ wake := by
        simp only [wake]
        omega
      refine ⟨history ++ late, ?_, ?_, opens.prepend decides.asks⟩
      · have joined := (dialogue.extend slept).append following
        rw [show now + (wake - now + rest.elapsed) = wake + rest.elapsed by omega]
        exact joined
      · rw [List.map_append, calls, more]

/-- A wait that is started at some time is over at once by a panic, if no timer can be set to
its deadline, and else goes from there.
-/
theorem waitUntilReady_runAt (gate : Gate σ) (clock : Clock) (correlation : CorrelationId)
    (tokens : List String) (timeout : Nat) (cancel : Option Nat) (now : Nat) (state : σ)
    : (gate.waitUntilReady clock correlation tokens timeout cancel).runAt now state
      = if clock.lastTime < now + timeout then
          { outcome := .ok (.ok (.error .timeOverflow)), elapsed := 0, calls := [], state }
        else
          gate.waitFrom clock correlation tokens (cancel.map (now + ·)) (now + timeout) none now
            state :=
  rfl

/-- A wait from its start is one dialogue of checks that opens the gate by its last answer. -/
theorem waitUntilReady_opens (gate : Gate σ) (clock : Clock) (correlation : CorrelationId)
    (tokens : List String) (timeout : Nat) (cancel : Option Nat) (now : Nat) (state : σ)
    : ((gate.waitUntilReady clock correlation tokens timeout cancel).runAt now state).Led
        gate.authority now state (Opens (.ok ()) correlation tokens) := by
  rw [waitUntilReady_runAt]
  split
  · exact ⟨[], .silence (Nat.le_add_right now _), rfl, by simp, by simp⟩
  · exact gate.waitFrom_opens clock correlation tokens _ _ none now state

/-- Asking once is a dialogue of checks that opens the gate by its last answer. -/
theorem ensureReady_opens (gate : Gate σ) (correlation : CorrelationId)
    (tokens : List String) (now : Nat) (state : σ)
    : ((gate.ensureReady correlation tokens).runAt now state).Led gate.authority now state
        (Opens () correlation tokens) := by
  obtain ⟨history, dialogue, calls, decides⟩ :=
    gate.ensureReady_decides correlation tokens now state
  exact ⟨history, dialogue, calls, decides.opens⟩

end Gate

end ObjectGrants
