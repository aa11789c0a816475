import ObjectGrants.Proofs.Dialogue

/-! Repeated calls as dialogues. However often a call is repeated, nothing else is asked, and
what the repetition gives is the answer that was heard last, unchanged.
-/

namespace ObjectGrants

variable {σ ε α : Type}

/-- An exchange about a call that is made under a correlation identifier. -/
structure Exchange.Asks (correlation : CorrelationId) (call : Call) (exchange : Exchange)
    : Prop where
  correlation : exchange.record.correlation = correlation
  call : exchange.record.call = call

/-- `history` asks the same thing again and again, and an outcome that was not cut off is the
answer to the last call.
-/
structure Repeats (correlation : CorrelationId) (call : Call) (history : List Exchange)
    (outcome : Except ε (Except Fault call.endpoint.Reply))
    : Prop where
  asks : ∀ exchange ∈ history, exchange.Asks correlation call
  last
    : ∀ answer,
        outcome = .ok answer
        → ∃ early time, history = early ++ [⟨⟨time, correlation, call⟩, some answer⟩]

/-- What is asked before a repetition extends it to the front, since only the last exchange
gives the outcome.
-/
theorem Repeats.prepend {correlation : CorrelationId} {call : Call}
    {early late : List Exchange} {outcome : Except ε (Except Fault call.endpoint.Reply)}
    (before : ∀ exchange ∈ early, exchange.Asks correlation call)
    (repeats : Repeats correlation call late outcome)
    : Repeats correlation call (early ++ late) outcome := by
  constructor
  · intro exchange member
    rcases List.mem_append.mp member with first | later
    · exact before exchange first
    · exact repeats.asks exchange later
  · intro answer given
    obtain ⟨middle, time, same⟩ := repeats.last answer given
    exact ⟨early ++ middle, time, by rw [same, List.append_assoc]⟩

/-- A single call is a repetition of itself. -/
theorem Timed.call_repeats (authority : Authority σ) (correlation : CorrelationId)
    (call : Call)
    : (Timed.call authority correlation call : Timed σ ε _).Leads authority
        (Repeats correlation call) := by
  refine (Timed.leads_call correlation call).mono ?_
  intro history outcome holds
  rcases holds with ⟨time, ⟨reply, rfl, rfl⟩ | ⟨cut, rfl, rfl⟩⟩
  · refine ⟨by simpa using ⟨rfl, rfl⟩, ?_⟩
    intro answer given
    exact ⟨[], time, by rw [Except.ok.inj given, List.nil_append]⟩
  · exact ⟨by simpa using ⟨rfl, rfl⟩, by simp⟩

/-- Attempts of a call form a repetition. Witness: induction on the repetitions left; a pause
asks nothing, so the exchanges of the remaining attempts follow the first one directly.
-/
theorem RetryPolicy.attempts_repeats (policy : RetryPolicy) (authority : Authority σ)
    (correlation : CorrelationId) (call : Call) (retry left : Nat)
    : (policy.attempts (Timed.call authority correlation call : Timed σ ε _) retry
        left).Leads authority (Repeats correlation call) := by
  induction left generalizing retry with
  | zero => exact Timed.call_repeats authority correlation call
  | succ left ih =>
      rw [RetryPolicy.attempts]
      refine ((Timed.call_repeats authority correlation call).bind
        (?_ : ∀ answer, Timed.Leads authority _ fun late outcome =>
          (late = [] ∧ outcome = .ok answer) ∨ Repeats correlation call late outcome)).mono ?_
      · intro answer
        cases answer with
        | ok value => exact (Timed.leads_pure _).mono fun _ _ ended => Or.inl ended
        | error fault =>
            by_cases retryable : fault.isRetryable policy.transientCodes
            · simp only [retryable, if_true]
              refine ((Timed.leads_pause _).bind fun _ => ih (retry + 1)).mono ?_
              intro history outcome holds
              rcases holds with ⟨_, early, late, rfl, rfl, repeats⟩ | ⟨cut, rfl, rfl⟩
              · exact Or.inr repeats
              · exact Or.inr ⟨by simp, by simp⟩
            · simp only [retryable]
              exact (Timed.leads_pure _).mono fun _ _ ended => Or.inl ended
      · intro history outcome holds
        rcases holds with ⟨answer, early, late, rfl, first, second⟩ | ⟨cut, first, rfl⟩
        · rcases second with ⟨rfl, rfl⟩ | repeats
          · simpa only [List.append_nil] using first
          · exact repeats.prepend first.asks
        · exact ⟨first.asks, by simp⟩

/-- Attempts of an operation make its calls once for each attempt, by induction on the
repetitions left.
-/
theorem RetryPolicy.attempts_makesAtMost (policy : RetryPolicy)
    {operation : Timed σ ε (Except Fault α)} (once : operation.MakesAtMost 1)
    (retry left : Nat)
    : (policy.attempts operation retry left).MakesAtMost (left + 1) := by
  induction left generalizing retry with
  | zero => exact once
  | succ left ih =>
      rw [RetryPolicy.attempts, Nat.add_comm]
      refine once.bind fun answer => ?_
      cases answer with
      | ok value => exact (Timed.makesAtMost_pure _).mono (Nat.zero_le _)
      | error fault =>
          by_cases retryable : fault.isRetryable policy.transientCodes = true
          · simp only [retryable, if_true]
            refine ((Timed.makesAtMost_pause _).bind fun _ => ih (retry + 1)).mono ?_
            omega
          · simp only [retryable]
            exact (Timed.makesAtMost_pure _).mono (Nat.zero_le _)

/-- A call under a retry policy is a repetition of that call. -/
theorem RetryPolicy.run_repeats (policy : RetryPolicy) (authority : Authority σ)
    (correlation : CorrelationId) (call : Call)
    : (policy.run (Timed.call authority correlation call : Timed σ ε _)).Leads authority
        (Repeats correlation call) :=
  policy.attempts_repeats authority correlation call 0 policy.retries

/-- An operation that succeeds at once is not repeated. -/
theorem RetryPolicy.run_of_ok (policy : RetryPolicy) {operation : Timed σ ε (Except Fault α)}
    {horizon : Horizon ε} {now : Nat} {state : σ} {value : α}
    (succeeds : (operation horizon now state).outcome = .ok (.ok value))
    : policy.run operation horizon now state = operation horizon now state := by
  unfold run
  cases policy.retries with
  | zero => rfl
  | succ left =>
      rw [attempts]
      change Timed.andThen operation _ horizon now state = _
      unfold Timed.andThen
      cases ending : operation horizon now state with
      | mk outcome elapsed calls final =>
          rw [ending] at succeeds
          obtain rfl := succeeds
          change Ended.mk _ (elapsed + 0) (calls ++ []) final = _
          rw [Nat.add_zero, List.append_nil]
          rfl

/-- A call that is answered with success is made once, and what follows makes its result of the
answer.
-/
theorem RetryPolicy.runAt_of_ok {β : Type} (policy : RetryPolicy) {authority : Authority σ}
    {correlation : CorrelationId} (call : Call) {state after : σ}
    {reply : call.endpoint.Reply}
    (answered
      : let pending := authority.accept correlation call state
        pending.finish pending.state = (.ok reply, after))
    (last : call.endpoint.Reply → Except Fault β) (now : Nat)
    : (Operation.ofTimed (policy.run (Timed.call authority correlation call)) >>= fun reply =>
        Operation.ofResult (last reply)).runAt now state
      = { outcome := .ok (last reply)
          elapsed := (authority.accept correlation call state).delay
          calls := [⟨now, correlation, call⟩]
          state := after } := by
  have once
      : Timed.call authority correlation call Horizon.never now state
        = { outcome := .ok (.ok reply)
            elapsed := (authority.accept correlation call state).delay
            calls := [⟨now, correlation, call⟩]
            state := after } := by
    simp only [Timed.call, Horizon.never, answered]
  have run
      : (Operation.ofTimed (policy.run (Timed.call authority correlation call))).runAt now state
        = Timed.call authority correlation call Horizon.never now state :=
    policy.run_of_ok (congrArg Ended.outcome once)
  rw [Operation.runAt_bind_ofResult, run, once]
  rfl

end ObjectGrants
