import ObjectGrants.Proofs.Timed
import ObjectGrants.Retry

/-! Calls together with their answers. A dialogue follows an authority through the calls of a
run that makes one call at a time, so it says of each call which answer was waited for.
-/

namespace ObjectGrants

-----------------------------------------------------------------------------------------
-- One call after the other
-----------------------------------------------------------------------------------------

/-- A call, and its answer unless nobody waited for it to the end. -/
structure Exchange where
  record : CallRecord
  reply? : Option (Except Fault record.call.endpoint.Reply)

/-- The answer of an authority to a call that is made in some state and waited for, with the
state behind it.
-/
def Authority.reply {σ : Type} (authority : Authority σ) (correlation : CorrelationId)
    (call : Call) (state : σ)
    : Except Fault call.endpoint.Reply × σ :=
  let pending := authority.accept correlation call state
  pending.finish pending.state

/-- The exchange whose answer is waited for. -/
def Exchange.heard {σ : Type} (authority : Authority σ) (time : Nat)
    (correlation : CorrelationId) (call : Call) (state : σ)
    : Exchange :=
  ⟨⟨time, correlation, call⟩, some (authority.reply correlation call state).1⟩

/-- The exchange whose answer is dropped. -/
def Exchange.dropped (time : Nat) (correlation : CorrelationId) (call : Call) : Exchange :=
  ⟨⟨time, correlation, call⟩, none⟩

/-- `Dialogue authority start state history finish final`: from time `start` and `state` on,
the exchanges of `history` lead the authority to `final`, all of them by time `finish`. No
call is made before the answer to the one before it is there or has been dropped.
-/
inductive Dialogue {σ : Type} (authority : Authority σ)
    : Nat → σ → List Exchange → Nat → σ → Prop
  | silence {start finish state} (later : start ≤ finish)
    : Dialogue authority start state [] finish state
  | heard {start time finish state final correlation call rest} (later : start ≤ time)
    (following
      : Dialogue authority (time + (authority.accept correlation call state).delay)
          (authority.reply correlation call state).2 rest finish final)
    : Dialogue authority start state
        (Exchange.heard authority time correlation call state :: rest) finish final
  | dropped {start time finish state final correlation call rest} (later : start ≤ time)
    (following
      : Dialogue authority time (authority.accept correlation call state).state rest finish
          final)
    : Dialogue authority start state
        (Exchange.dropped time correlation call :: rest) finish final

/-- Dialogues join where the first has ended, by induction on the first. -/
theorem Dialogue.append {σ : Type} {authority : Authority σ} {start middle finish : Nat}
    {state between final : σ} {history more : List Exchange}
    (first : Dialogue authority start state history middle between)
    (second : Dialogue authority middle between more finish final)
    : Dialogue authority start state (history ++ more) finish final := by
  induction first with
  | silence later =>
      cases second with
      | silence next => exact .silence (Nat.le_trans later next)
      | heard next following => exact .heard (Nat.le_trans later next) following
      | dropped next following => exact .dropped (Nat.le_trans later next) following
  | heard later _ ih => exact .heard later (ih second)
  | dropped later _ ih => exact .dropped later (ih second)

/-- A dialogue may be taken to end later than with its last answer. -/
theorem Dialogue.extend {σ : Type} {authority : Authority σ} {start finish later : Nat}
    {state final : σ} {history : List Exchange}
    (dialogue : Dialogue authority start state history finish final) (le : finish ≤ later)
    : Dialogue authority start state history later final := by
  simpa only [List.append_nil] using dialogue.append (.silence le)

theorem Dialogue.start_le_finish {σ : Type} {authority : Authority σ} {start finish : Nat}
    {state final : σ} {history : List Exchange}
    (dialogue : Dialogue authority start state history finish final)
    : start ≤ finish := by
  induction dialogue with
  | silence later => exact later
  | heard later _ ih => omega
  | dropped later _ ih => omega

/-- The calls of a dialogue are made between its start and its end, by induction on it. -/
theorem Dialogue.within {σ : Type} {authority : Authority σ} {start finish : Nat}
    {state final : σ} {history : List Exchange}
    (dialogue : Dialogue authority start state history finish final) {exchange : Exchange}
    (member : exchange ∈ history)
    : start ≤ exchange.record.time ∧ exchange.record.time ≤ finish := by
  induction dialogue with
  | silence _ => exact nomatch member
  | heard later following ih =>
      have ends := following.start_le_finish
      rcases List.mem_cons.mp member with rfl | rest
      · exact ⟨later, Nat.le_trans (Nat.le_add_right _ _) ends⟩
      · have := ih rest
        omega
  | dropped later following ih =>
      have ends := following.start_le_finish
      rcases List.mem_cons.mp member with rfl | rest
      · exact ⟨later, ends⟩
      · have := ih rest
        omega

-----------------------------------------------------------------------------------------
-- Operations as dialogues
-----------------------------------------------------------------------------------------

variable {σ ε α β : Type}

/-- The calls of an ended operation are those of a dialogue from `now` to its end, and the
exchanges satisfy `post` together with the outcome.
-/
def Ended.Led (authority : Authority σ) (now : Nat) (state : σ)
    (post : List Exchange → Except ε α → Prop) (ended : Ended σ ε α)
    : Prop :=
  ∃ history,
    Dialogue authority now state history (now + ended.elapsed) ended.state
    ∧ history.map (·.record) = ended.calls
    ∧ post history ended.outcome

/-- Conclusions of a dialogue may be weakened. -/
theorem Ended.Led.mono {authority : Authority σ} {now : Nat} {state : σ}
    {post weaker : List Exchange → Except ε α → Prop} {ended : Ended σ ε α}
    (led : ended.Led authority now state post)
    (weaken : ∀ history outcome, post history outcome → weaker history outcome)
    : ended.Led authority now state weaker := by
  obtain ⟨history, dialogue, calls, holds⟩ := led
  exact ⟨history, dialogue, calls, weaken history _ holds⟩

/-- However an operation is started within a horizon, it leads a dialogue that satisfies
`post`, and it is still within the horizon when it gives a value.
-/
def Timed.Leads (authority : Authority σ) (operation : Timed σ ε α)
    (post : List Exchange → Except ε α → Prop)
    : Prop :=
  ∀ horizon now state,
    horizon.cut? now = none
    → (operation horizon now state).Led authority now state post
      ∧ ∀ value,
          (operation horizon now state).outcome = .ok value
          → horizon.cut? (now + (operation horizon now state).elapsed) = none

namespace Timed

variable {authority : Authority σ}

theorem Leads.mono {operation : Timed σ ε α} {post weaker : List Exchange → Except ε α → Prop}
    (leads : operation.Leads authority post)
    (weaken : ∀ history outcome, post history outcome → weaker history outcome)
    : operation.Leads authority weaker := by
  intro horizon now state within
  obtain ⟨led, still⟩ := leads horizon now state within
  exact ⟨led.mono weaken, still⟩

/-- Ending at once leads the empty dialogue. -/
theorem leads_pure (value : α)
    : (pure value : Timed σ ε α).Leads authority
        fun history outcome => history = [] ∧ outcome = .ok value := by
  intro horizon now state within
  exact ⟨⟨[], .silence (Nat.le_add_right now _), rfl, rfl, rfl⟩, fun _ _ => within⟩

/-- A pause leads the empty dialogue, cut off or not. -/
theorem leads_pause (delay : Nat)
    : (pause delay : Timed σ ε Unit).Leads authority fun history _ => history = [] := by
  intro horizon now state within
  dsimp only [pause]
  cases cutting : horizon.cut? (now + delay) with
  | none =>
      exact ⟨⟨[], .silence (Nat.le_add_right now _), rfl, rfl⟩, fun _ _ => cutting⟩
  | some cut =>
      exact ⟨⟨[], .silence (Nat.le_add_right now _), rfl, rfl⟩, fun _ given => nomatch given⟩

/-- A call is one exchange: it gives the answer that was heard, or is cut off before. -/
theorem leads_call (correlation : CorrelationId) (asked : Call)
    : (call authority correlation asked : Timed σ ε _).Leads authority
        fun history outcome =>
          ∃ time,
            (∃ reply,
              history = [⟨⟨time, correlation, asked⟩, some reply⟩] ∧ outcome = .ok reply)
            ∨ (∃ cut,
                history = [.dropped time correlation asked] ∧ outcome = .error cut) := by
  intro horizon now state within
  dsimp only [call]
  cases cutting : horizon.cut? (now + (authority.accept correlation asked state).delay) with
  | none =>
      refine ⟨⟨[.heard authority now correlation asked state], ?_, rfl, now, ?_⟩, ?_⟩
      · exact .heard (Nat.le_refl now) (.silence (Nat.le_refl _))
      · exact Or.inl ⟨(authority.reply correlation asked state).1, rfl, rfl⟩
      · exact fun _ _ => cutting
  | some cut =>
      refine ⟨⟨[.dropped now correlation asked], ?_, rfl, now, ?_⟩, ?_⟩
      · exact .dropped (Nat.le_refl now) (.silence (Nat.le_add_right now _))
      · exact Or.inr ⟨cut.2, rfl, rfl⟩
      · exact fun _ given => nomatch given

/-- The dialogue of a sequence is that of the first operation and, unless it is cut off,
that of the second behind it.
-/
theorem Leads.bind {first : Timed σ ε α} {second : α → Timed σ ε β}
    {before : List Exchange → Except ε α → Prop}
    {behind : α → List Exchange → Except ε β → Prop}
    (head : first.Leads authority before)
    (tail : ∀ value, (second value).Leads authority (behind value))
    : (first >>= second).Leads authority fun history outcome =>
        (∃ value early late,
          history = early ++ late ∧ before early (.ok value) ∧ behind value late outcome)
        ∨ (∃ cut, before history (.error cut) ∧ outcome = .error cut) := by
  intro horizon now state within
  obtain ⟨⟨early, dialogue, calls, holds⟩, still⟩ := head horizon now state within
  change (first.andThen second horizon now state).Led authority now state _
    ∧ ∀ value,
        (first.andThen second horizon now state).outcome = .ok value
        → horizon.cut? (now + (first.andThen second horizon now state).elapsed) = none
  unfold andThen
  cases ending : first horizon now state with
  | mk outcome elapsed made between =>
      rw [ending] at dialogue calls holds still
      cases outcome with
      | error cut =>
          exact ⟨⟨early, dialogue, calls, Or.inr ⟨cut, holds, rfl⟩⟩,
            fun _ given => nomatch given⟩
      | ok value =>
          obtain ⟨⟨late, following, more, result⟩, last⟩ :=
            tail value horizon (now + elapsed) between (still value rfl)
          dsimp only at dialogue calls
          simp only [← Nat.add_assoc]
          refine ⟨⟨early ++ late, ?_, ?_, Or.inl ⟨value, early, late, rfl, holds, result⟩⟩,
            last⟩
          · simp only [← Nat.add_assoc]
            exact dialogue.append following
          · rw [List.map_append, calls, more]

/-- The dialogue of a sequence that nothing cuts off is that of the first operation and, unless it
fails, that of the second behind it.
-/
theorem led_bind {φ : Type} {first : ExceptT φ (Timed σ Empty) α}
    {second : α → ExceptT φ (Timed σ Empty) β} {now : Nat} {state : σ}
    {before : List Exchange → Except Empty (Except φ α) → Prop}
    {behind : α → List Exchange → Except Empty (Except φ β) → Prop}
    (head : (ExceptT.run first .never now state).Led authority now state before)
    (tail
      : ∀ value later between,
          (ExceptT.run (second value) .never later between).Led authority later between
            (behind value))
    : (ExceptT.run (first >>= second) .never now state).Led authority now state
        fun history outcome =>
          (∃ value early late,
            history = early ++ late
            ∧ before early (.ok (.ok value))
            ∧ behind value late outcome)
          ∨ (∃ failure,
              before history (.ok (.error failure)) ∧ outcome = .ok (.error failure)) := by
  obtain ⟨early, dialogue, calls, holds⟩ := head
  rw [Ended.outcome_eq] at holds
  cases ending : (ExceptT.run first .never now state).value with
  | error failure =>
      rw [ending] at holds
      rw [run_bind_of_error ending]
      exact ⟨early, dialogue, calls, Or.inr ⟨failure, holds, rfl⟩⟩
  | ok value =>
      rw [ending] at holds
      rw [run_bind_of_ok ending]
      obtain ⟨late, following, more, result⟩ :=
        tail value (now + (ExceptT.run first .never now state).elapsed)
          (ExceptT.run first .never now state).state
      refine ⟨early ++ late, ?_, ?_, Or.inl ⟨value, early, late, rfl, holds, result⟩⟩
      · simp only [← Nat.add_assoc]
        exact dialogue.append following
      · rw [List.map_append, calls, more]

end Timed

namespace Operation

variable {authority : Authority σ}

/-- What a function makes of the time leads the empty dialogue. -/
theorem led_atTime (result : Nat → Except Fault α) (now : Nat) (state : σ)
    : ((atTime result).runAt now state).Led authority now state
        fun history outcome => history = [] ∧ outcome = .ok (result now) :=
  ⟨[], .silence (Nat.le_add_right now _), rfl, rfl, rfl⟩

/-- A known result leads the empty dialogue. -/
theorem led_ofResult (result : Except Fault α) (now : Nat) (state : σ)
    : ((ofResult result).runAt now state).Led authority now state
        fun history outcome => history = [] ∧ outcome = .ok result :=
  led_atTime (fun _ => result) now state

/-- The dialogue of a sequence of operations. -/
theorem led_bind {first : Operation σ α} {second : α → Operation σ β} {now : Nat} {state : σ}
    {before : List Exchange → Except Empty (Except Fault α) → Prop}
    {behind : α → List Exchange → Except Empty (Except Fault β) → Prop}
    (head : (first.runAt now state).Led authority now state before)
    (tail
      : ∀ value later between,
          ((second value).runAt later between).Led authority later between (behind value))
    : ((first >>= second).runAt now state).Led authority now state fun history outcome =>
        (∃ value early late,
          history = early ++ late ∧ before early (.ok (.ok value)) ∧ behind value late outcome)
        ∨ (∃ fault, before history (.ok (.error fault)) ∧ outcome = .ok (.error fault)) :=
  Timed.led_bind head tail

end Operation

end ObjectGrants
