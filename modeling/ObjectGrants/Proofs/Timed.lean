import ObjectGrants.Timed

/-! Laws of timed operations: sequencing is associative, ending at once is its unit, and a
failed step is the last one of an operation.
-/

namespace ObjectGrants

-----------------------------------------------------------------------------------------
-- Outcomes without a horizon
-----------------------------------------------------------------------------------------

/-- Nothing cuts off an operation without a horizon, so its outcome is a value. -/
theorem Ended.outcome_eq {σ α : Type} (ended : Ended σ Empty α)
    : ended.outcome = .ok ended.value := by
  unfold Ended.value
  cases ended.outcome with
  | ok value => rfl
  | error cut => exact cut.elim

-----------------------------------------------------------------------------------------
-- Sequencing
-----------------------------------------------------------------------------------------

namespace Timed

variable {σ ε α β γ : Type}

/-- An operation after one that ends at once starts where that one started. -/
theorem done_andThen (value : α) (second : α → Timed σ ε β)
    : (done value).andThen second = second value := by
  funext horizon now state
  simp only [andThen, done, Nat.add_zero, Nat.zero_add, List.nil_append]

/-- Ending at once adds nothing to an operation before it. -/
theorem andThen_done (first : Timed σ ε α) : first.andThen done = first := by
  funext horizon now state
  unfold andThen done
  cases ending : first horizon now state with
  | mk outcome elapsed calls final => cases outcome <;> simp

/-- Sequencing is associative, by cases on where the first cut falls. -/
theorem andThen_assoc (first : Timed σ ε α) (second : α → Timed σ ε β)
    (third : β → Timed σ ε γ)
    : (first.andThen second).andThen third
      = first.andThen (fun value => (second value).andThen third) := by
  funext horizon now state
  unfold andThen
  cases first horizon now state with
  | mk outcome elapsed calls between =>
      cases outcome with
      | error cut => rfl
      | ok value =>
          simp only
          cases reached : second value horizon (now + elapsed) between with
          | mk outcome later more final =>
              cases outcome with
              | error cut => rfl
              | ok value => simp only [Nat.add_assoc, List.append_assoc]

instance : LawfulMonad (Timed σ ε) :=
  LawfulMonad.mk' (Timed σ ε) andThen_done done_andThen andThen_assoc

/-- However an operation is run, it makes no more calls than `count`. -/
def MakesAtMost (count : Nat) (operation : Timed σ ε α) : Prop :=
  ∀ horizon now state, (operation horizon now state).calls.length ≤ count

theorem makesAtMost_pure (value : α) : (pure value : Timed σ ε α).MakesAtMost 0 :=
  fun _ _ _ => Nat.le_refl 0

theorem makesAtMost_pause (delay : Nat) : (pause delay : Timed σ ε Unit).MakesAtMost 0 := by
  intro horizon now state
  unfold pause
  split <;> exact Nat.le_refl 0

theorem makesAtMost_call (authority : Authority σ) (correlation : CorrelationId)
    (asked : Call)
    : (call authority correlation asked : Timed σ ε _).MakesAtMost 1 := by
  intro horizon now state
  dsimp only [call]
  split <;> exact Nat.le_refl 1

theorem MakesAtMost.mono {fewer more : Nat} {operation : Timed σ ε α}
    (bounded : operation.MakesAtMost fewer) (le : fewer ≤ more)
    : operation.MakesAtMost more :=
  fun horizon now state => Nat.le_trans (bounded horizon now state) le

/-- The calls of a sequence are those of its steps. -/
theorem MakesAtMost.bind {first : Timed σ ε α} {second : α → Timed σ ε β} {early late : Nat}
    (head : first.MakesAtMost early) (tail : ∀ value, (second value).MakesAtMost late)
    : (first >>= second).MakesAtMost (early + late) := by
  intro horizon now state
  change (first.andThen second horizon now state).calls.length ≤ early + late
  have before := head horizon now state
  unfold andThen
  cases ending : first horizon now state with
  | mk outcome elapsed calls between =>
      rw [ending] at before
      dsimp only at before
      cases outcome with
      | error cut =>
          dsimp only
          omega
      | ok value =>
          have behind := tail value horizon (now + elapsed) between
          simp only [List.length_append]
          omega

end Timed

-----------------------------------------------------------------------------------------
-- Operations that nothing cuts off
-----------------------------------------------------------------------------------------

namespace Timed

variable {σ φ α β : Type}

/-- A result that is known before a sequence decides whether the rest is done. -/
theorem known_bind (result : Except φ α) (following : α → ExceptT φ (Timed σ Empty) β)
    : (ExceptT.mk (pure result) >>= following)
      = match result with
        | .ok value => following value
        | .error failure => ExceptT.mk (pure (.error failure)) := by
  have law := done_andThen (ε := Empty) (σ := σ) result (ExceptT.bindCont following)
  cases result with
  | ok value => exact law
  | error failure => exact law

variable {first : ExceptT φ (Timed σ Empty) α}
  {following : α → ExceptT φ (Timed σ Empty) β} {now : Nat} {state : σ}

/-- A failure of the first step ends a sequence with the calls made so far. -/
theorem run_bind_of_error {failure : φ}
    (failed : (ExceptT.run first Horizon.never now state).value = .error failure)
    : ExceptT.run (first >>= following) Horizon.never now state
      = { ExceptT.run first Horizon.never now state with outcome := .ok (.error failure) } := by
  change andThen (ExceptT.run first) (ExceptT.bindCont following) _ now state = _
  simp only [andThen]
  rw [Ended.outcome_eq, failed]
  change Ended.mk _ ((ExceptT.run first Horizon.never now state).elapsed + 0) (_ ++ []) _ = _
  rw [Nat.add_zero, List.append_nil]
  rfl

/-- A success of the first step lets the second go on from the time and the state that are
reached.
-/
theorem run_bind_of_ok {value : α}
    (succeeded : (ExceptT.run first Horizon.never now state).value = .ok value)
    : ExceptT.run (first >>= following) Horizon.never now state
      = let reached := ExceptT.run first Horizon.never now state
        let rest :=
          ExceptT.run (following value) Horizon.never (now + reached.elapsed) reached.state
        { rest with
          elapsed := reached.elapsed + rest.elapsed
          calls := reached.calls ++ rest.calls } := by
  change andThen (ExceptT.run first) (ExceptT.bindCont following) _ now state = _
  simp only [andThen]
  rw [Ended.outcome_eq, succeeded]
  rfl

end Timed

-----------------------------------------------------------------------------------------
-- Operations that may fail
-----------------------------------------------------------------------------------------

namespace Operation

variable {σ α β : Type}

/-- Runs an operation at some time, without a horizon. -/
def runAt (operation : Operation σ α) (now : Nat) (state : σ)
    : Ended σ Empty (Except Fault α) :=
  ExceptT.run operation Horizon.never now state

theorem start_eq (operation : Operation σ α) (state : σ)
    : operation.start state = operation.runAt 0 state :=
  rfl

/-- A known result takes no time and makes no call before what follows it. -/
theorem ofResult_bind (result : Except Fault α) (following : α → Operation σ β)
    : (ofResult result >>= following)
      = match result with
        | .ok value => following value
        | .error fault => ofResult (.error fault) := by
  refine (Timed.known_bind result following).trans ?_
  cases result <;> rfl

/-- What a function makes of the time is a known result once an operation is started. -/
theorem runAt_atTime_bind (result : Nat → Except Fault α) (following : α → Operation σ β)
    (now : Nat) (state : σ)
    : (atTime result >>= following).runAt now state
      = (ofResult (result now) >>= following).runAt now state :=
  rfl

/-- Sequencing in two steps: a failure of the first ends the run with the calls made so far,
and a success lets the second go on from the time and the state that are reached.
-/
theorem runAt_bind (first : Operation σ α) (following : α → Operation σ β) (now : Nat)
    (state : σ)
    : (first >>= following).runAt now state
      = let reached := first.runAt now state
        match reached.value with
        | .error fault => { reached with outcome := .ok (.error fault) }
        | .ok value =>
            let rest := (following value).runAt (now + reached.elapsed) reached.state
            { rest with
              elapsed := reached.elapsed + rest.elapsed
              calls := reached.calls ++ rest.calls } := by
  dsimp only
  cases reached : (first.runAt now state).value with
  | error fault => exact Timed.run_bind_of_error reached
  | ok value => exact Timed.run_bind_of_ok reached

/-- A result that is computed at the end of an operation, from the time that it is then, changes
its outcome and nothing else.
-/
theorem runAt_bind_atTime (first : Operation σ α) (last : α → Nat → Except Fault β) (now : Nat)
    (state : σ)
    : (first >>= fun value => atTime (last value)).runAt now state
      = let reached := first.runAt now state
        { reached with
          outcome := .ok (reached.value.bind fun value => last value (now + reached.elapsed)) }
      := by
  rw [runAt_bind]
  dsimp only
  cases (first.runAt now state).value with
  | error fault => rfl
  | ok value =>
      change Ended.mk _ ((first.runAt now state).elapsed + 0) (_ ++ []) _ = _
      rw [Nat.add_zero, List.append_nil]
      rfl

/-- A result that is computed at the end of an operation changes its outcome and nothing else.
-/
theorem runAt_bind_ofResult (first : Operation σ α) (last : α → Except Fault β) (now : Nat)
    (state : σ)
    : (first >>= fun value => ofResult (last value)).runAt now state
      = { first.runAt now state with
          outcome := .ok ((first.runAt now state).value.bind last) } :=
  runAt_bind_atTime first (fun value _ => last value) now state

/-- The value of an operation whose result is only put into another form. -/
theorem value_map (operation : Operation σ α) (form : α → β) (state : σ)
    : ((operation >>= fun value => pure (form value)).start state).value
      = (operation.start state).value.map form := by
  have whole := runAt_bind_ofResult operation (fun value => .ok (form value)) 0 state
  refine (congrArg Ended.value whole).trans ?_
  change Except.bind (operation.start state).value _ = _
  cases (operation.start state).value <;> rfl

end Operation

end ObjectGrants
