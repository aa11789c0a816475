import ObjectGrants.Proofs.Curtailment
import ObjectGrants.Proofs.GateWait

/-! A wait at the gate as a sequence of checks. Every check is what asking the gate once would
be at its start; the wait sleeps between them and ends with the first that decides, or at the
deadline. Where no timer can be set to the end of an interval, it ends in a panic instead.
-/

namespace ObjectGrants

namespace Gate

variable {σ : Type}

-----------------------------------------------------------------------------------------
-- The horizon of a wait
-----------------------------------------------------------------------------------------

theorem waitHorizon_none_passes (deadline time : Nat)
    : (waitHorizon deadline none).passes time = decide (time ≤ deadline) := by
  simp only [Horizon.passes, waitHorizon, Option.filter_none]
  split <;> simp <;> omega

theorem waitHorizon_none_ends (deadline : Nat)
    : (waitHorizon deadline none).Ends deadline .deadline where
  before time passes := by simpa [waitHorizon_none_passes] using passes
  behind time cut := by
    rw [waitHorizon_none_passes, decide_eq_false_iff_not] at cut
    omega
  cuts time cut := by
    rw [waitHorizon_none_passes, decide_eq_false_iff_not] at cut
    simp only [waitHorizon, Option.filter_none]
    rw [if_pos (by omega)]

theorem waitHorizon_some_passes {deadline moment : Nat} (within : moment ≤ deadline)
    (time : Nat)
    : (waitHorizon deadline (some moment)).passes time = decide (time < moment) := by
  simp only [Horizon.passes, waitHorizon, Option.filter_some]
  grind

theorem waitHorizon_some_ends {deadline moment : Nat} (within : moment ≤ deadline)
    : (waitHorizon deadline (some moment)).Ends moment .cancelled where
  before time passes := by
    rw [waitHorizon_some_passes within, decide_eq_true_iff] at passes
    omega
  behind time cut := by
    rw [waitHorizon_some_passes within, decide_eq_false_iff_not] at cut
    omega
  cuts time cut := by
    rw [waitHorizon_some_passes within, decide_eq_false_iff_not] at cut
    have reached : moment ≤ time := by omega
    simp [waitHorizon, Option.filter_some, reached, within]

/-- A cancellation that would come behind the deadline never comes. -/
theorem waitHorizon_late {deadline moment : Nat} (late : deadline < moment)
    : waitHorizon deadline (some moment) = waitHorizon deadline none := by
  have out : ¬ moment ≤ deadline := by omega
  simp [waitHorizon, Option.filter_some, out]

-----------------------------------------------------------------------------------------
-- One check after the other
-----------------------------------------------------------------------------------------

/-- A check of a wait: when it starts, and how it ends if nothing cuts it off. -/
structure Round (σ : Type) where
  start : Nat
  ended : Ended σ Empty (Except Fault Unit)

namespace Round

def finish (round : Round σ) : Nat := round.start + round.ended.elapsed

def result (round : Round σ) : Except Fault Unit := round.ended.value

/-- The statuses with which a check leaves the gate not ready. -/
def pending? (round : Round σ) : Option (List TokenStatus) :=
  match round.result with
  | .error (.notReady statuses) => some statuses
  | _ => none

theorem pending?_eq_some_iff {round : Round σ} {statuses : List TokenStatus}
    : round.pending? = some statuses ↔ round.result = .error (.notReady statuses) := by
  unfold pending?
  split <;> simp_all

/-- A wait that ends with a check and its result. -/
def waited (round : Round σ) : Waited σ :=
  { round.ended with outcome := .ok (round.result.map .ok) }

end Round

/-- A check behind which another one follows: it has left the gate not ready before the deadline,
and a timer can be set to the end of the interval behind it.
-/
structure GoesOn (gate : Gate σ) (clock : Clock) (deadline : Nat) (round : Round σ) : Prop where
  undecided : round.pending? ≠ none
  early : round.finish < deadline
  timed : round.finish + gate.pollInterval ≤ clock.lastTime

/-- A check behind which another one would follow if a timer could be set to the end of the
interval.
-/
structure Overflows (gate : Gate σ) (clock : Clock) (deadline : Nat) (round : Round σ)
    : Prop where
  undecided : round.pending? ≠ none
  early : round.finish < deadline
  untimed : clock.lastTime < round.finish + gate.pollInterval

/-- The check that starts at a time: the gate asked once, with its repetitions. -/
def roundAt (gate : Gate σ) (correlation : CorrelationId) (tokens : List String)
    (start : Nat) (state : σ)
    : Round σ where
  start := start
  ended := (gate.ensureReady correlation tokens).runAt start state

/-- The check that may follow another one, an interval later or at the deadline. -/
def nextRound (gate : Gate σ) (correlation : CorrelationId) (tokens : List String)
    (deadline : Nat) (round : Round σ)
    : Round σ :=
  gate.roundAt correlation tokens (min (round.finish + gate.pollInterval) deadline)
    round.ended.state

/-- Check number `k` behind a first one. -/
def rounds (gate : Gate σ) (correlation : CorrelationId) (tokens : List String)
    (deadline : Nat) (first : Round σ)
    : (k : Nat) → Round σ
  | 0 => first
  | k + 1 => gate.nextRound correlation tokens deadline
      (gate.rounds correlation tokens deadline first k)

/-- The checks behind the second one are those of the wait that begins with it. -/
theorem rounds_nextRound (gate : Gate σ) (correlation : CorrelationId) (tokens : List String)
    (deadline : Nat) (first : Round σ) (k : Nat)
    : gate.rounds correlation tokens deadline (gate.nextRound correlation tokens deadline first)
        k
      = gate.rounds correlation tokens deadline first (k + 1) := by
  induction k with
  | zero => rfl
  | succ k ih => rw [rounds, ih, rounds.eq_2 gate correlation tokens deadline first (k + 1)]

/-- The fault of a wait that is cut off: by a cancellation, or by the deadline. -/
def interrupted (correlation : CorrelationId) (last : Option (List TokenStatus))
    : Interruption → Fault
  | .cancelled => cancelled correlation
  | .deadline => overdue correlation last

/-- How a wait goes on from the start of a check. -/
inductive Proceeds (gate : Gate σ) (clock : Clock) (correlation : CorrelationId)
    (tokens : List String) (cancel : Option Nat) (deadline : Nat)
    (last : Option (List TokenStatus)) (moment : Nat) (reason : Interruption) (round : Round σ)
    : Waited σ → Prop where
  /-- The check decides, or ends too late for another one. -/
  | heard (passes : (waitHorizon deadline cancel).passes round.finish = true)
    (decides : ∀ statuses, round.pending? = some statuses → deadline ≤ round.finish)
    : Proceeds gate clock correlation tokens cancel deadline last moment reason round
        round.waited
  /-- The check is cut off. -/
  | dropped {final : σ} (cut : (waitHorizon deadline cancel).passes round.finish = false)
    : Proceeds gate clock correlation tokens cancel deadline last moment reason round
        ⟨.ok (.error (interrupted correlation last reason)), moment - round.start,
          round.ended.calls.filter ((waitHorizon deadline cancel).passes ·.time), final⟩
  /-- The interval behind the check does not fit into a timer. -/
  | overflowed (passes : (waitHorizon deadline cancel).passes round.finish = true)
    (overflows : gate.Overflows clock deadline round)
    : Proceeds gate clock correlation tokens cancel deadline last moment reason round
        { round.waited with outcome := .ok (.ok (.error .timeOverflow)) }
  /-- The sleep behind the check is cut off. -/
  | asleep {statuses} (passes : (waitHorizon deadline cancel).passes round.finish = true)
    (pending : round.pending? = some statuses) (goesOn : gate.GoesOn clock deadline round)
    (cut
      : (waitHorizon deadline cancel).passes
          (gate.nextRound correlation tokens deadline round).start = false)
    : Proceeds gate clock correlation tokens cancel deadline last moment reason round
        ⟨.ok (.error (cancelled correlation)), moment - round.start, round.ended.calls,
          round.ended.state⟩
  /-- Another check follows. -/
  | again {statuses} (passes : (waitHorizon deadline cancel).passes round.finish = true)
    (pending : round.pending? = some statuses) (goesOn : gate.GoesOn clock deadline round)
    (awake
      : (waitHorizon deadline cancel).passes
          (gate.nextRound correlation tokens deadline round).start = true)
    : Proceeds gate clock correlation tokens cancel deadline last moment reason round
        ({ round.ended with
            elapsed := (gate.nextRound correlation tokens deadline round).start - round.start
          }.followedBy
          (gate.waitFrom clock correlation tokens cancel deadline (some statuses)
            (gate.nextRound correlation tokens deadline round).start round.ended.state))

theorem Verdict.ofCheck_result (correlation : CorrelationId)
    (last : Option (List TokenStatus)) (round : Round σ)
    : Verdict.ofCheck correlation last (.ok round.ended.value)
      = match round.pending? with
        | some statuses => .pending statuses
        | none => .decided round.result := by
  unfold Round.pending?
  rw [← show round.result = round.ended.value from rfl]
  rcases round.result with (_ | _) | _ <;> rfl

/-- A wait that is not cut off at once begins with a check. -/
theorem waitFrom_proceeds (gate : Gate σ) (clock : Clock) (correlation : CorrelationId)
    (tokens : List String) {cancel : Option Nat} {deadline moment now : Nat}
    {reason : Interruption} (last : Option (List TokenStatus)) (state : σ)
    (ends : (waitHorizon deadline cancel).Ends moment reason)
    (start : (waitHorizon deadline cancel).passes now = true)
    : gate.Proceeds clock correlation tokens cancel deadline last moment reason
        (gate.roundAt correlation tokens now state)
        (gate.waitFrom clock correlation tokens cancel deadline last now state) := by
  rw [waitFrom]
  simp only [Horizon.cut?_of_passes start, Option.isSome_none, Bool.false_eq_true, if_false]
  rcases (gate.check_curtails correlation tokens).left state ends start with
    ⟨passes, check⟩ | ⟨cut, final, check⟩
  · let round := gate.roundAt correlation tokens now state
    have verdict := Verdict.ofCheck_result correlation last round
    have whole : gate.check correlation tokens .never now state = round.ended := rfl
    rw [check, whole]
    cases pending : round.pending? with
    | none =>
        rw [pending] at verdict
        dsimp only
        rw [verdict]
        exact .heard passes fun statuses some => by simp [round, pending] at some
    | some statuses =>
        have result := Round.pending?_eq_some_iff.mp pending
        have undecided : round.pending? ≠ none := by simp [pending]
        rw [pending] at verdict
        dsimp only
        rw [verdict]
        dsimp only
        rw [show now + round.ended.elapsed = round.finish from rfl]
        by_cases late : deadline ≤ round.finish
        · have shown
              : round.waited
                = { round.ended with outcome := .ok (.error (.notReady statuses)) } := by
            rw [Round.waited, result]
            rfl
          rw [if_pos late]
          exact shown ▸ .heard passes fun _ _ => late
        · rw [if_neg late]
          have early : round.finish < deadline := by omega
          by_cases overflow : clock.lastTime < round.finish + gate.pollInterval
          · rw [if_pos overflow]
            exact .overflowed passes ⟨undecided, early, overflow⟩
          · rw [if_neg overflow]
            have goesOn : gate.GoesOn clock deadline round := ⟨undecided, early, by omega⟩
            let wake := (gate.nextRound correlation tokens deadline round).start
            rw [show min (round.finish + gate.pollInterval) deadline = wake from rfl]
            cases awake : (waitHorizon deadline cancel).passes wake with
            | true =>
                rw [Horizon.cut?_of_passes awake]
                exact .again passes pending goesOn awake
            | false =>
                rw [ends.cuts wake awake]
                exact .asleep passes pending goesOn awake
  · rw [check]
    cases reason <;> exact .dropped cut

-----------------------------------------------------------------------------------------
-- A whole wait
-----------------------------------------------------------------------------------------

/-- A wait from its start, if a timer can be set to its deadline. -/
theorem waitUntilReady_start (gate : Gate σ) {clock : Clock} (correlation : CorrelationId)
    (tokens : List String) {timeout : Nat} (timed : timeout ≤ clock.lastTime)
    (cancel : Option Nat) (state : σ)
    : (gate.waitUntilReady clock correlation tokens timeout cancel).start state
      = gate.waitFrom clock correlation tokens cancel timeout none 0 state := by
  have moved : cancel.map (0 + ·) = cancel := by simp
  rw [Operation.start_eq, waitUntilReady_runAt, Nat.zero_add, moved, if_neg (by omega)]

/-- A wait whose deadline does not fit into a timer is over at once, by a panic. -/
theorem waitUntilReady_untimed (gate : Gate σ) {clock : Clock} (correlation : CorrelationId)
    (tokens : List String) {timeout : Nat} (untimed : clock.lastTime < timeout)
    (cancel : Option Nat) (state : σ)
    : (gate.waitUntilReady clock correlation tokens timeout cancel).start state
      = ⟨.ok (.ok (.error .timeOverflow)), 0, [], state⟩ := by
  rw [Operation.start_eq, waitUntilReady_runAt, Nat.zero_add, if_pos untimed]

/-- The statuses that a wait has been left with before check `k`. -/
def lastPending? (check : Nat → Round σ) (last : Option (List TokenStatus))
    : (k : Nat) → Option (List TokenStatus)
  | 0 => last
  | k + 1 => (check k).pending?

/-- The calls of the first checks of a wait. -/
def callsOf (check : Nat → Round σ) (count : Nat) : List CallRecord :=
  (List.range count).flatMap fun k => (check k).ended.calls

/-- A wait makes the checks up to number `count`, each of which but the last is followed by
another. The last one ends the wait with its own result or by a panic, or is still under way
at the deadline.
-/
structure Concludes (gate : Gate σ) (clock : Clock) (correlation : CorrelationId)
    (check : Nat → Round σ) (deadline : Nat) (last : Option (List TokenStatus))
    (now count : Nat) (wait : Waited σ)
    : Prop where
  goesOn : ∀ k < count, gate.GoesOn clock deadline (check k)
  calls : wait.calls = (callsOf check (count + 1)).filter (·.time ≤ deadline)
  closes
    : ((check count).finish ≤ deadline
        ∧ ((check count).pending? ≠ none → deadline ≤ (check count).finish)
        ∧ wait.value = (check count).result.map .ok
        ∧ now + wait.elapsed = (check count).finish)
      ∨ (gate.Overflows clock deadline (check count)
        ∧ wait.value = .ok (.error .timeOverflow)
        ∧ now + wait.elapsed = (check count).finish)
      ∨ (deadline < (check count).finish
        ∧ wait.value = .error (overdue correlation (lastPending? check last count))
        ∧ now + wait.elapsed = deadline)

theorem callsOf_succ (check : Nat → Round σ) (count : Nat)
    : callsOf check (count + 1)
      = (check 0).ended.calls ++ callsOf (fun k => check (k + 1)) count := by
  unfold callsOf
  rw [List.range_succ_eq_map, List.flatMap_cons, List.flatMap_map]

/-- A check that is followed by another stands in front of the checks that a wait makes from
then on.
-/
theorem Concludes.prepend {gate : Gate σ} {clock : Clock} {correlation : CorrelationId}
    {check : Nat → Round σ} {deadline now wake count : Nat} {last statuses} {rest : Waited σ}
    (pending : (check 0).pending? = some statuses)
    (first : gate.GoesOn clock deadline (check 0))
    (spans : (check 0).ended.Spans (check 0).start) (le : now ≤ wake)
    (concludes
      : gate.Concludes clock correlation (fun k => check (k + 1)) deadline (some statuses) wake
          count rest)
    : gate.Concludes clock correlation check deadline last now (count + 1)
        ({ (check 0).ended with elapsed := wake - now }.followedBy rest) := by
  have passes : ∀ record ∈ (check 0).ended.calls, record.time ≤ deadline := by
    intro record member
    have := (spans record member).2
    have : (check 0).finish = (check 0).start + (check 0).ended.elapsed := rfl
    have := first.early
    omega
  constructor
  · intro k lt
    cases k with
    | zero => exact first
    | succ k => exact concludes.goesOn k (by omega)
  · rw [callsOf_succ, List.filter_append, ← concludes.calls,
      List.filter_eq_self.mpr (by simpa using passes)]
    rfl
  · have sum : now + (wake - now + rest.elapsed) = wake + rest.elapsed := by omega
    have carried
        : lastPending? (fun k => check (k + 1)) (some statuses) count
          = lastPending? check last (count + 1) := by
      cases count with
      | zero => exact pending.symm
      | succ count => rfl
    rcases concludes.closes with
      ⟨inTime, final, value, ends⟩ | ⟨overflows, value, ends⟩ | ⟨late, value, ends⟩
    · exact Or.inl ⟨inTime, final, value, sum.trans ends⟩
    · exact Or.inr (Or.inl ⟨overflows, value, sum.trans ends⟩)
    · rw [carried] at value
      exact Or.inr (Or.inr ⟨late, value, sum.trans ends⟩)

/-- A wait that is never cancelled is a sequence of checks, by induction on the time that is
left until the deadline.
-/
theorem waitFrom_concludes (gate : Gate σ) (clock : Clock) (correlation : CorrelationId)
    (tokens : List String) {deadline now : Nat} (last : Option (List TokenStatus)) (state : σ)
    (within : now ≤ deadline)
    : ∃ count,
        gate.Concludes clock correlation
          (gate.rounds correlation tokens deadline
            (gate.roundAt correlation tokens now state))
          deadline last now count
          (gate.waitFrom clock correlation tokens none deadline last now state) := by
  induction left : deadline - now using Nat.strongRecOn generalizing last now state with
  | _ left ih =>
  have start : (waitHorizon deadline none).passes now = true := by
    simpa [waitHorizon_none_passes] using within
  let round := gate.roundAt correlation tokens now state
  have spans : round.ended.Spans round.start :=
    (gate.check_curtails (ε := Empty) correlation tokens).spans now state
  have calls : callsOf (gate.rounds correlation tokens deadline round) 1 = round.ended.calls :=
    List.append_nil _
  have kept (passes : (waitHorizon deadline none).passes round.finish = true)
      : round.ended.calls
        = (callsOf (gate.rounds correlation tokens deadline round) 1).filter
            (·.time ≤ deadline) := by
    have kept := spans.filter_passes (waitHorizon_none_ends deadline) passes
    simp only [waitHorizon_none_passes] at kept
    exact kept.symm.trans (congrArg _ calls.symm)
  have step
      : gate.Proceeds clock correlation tokens none deadline last deadline .deadline round _ :=
    gate.waitFrom_proceeds clock correlation tokens last state (waitHorizon_none_ends deadline)
      start
  generalize gate.waitFrom clock correlation tokens none deadline last now state = wait at step ⊢
  cases step with
  | heard passes final =>
      have inTime : round.finish ≤ deadline := by simpa [waitHorizon_none_passes] using passes
      refine ⟨0, nofun, kept passes, Or.inl ⟨inTime, ?_, rfl, rfl⟩⟩
      intro pending
      obtain ⟨statuses, some⟩ := Option.ne_none_iff_exists'.mp pending
      exact final statuses some
  | dropped cut =>
      simp only [waitHorizon_none_passes, decide_eq_false_iff_not] at cut
      have late : deadline < round.finish := by omega
      refine ⟨0, nofun, ?_, Or.inr (Or.inr ⟨late, rfl, Nat.add_sub_cancel' within⟩)⟩
      simp only [calls, waitHorizon_none_passes, round]
  | overflowed passes overflows =>
      exact ⟨0, nofun, kept passes, Or.inr (Or.inl ⟨overflows, rfl, rfl⟩)⟩
  | asleep passes pending goesOn cut =>
      -- Without a cancellation nothing ends the sleep, which lasts until the deadline at most.
      rw [waitHorizon_none_passes, decide_eq_false_iff_not] at cut
      exact absurd (Nat.min_le_right _ _) cut
  | @again statuses passes pending goesOn awake =>
      let next := gate.nextRound correlation tokens deadline round
      have early := goesOn.early
      have wakes : next.start = min (round.finish + gate.pollInterval) deadline := rfl
      have slept : now < next.start := by
        have := gate.pollInterval_pos
        have : round.finish = now + round.ended.elapsed := rfl
        omega
      obtain ⟨count, concludes⟩ := ih (deadline - next.start) (by omega) (some statuses)
        round.ended.state (by omega) rfl
      refine ⟨count + 1, .prepend pending goesOn spans (Nat.le_of_lt slept) ?_⟩
      have shifted
          : gate.rounds correlation tokens deadline next
            = fun k => gate.rounds correlation tokens deadline round (k + 1) :=
        funext (gate.rounds_nextRound correlation tokens deadline round)
      rw [← shifted]
      exact concludes

theorem waitUntilReady_concludes (gate : Gate σ) {clock : Clock} (correlation : CorrelationId)
    (tokens : List String) {timeout : Nat} (timed : timeout ≤ clock.lastTime) (state : σ)
    : ∃ count,
        gate.Concludes clock correlation
          (gate.rounds correlation tokens timeout (gate.roundAt correlation tokens 0 state))
          timeout none 0 count
          ((gate.waitUntilReady clock correlation tokens timeout none).start state) := by
  rw [gate.waitUntilReady_start correlation tokens timed]
  exact gate.waitFrom_concludes clock correlation tokens none state (Nat.zero_le timeout)

/-- A wait is over by its deadline. -/
theorem Concludes.elapsed_le {gate : Gate σ} {clock : Clock} {correlation : CorrelationId}
    {check : Nat → Round σ} {deadline now count : Nat} {last : Option (List TokenStatus)}
    {wait : Waited σ}
    (concludes : gate.Concludes clock correlation check deadline last now count wait)
    : now + wait.elapsed ≤ deadline := by
  rcases concludes.closes with ⟨inTime, _, _, ends⟩ | ⟨overflows, _, ends⟩ | ⟨_, _, ends⟩
  · omega
  · have := overflows.early
    omega
  · omega

end Gate

end ObjectGrants
