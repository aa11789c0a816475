import ObjectGrants.Authority.Call

/-!
Operations that take time and make calls.

Time is counted in milliseconds. It passes only where an operation waits, so the time of
each call and of the end is an exact sum of delays. A horizon may cut an operation off while
it waits; what was under way then is dropped.
-/

namespace ObjectGrants

/-- The bounds of an operation's time. Asked about a later moment to go on at, a horizon
gives the earlier moment that ends the operation instead, if there is one, and the reason. -/
structure Horizon (ε : Type) where
  cut? : Nat → Option (Nat × ε)

/-- No bound. -/
def Horizon.never : Horizon Empty := ⟨fun _ => none⟩

/-- How an operation has ended: with what, after how long, with which calls, and what state
it left. -/
structure Ended (σ ε α : Type) where
  outcome : Except ε α
  elapsed : Nat
  calls : List CallRecord
  state : σ

/-- What an operation that no horizon cuts off has given. -/
def Ended.value {σ α : Type} (ended : Ended σ Empty α) : α :=
  match ended.outcome with
  | .ok value => value
  | .error cut => nomatch cut

/-- An operation on a state `σ`, started at some time within a horizon. -/
def Timed (σ ε α : Type) : Type :=
  Horizon ε → (now : Nat) → σ → Ended σ ε α

namespace Timed

variable {σ ε α β : Type}

/-- Ends at once. -/
def done (value : α) : Timed σ ε α := fun _ _ state =>
  { outcome := .ok value, elapsed := 0, calls := [], state }

/-- Goes on with a second operation where the first has ended. -/
def andThen (first : Timed σ ε α) (second : α → Timed σ ε β) : Timed σ ε β :=
  fun horizon now state =>
    let ended := first horizon now state
    match ended.outcome with
    | .error cut =>
        { outcome := .error cut, elapsed := ended.elapsed, calls := ended.calls
          state := ended.state }
    | .ok value =>
        let following := second value horizon (now + ended.elapsed) ended.state
        { following with
          elapsed := ended.elapsed + following.elapsed
          calls := ended.calls ++ following.calls }

instance : Monad (Timed σ ε) where
  pure := done
  bind := andThen

/-- Waits. -/
def pause (delay : Nat) : Timed σ ε Unit := fun horizon now state =>
  match horizon.cut? (now + delay) with
  | some (time, cut) => { outcome := .error cut, elapsed := time - now, calls := [], state }
  | none => { outcome := .ok (), elapsed := delay, calls := [], state }

/-- Makes a call and waits for the answer. The call counts as made even if the answer is not
waited for to the end. -/
def call (authority : Authority σ) (correlation : CorrelationId) (call : Call)
    : Timed σ ε (Except Fault call.endpoint.Reply) := fun horizon now state =>
  let pending := authority.accept correlation call state
  let calls : List CallRecord := [⟨now, correlation, call⟩]
  match horizon.cut? (now + pending.delay) with
  | some (time, cut) =>
      { outcome := .error cut, elapsed := time - now, calls, state := pending.state }
  | none =>
      let (answer, state) := pending.finish pending.state
      { outcome := .ok answer, elapsed := pending.delay, calls, state }

end Timed

/-- What stops a program in the place of a result. -/
inductive Panic where
  /-- A timer was to be set to a time that the clock does not reach. -/
  | timeOverflow
  deriving DecidableEq, Repr

/-- The wording of a panic. -/
def Panic.message : Panic → String
  | timeOverflow => "overflow when adding duration to instant"

/-- An operation that may fail and that nothing cuts off. -/
abbrev Operation (σ α : Type) := ExceptT Fault (Timed σ Empty) α

namespace Operation

variable {σ α : Type}

/-- The operation that a timed computation of a result is. -/
def ofTimed (timed : Timed σ Empty (Except Fault α)) : Operation σ α :=
  ExceptT.mk timed

/-- Gives a result that is already known. -/
def ofResult (result : Except Fault α) : Operation σ α :=
  ExceptT.mk (pure result)

/-- Gives what a function makes of the time that it is. -/
def atTime (result : Nat → Except Fault α) : Operation σ α :=
  ExceptT.mk fun _ now state =>
    { outcome := .ok (result now), elapsed := 0, calls := [], state }

/-- Runs an operation from time zero. -/
def start (operation : Operation σ α) (state : σ) : Ended σ Empty (Except Fault α) :=
  ExceptT.run operation Horizon.never 0 state

end Operation

end ObjectGrants
