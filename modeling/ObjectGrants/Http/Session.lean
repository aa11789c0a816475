import ObjectGrants.Http.Client
import ObjectGrants.Timed

/-!
Operations on an authority with which only some exchanges are known yet.

An operation is run on what is known. The first request that lacks its exchange is kept, and
every answer from there on is a fault that is not repeated, so the run ends soon and tells
which request to carry out at which time. With that exchange known, the next run takes the
same way up to there and gets further.
-/

namespace ObjectGrants.Http

/-- The exchanges that are still to be used, in the order of their requests, each with the
time it took. -/
structure Session where
  known : List (Nat × Exchange)
  /-- How many calls have been taken. -/
  calls : Nat := 0
  /-- The first request without an exchange, and the number of its call. -/
  asked : Option (Nat × Request) := none

namespace Session

/-- Gives the known exchanges one after the other. -/
def transport : Transport Session := fun request session =>
  match session.known with
  | (delay, exchange) :: known =>
      { delay, state := { session with known }, finish := fun session => (exchange, session) }
  | [] =>
      .immediate .failed { session with asked := session.asked.or (some (session.calls, request)) }

/-- The authority at a base URL, as far as it is known. -/
def authority (library : Library) (base : String) : Authority Session where
  accept correlation call session :=
    let pending := (Http.authority library base transport).accept correlation call session
    { delay := pending.delay
      state := { pending.state with calls := session.calls + 1 }
      finish := fun session =>
        let (answer, session) := pending.finish session
        if session.asked.isNone then (answer, session)
        else (.error (.malformed ⟨call.endpoint, correlation⟩ .noData), session) }

/-- How far an operation gets. -/
inductive Progress (α : Type) where
  | finished (value : α) (time : Nat)
  | asks (time : Nat) (request : Request)

/-- How far an operation gets on some known exchanges. -/
def advance {α : Type} (operation : Timed Session Empty α) (known : List (Nat × Exchange))
    : Progress α :=
  let ended := operation Horizon.never 0 { known }
  match ended.state.asked with
  | some (index, request) => .asks ((ended.calls[index]?.map (·.time)).getD 0) request
  | none => .finished ended.value ended.elapsed

end Session

end ObjectGrants.Http
