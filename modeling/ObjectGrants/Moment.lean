/-!
Moments of the calendar, as seconds and nanoseconds since the start of 1970, and the clock
that tells them in the course of a run.
-/

namespace ObjectGrants

/-- A moment of the calendar. -/
structure Moment where
  seconds : Int
  nanos : Nat
  deriving DecidableEq, Repr

namespace Moment

/-- The order of time. -/
def le (a b : Moment) : Bool :=
  a.seconds < b.seconds || (a.seconds == b.seconds && a.nanos ≤ b.nanos)

/-- The first second of the calendar, at the start of its first year. -/
def firstSecond : Int := -8334601228800

/-- The last second of the calendar, at the end of its last year. -/
def lastSecond : Int := 8210266876799

/-- The moment of a number of seconds, if the calendar has it. -/
def ofSeconds? (seconds : Int) : Option Moment :=
  if firstSecond ≤ seconds ∧ seconds ≤ lastSecond then some ⟨seconds, 0⟩ else none

end Moment

/-- The clock of a run. The times of a run are counted in milliseconds from its start. -/
structure Clock where
  /-- The moment that the calendar shows at a time. It may be set while the run goes on. -/
  moment : Nat → Moment
  /-- The last time that a timer can be set to. -/
  lastTime : Nat

/-- The clock that shows one moment throughout. -/
def Clock.still (moment : Moment) (lastTime : Nat) : Clock where
  moment _ := moment
  lastTime := lastTime

end ObjectGrants
