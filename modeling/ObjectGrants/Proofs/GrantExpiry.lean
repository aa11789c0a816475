import Mathlib.Data.Prod.Lex
import ObjectGrants.Broker
import ObjectGrants.Proofs.RetryAttempts

/-! Uploads under grants that expire. A grant expires at the start of a second, or has always been
expired if the calendar does not have that second. Until then the object is put to the URL of the
grant, as it is and as often as the policy says.
-/

namespace ObjectGrants

-----------------------------------------------------------------------------------------
-- The order of time
-----------------------------------------------------------------------------------------

namespace Moment

/-- Where a moment lies: in a second, and so many nanoseconds behind its start. -/
def place (moment : Moment) : ℤ ×ₗ ℕ :=
  toLex (moment.seconds, moment.nanos)

/-- The order of time is that of the seconds, then that of the nanoseconds. -/
theorem le_iff {early late : Moment} : early.le late = true ↔ early.place ≤ late.place := by
  rw [Prod.Lex.le_iff]
  simp [le, place]

/-- The calendar has a second. -/
def InCalendar (second : Int) : Prop :=
  firstSecond ≤ second ∧ second ≤ lastSecond

theorem ofSeconds?_of_inCalendar {second : Int} (within : InCalendar second)
    : ofSeconds? second = some ⟨second, 0⟩ :=
  if_pos within

theorem ofSeconds?_of_not_inCalendar {second : Int} (beyond : ¬ InCalendar second)
    : ofSeconds? second = none :=
  if_neg beyond

end Moment

-----------------------------------------------------------------------------------------
-- Expiry
-----------------------------------------------------------------------------------------

namespace SignedGrant

/-- A grant has expired exactly if the calendar does not have the second of its expiry, or that
second has begun.
-/
theorem isExpiredAt_iff {grant : SignedGrant} {now : Moment}
    : grant.isExpiredAt now = true
      ↔ ¬ Moment.InCalendar grant.expiry.toInt
        ∨ Moment.place ⟨grant.expiry.toInt, 0⟩ ≤ now.place := by
  rw [isExpiredAt, expiresAt?]
  by_cases within : Moment.InCalendar grant.expiry.toInt
  · rw [Moment.ofSeconds?_of_inCalendar within, ← Moment.le_iff]
    simp only [within, not_true, false_or]
  · rw [Moment.ofSeconds?_of_not_inCalendar within]
    exact iff_of_true rfl (Or.inl within)

/-- No grant comes back to life. -/
theorem isExpiredAt_later {grant : SignedGrant} {now later : Moment}
    (behind : now.place ≤ later.place) (expired : grant.isExpiredAt now = true)
    : grant.isExpiredAt later = true := by
  rw [isExpiredAt_iff] at expired ⊢
  exact expired.imp_right fun begun => le_trans begun behind

end SignedGrant

-----------------------------------------------------------------------------------------
-- Uploads
-----------------------------------------------------------------------------------------

variable {σ : Type}

/-- Attempts of a call make that call each, when they start. -/
theorem RetryPolicy.attemptsBehind_calls (policy : RetryPolicy) (authority : Authority σ)
    (correlation : CorrelationId) (call : Call) (retry now : Nat) (state : σ) (k : Nat)
    : let operation := Timed.call authority correlation call
      let attempt := policy.attemptsBehind operation retry (.of operation now state) k
      attempt.ended.calls = [⟨attempt.start, correlation, call⟩] := by
  cases k <;> rfl

/-- The calls of attempts that make one call each are those calls, one for each attempt. -/
theorem RetryPolicy.Consists.calls_eq_map {α : Type} {attempt : Nat → Attempt σ α}
    {last now : Nat} {whole : Ended σ Empty (Except Fault α)}
    (consists : Consists attempt last now whole) {record : Nat → CallRecord}
    (once : ∀ k, (attempt k).ended.calls = [record k])
    : whole.calls = (List.range (last + 1)).map record := by
  rw [consists.calls, List.map_eq_flatMap]
  exact List.flatMap_congr fun k _ => once k

namespace Broker

/-- An upload under a grant that has expired when it begins is refused without a call. -/
theorem putObject_of_expired (broker : Broker σ) (correlation : CorrelationId) {clock : Clock}
    {grant : SignedGrant} {start : Nat}
    (expired : grant.isExpiredAt (clock.moment start) = true) (contentType : String)
    (body : List UInt8) (state : σ)
    : (broker.putObject correlation clock grant contentType body).runAt start state
      = ⟨.ok (.error (.invalidRequest (.expiredGrant grant.identifier))), 0, [], state⟩ := by
  rw [putObject, Operation.runAt_atTime_bind, checkExpiry, if_pos expired]
  rfl

/-- An upload under a grant that has not expired when it begins repeats one call. -/
theorem putObject_runAt (broker : Broker σ) (correlation : CorrelationId) {clock : Clock}
    {grant : SignedGrant} {start : Nat}
    (current : grant.isExpiredAt (clock.moment start) = false) (contentType : String)
    (body : List UInt8) (state : σ)
    : (broker.putObject correlation clock grant contentType body).runAt start state
      = broker.policy.run (Timed.call broker.authority correlation
          (.objectPut grant.signedUrl contentType body)) .never start state := by
  rw [putObject, Operation.runAt_atTime_bind, checkExpiry, if_neg (by simp [current]),
    Operation.ofResult_bind]
  rfl

/-- An upload under a grant that has not expired when it begins consists of attempts to put the
object.
-/
theorem putObject_of_current (broker : Broker σ) (correlation : CorrelationId) {clock : Clock}
    {grant : SignedGrant} {start : Nat}
    (current : grant.isExpiredAt (clock.moment start) = false) (contentType : String)
    (body : List UInt8) (state : σ)
    : let call := .objectPut grant.signedUrl contentType body
      let operation := Timed.call broker.authority correlation call
      let attempt := broker.policy.attemptsBehind operation 0 (.of operation start state)
      let put := (broker.putObject correlation clock grant contentType body).runAt start state
      ∃ last,
        IsLeast {k | broker.policy.Settles (broker.policy.retries + 1) attempt k} last
        ∧ RetryPolicy.Consists attempt last start put
        ∧ put.calls
          = (List.range (last + 1)).map fun k => ⟨(attempt k).start, correlation, call⟩ := by
  intro call operation attempt put
  have run : put = broker.policy.run operation .never start state :=
    broker.putObject_runAt correlation current contentType body state
  obtain ⟨last, least, consists⟩ :=
    broker.policy.attempts_consists operation 0 broker.policy.retries start state
  rw [run]
  exact ⟨last, least, consists, consists.calls_eq_map fun k =>
    broker.policy.attemptsBehind_calls broker.authority correlation call 0 start state k⟩

/-- A grant has expired exactly if the calendar does not have the second of its expiry or that
second has begun, and then it stays expired. An upload that begins under it then is refused
without a call; before, every call puts the whole object to the URL of the grant, and the
attempts go on up to the first that succeeds, fails for good or is the last one allowed, whose
answer is given.
-/
theorem putObject_untilExpiry (broker : Broker σ) (correlation : CorrelationId) (clock : Clock)
    (grant : SignedGrant) (contentType : String) (body : List UInt8) (start : Nat) (state : σ)
    : let now := clock.moment start
      let put := (broker.putObject correlation clock grant contentType body).runAt start state
      (grant.isExpiredAt now = true
        ↔ ¬ Moment.InCalendar grant.expiry.toInt
          ∨ Moment.place ⟨grant.expiry.toInt, 0⟩ ≤ now.place)
      ∧ (∀ later,
          now.place ≤ later.place
          → grant.isExpiredAt now = true
          → grant.isExpiredAt later = true)
      ∧ (grant.isExpiredAt now = true
        → put
          = ⟨.ok (.error (.invalidRequest (.expiredGrant grant.identifier))), 0, [], state⟩)
      ∧ (grant.isExpiredAt now = false
        → let call := .objectPut grant.signedUrl contentType body
          let operation := Timed.call broker.authority correlation call
          let attempt := broker.policy.attemptsBehind operation 0 (.of operation start state)
          ∃ last,
            IsLeast {k | broker.policy.Settles (broker.policy.retries + 1) attempt k} last
            ∧ RetryPolicy.Consists attempt last start put
            ∧ put.calls
              = (List.range (last + 1)).map fun k => ⟨(attempt k).start, correlation, call⟩) :=
  ⟨SignedGrant.isExpiredAt_iff, fun _ => SignedGrant.isExpiredAt_later,
    fun expired => broker.putObject_of_expired correlation expired contentType body state,
    fun current => broker.putObject_of_current correlation current contentType body state⟩

end Broker

/-- A grant has not expired a nanosecond before its second begins, and seconds that the calendar
does not have have passed.
-/
example
    : let expired (expiry : Int64) (now : Moment) :=
        (SignedGrant.mk "a" "http://put.test/a" "t" expiry).isExpiredAt now
      (expired 60 ⟨59, 999999999⟩, expired 60 ⟨60, 0⟩) = (false, true)
      ∧ (expired 8210266876800 ⟨0, 0⟩, expired 8210266876799 ⟨0, 0⟩) = (true, false) := by
  decide

end ObjectGrants
