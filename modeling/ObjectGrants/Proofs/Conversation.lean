import Mathlib.Tactic.Tauto
import ObjectGrants.Authority.Call

/-! Calls that overlap in time. A conversation follows an authority through calls several of
which may wait for their answers at once, so it says which answers were given and when.
-/

namespace ObjectGrants

/-- A call that waits for its answer, and the moment at which the answer is due. -/
structure Question (σ : Type) where
  record : CallRecord
  due : Nat
  finish : σ → Except Fault record.call.endpoint.Reply × σ

/-- What happens in a conversation: a call is made, or one that was made is answered. -/
inductive Event where
  | asked (record : CallRecord)
  | answered (record : CallRecord) (reply : Except Fault record.call.endpoint.Reply)

/-- The call that is made by an event. -/
def Event.asked? : Event → Option CallRecord
  | asked record => some record
  | answered _ _ => none

theorem Event.filterMap_asked?_cons (event : Event) (events : List Event)
    : (event :: events).filterMap asked? = event.asked?.toList ++ events.filterMap asked? := by
  cases event <;> rfl

/-- The question that an authority is left with when it has accepted a call. -/
def Authority.question {σ : Type} (authority : Authority σ) (record : CallRecord) (state : σ)
    : Question σ where
  record := record
  due := record.time + (authority.accept record.correlation record.call state).delay
  finish := (authority.accept record.correlation record.call state).finish

/-- An event takes an authority from time `now`, the questions `waiting` and `state` to what is
behind it. Questions may wait together, in any order; each is answered at most once and
exactly when its answer is due.
-/
inductive Event.Occurs {σ : Type} (authority : Authority σ)
    : Event → Nat → List (Question σ) → σ → Nat → List (Question σ) → σ → Prop
  | asked {now before behind state record} (later : now ≤ record.time)
    : Occurs authority (.asked record) now (before ++ behind) state record.time
        (before ++ authority.question record state :: behind)
        (authority.accept record.correlation record.call state).state
  | answered {now before question behind state} (later : now ≤ question.due)
    : Occurs authority (.answered question.record (question.finish state).1) now
        (before ++ question :: behind) state question.due (before ++ behind)
        (question.finish state).2

/-- The events of a conversation occur one behind the other. -/
inductive Conversation {σ : Type} (authority : Authority σ)
    : Nat → List (Question σ) → σ → List Event → Nat → List (Question σ) → σ → Prop
  | silence {now waiting state} : Conversation authority now waiting state [] now waiting state
  | cons {event events now waiting state later asking between finish remaining final}
    (first : event.Occurs authority now waiting state later asking between)
    (rest : Conversation authority later asking between events finish remaining final)
    : Conversation authority now waiting state (event :: events) finish remaining final

/-- Only calls that have been made are answered, by induction on the events of a conversation.
-/
theorem Conversation.answered_asked {σ : Type} {authority : Authority σ} {now finish : Nat}
    {waiting remaining : List (Question σ)} {state final : σ} {events : List Event}
    (conversation : Conversation authority now waiting state events finish remaining final)
    {record : CallRecord} {reply : Except Fault record.call.endpoint.Reply}
    (member : .answered record reply ∈ events)
    : record ∈ waiting.map (·.record) ++ events.filterMap Event.asked? := by
  induction conversation with
  | silence => exact nomatch member
  | cons first _ ih =>
      cases first with
      | asked _ =>
          have known := ih ((List.mem_cons.mp member).resolve_left nofun)
          simp only [List.map_append, List.map_cons, Authority.question, List.filterMap_cons,
            Event.asked?, List.mem_append, List.mem_cons] at known ⊢
          tauto
      | answered _ =>
          simp only [List.map_append, List.map_cons, List.filterMap_cons, Event.asked?,
            List.mem_append, List.mem_cons] at ih ⊢
          rcases List.mem_cons.mp member with same | later
          · injection same with same
            exact Or.inl (Or.inr (Or.inl same))
          · have known := ih later
            tauto

end ObjectGrants
