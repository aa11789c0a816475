import ObjectGrants.Authority.Call

/-!
An authority that answers from prepared queues, for rehearsals. Every endpoint has a queue of
its own, and uploads have one for each content type, so an answer depends only on the queue
and on how many calls it has already answered.
-/

namespace ObjectGrants

/-- A prepared answer and how long it takes. A fault is told in which call it arises. -/
structure ScriptedAnswer (α : Type) where
  answer : Except (Origin → Fault) α
  delay : Nat := 0

/-- The answers of a queue, of which the last one is given again and again. -/
abbrev AnswerQueue (α : Type) := List (ScriptedAnswer α)

/-- The next answer of a queue, and the queue behind it. -/
def AnswerQueue.next {α : Type} : AnswerQueue α → Option (ScriptedAnswer α) × AnswerQueue α
  | [] => (none, [])
  | [last] => (some last, [last])
  | first :: rest => (some first, rest)

/-- The queues of all endpoints. -/
structure Script where
  keySets : AnswerQueue Jwks := []
  reports : AnswerQueue (List TokenStatus) := []
  downloads : AnswerQueue (List DownloadGrant) := []
  puts : AnswerQueue Unit := []
  uploads : List (String × AnswerQueue (List SignedGrant)) := []

namespace Script

/-- Gives the next answer of a queue, or reports that there is none. -/
def answerFrom {α : Type} (origin : Origin) (queue : AnswerQueue α)
    (replace : AnswerQueue α → Script)
    : Pending Script (Except Fault α) :=
  match queue.next with
  | (some next, queue) =>
      { delay := next.delay
        state := replace queue
        finish := fun script => (next.answer.mapError (· origin), script) }
  | (none, queue) =>
      Pending.immediate (.error (.unavailable origin (.stated "unscripted"))) (replace queue)

/-- The queues of uploads with one of them replaced. -/
def replaceUpload (contentType : String) (queue : AnswerQueue (List SignedGrant))
    : List (String × AnswerQueue (List SignedGrant))
      → List (String × AnswerQueue (List SignedGrant))
  | [] => []
  | (other, kept) :: rest =>
      if other = contentType then (other, queue) :: rest
      else (other, kept) :: replaceUpload contentType queue rest

/-- The content type of a request for uploads, that of its first descriptor. -/
def contentTypeOf : List UploadDescriptor → String
  | [] => ""
  | descriptor :: _ => descriptor.contentType

/-- The authority that answers from queues. -/
def authority : Authority Script where
  accept correlation call script :=
    let origin : Origin := ⟨call.endpoint, correlation⟩
    match call with
    | .bulkUpload descriptors =>
        let contentType := contentTypeOf descriptors
        answerFrom origin ((script.uploads.lookup contentType).getD []) fun queue =>
          { script with uploads := replaceUpload contentType queue script.uploads }
    | .download _ =>
        answerFrom origin script.downloads fun queue => { script with downloads := queue }
    | .uploadCheck _ =>
        answerFrom origin script.reports fun queue => { script with reports := queue }
    | .keySet =>
        answerFrom origin script.keySets fun queue => { script with keySets := queue }
    | .objectPut _ _ _ =>
        answerFrom origin script.puts fun queue => { script with puts := queue }

end Script

end ObjectGrants
