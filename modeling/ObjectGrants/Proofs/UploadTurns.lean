import Mathlib.Logic.Function.Iterate
import ObjectGrants.Authority.Script
import ObjectGrants.Proofs.Curtailment
import ObjectGrants.Proofs.DispatchConversation

/-! Uploads that are answered in turn. If the answer to a request for uploads depends on nothing
but its content type and how many requests for that type came before, then a group of a batch
runs a fixed course: when it calls, when it ends and with what is known beforehand.
-/

namespace ObjectGrants

-----------------------------------------------------------------------------------------
-- Answers in turn
-----------------------------------------------------------------------------------------

/-- Descriptors of one content type, at least one of them. -/
structure UploadDescriptor.AllOf (contentType : String) (descriptors : List UploadDescriptor)
    : Prop where
  nonempty : descriptors ≠ []
  same : ∀ descriptor ∈ descriptors, descriptor.contentType = contentType

/-- An answer to a request for uploads, and how long it takes. -/
structure UploadAnswer where
  delay : Nat
  result : Except Fault (List SignedGrant)

/-- A request for uploads that waits for its answer, and the number of requests for the same
content type that were made before it.
-/
structure Turn (σ : Type) where
  contentType : String
  number : Nat
  finish : σ → Except Fault (List SignedGrant) × σ

/-- An authority has come from its initial state to another one by requests for uploads. Of each
content type so many have been made, and those in `waiting` are not answered yet.
-/
inductive Authority.Serves {σ : Type} (authority : Authority σ) (correlation : CorrelationId)
    (initial : σ)
    : (counts : String → Nat) → (waiting : List (Turn σ)) → σ → Prop
  | start : Serves authority correlation initial (fun _ => 0) [] initial
  | asked {counts before behind state contentType descriptors}
    (served : Serves authority correlation initial counts (before ++ behind) state)
    (uniform : UploadDescriptor.AllOf contentType descriptors)
    : Serves authority correlation initial
        (Function.update counts contentType (counts contentType + 1))
        (before
          ++ ⟨contentType, counts contentType,
              (authority.accept correlation (.bulkUpload descriptors) state).finish⟩
            :: behind)
        (authority.accept correlation (.bulkUpload descriptors) state).state
  | answered {counts before turn behind state}
    (served : Serves authority correlation initial counts (before ++ turn :: behind) state)
    : Serves authority correlation initial counts (before ++ behind) (turn.finish state).2

/-- Requests for uploads are answered by their content type and their number, in whatever order
they are made and answered.
-/
structure Authority.AnswersInTurn {σ : Type} (authority : Authority σ)
    (correlation : CorrelationId) (answers : String → Nat → UploadAnswer) (initial : σ)
    : Prop where
  delay
    : ∀ {counts waiting state contentType descriptors},
        authority.Serves correlation initial counts waiting state
        → UploadDescriptor.AllOf contentType descriptors
        → (authority.accept correlation (.bulkUpload descriptors) state).delay
          = (answers contentType (counts contentType)).delay
  result
    : ∀ {counts waiting state},
        authority.Serves correlation initial counts waiting state
        → ∀ turn ∈ waiting,
            (turn.finish state).1 = (answers turn.contentType turn.number).result

-----------------------------------------------------------------------------------------
-- Courses
-----------------------------------------------------------------------------------------

namespace Dispatch

/-- What is still to come of a group: its calls, when it ends, and with what. -/
@[ext]
structure Course where
  calls : List CallRecord
  finish : Nat
  result : Except Fault (List SignedGrant)

namespace Course

/-- A course with a call in front. -/
def calling (record : CallRecord) (course : Course) : Course :=
  { course with calls := record :: course.calls }

section

variable (policy : RetryPolicy) (answers : Nat → UploadAnswer) (record : Nat → CallRecord)

/-- The course behind an answer that arrives at a time, with some repetitions left. -/
def answered : (left time : Nat) → Course
  | 0, time => ⟨[], time, (answers policy.retries).result⟩
  | left + 1, time =>
      match (answers (policy.retries - (left + 1))).result with
      | .ok grants => ⟨[], time, .ok grants⟩
      | .error fault =>
          if fault.isRetryable policy.transientCodes then
            let next := time + policy.backoff (policy.retries - (left + 1))
            calling (record next)
              (answered left (next + (answers (policy.retries - left)).delay))
          else ⟨[], time, .error fault⟩

/-- The course behind a call that is due at a time. -/
def due (left time : Nat) : Course :=
  calling (record time)
    (answered policy answers record left (time + (answers (policy.retries - left)).delay))

end

end Course

variable {σ : Type}

/-- An answer puts a lane where its course goes on: at the next call, or at the end. -/
theorem Phase.answered_course (policy : RetryPolicy) (answers : Nat → UploadAnswer)
    (record : Nat → CallRecord) (left time : Nat)
    : let answer := (answers (policy.retries - left)).result
      (∃ next fewer,
        left = fewer + 1
        ∧ time ≤ next
        ∧ (Phase.answered policy time left answer : Phase σ) = .due next fewer
        ∧ Course.answered policy answers record left time
          = Course.due policy answers record fewer next)
      ∨ ((Phase.answered policy time left answer : Phase σ) = .settled answer
        ∧ Course.answered policy answers record left time = ⟨[], time, answer⟩) := by
  cases left with
  | zero =>
      refine Or.inr ⟨?_, rfl⟩
      cases (answers (policy.retries - 0)).result <;> rfl
  | succ fewer =>
      cases answer : (answers (policy.retries - (fewer + 1))).result with
      | ok grants =>
          refine Or.inr ⟨rfl, ?_⟩
          simp only [Course.answered, answer]
      | error fault =>
          by_cases retryable : fault.isRetryable policy.transientCodes = true
          · let next := time + policy.backoff (policy.retries - (fewer + 1))
            refine Or.inl ⟨next, fewer, rfl, Nat.le_add_right time _, ?_, ?_⟩
            · simp only [Phase.answered, retryable, if_true, next]
            · simp only [Course.answered, answer, retryable, if_true]
              rfl
          · refine Or.inr ⟨?_, ?_⟩
            · simp only [Phase.answered, retryable]
              rfl
            · simp only [Course.answered, answer, retryable]
              rfl

-----------------------------------------------------------------------------------------
-- A group on its own
-----------------------------------------------------------------------------------------

/-- The request for a group under the retry policy, with no other group beside it. -/
def Setting.alone (setting : Setting σ) (requests : List EnrichedRequest)
    : Operation σ (List SignedGrant) :=
  Operation.ofTimed
    (setting.policy.run
      (Timed.call setting.authority setting.correlation
        (.bulkUpload (requests.map (UploadDescriptor.ofRequest setting.serviceName)))))

/-- The course that a group takes on its own from time zero. -/
def Setting.courseAlone (setting : Setting σ) (state : σ) (requests : List EnrichedRequest)
    : Course where
  calls := ((setting.alone requests).start state).calls
  finish := ((setting.alone requests).start state).elapsed
  result := ((setting.alone requests).start state).value

/-- How a run from a time on takes a course. -/
structure Takes (now : Nat) (ended : Ended σ Empty (Except Fault (List SignedGrant)))
    (course : Course)
    : Prop where
  calls : ended.calls = course.calls
  finish : now + ended.elapsed = course.finish
  value : ended.value = course.result

end Dispatch

open Dispatch

variable {σ α : Type}

/-- A request on its own is answered in its turn. -/
theorem Authority.AnswersInTurn.call_never {authority : Authority σ}
    {correlation : CorrelationId} {answers : String → Nat → UploadAnswer} {initial : σ}
    (inTurn : authority.AnswersInTurn correlation answers initial) {contentType : String}
    {descriptors : List UploadDescriptor}
    (uniform : UploadDescriptor.AllOf contentType descriptors) {counts : String → Nat}
    {state : σ} (served : authority.Serves correlation initial counts [] state) (now : Nat)
    : let answer := answers contentType (counts contentType)
      ∃ final,
        authority.Serves correlation initial
          (Function.update counts contentType (counts contentType + 1)) [] final
        ∧ Timed.call authority correlation (.bulkUpload descriptors) .never now state
          = ⟨.ok answer.result, answer.delay, [⟨now, correlation, .bulkUpload descriptors⟩],
              final⟩ := by
  let pending := authority.accept correlation (.bulkUpload descriptors) state
  let turn : Turn σ := ⟨contentType, counts contentType, pending.finish⟩
  have asked
      : authority.Serves correlation initial
          (Function.update counts contentType (counts contentType + 1)) ([] ++ [turn])
          pending.state :=
    .asked served uniform
  refine ⟨(turn.finish pending.state).2, asked.answered, ?_⟩
  rw [← inTurn.delay served uniform, ← inTurn.result asked turn (List.mem_singleton_self turn)]
  rfl

/-- An operation gives its answers one after the other, with one call for each, from the states
in which so many have been given.
-/
def GivesInTurn (operation : Timed σ Empty (Except Fault (List SignedGrant)))
    (answers : Nat → UploadAnswer) (record : Nat → CallRecord) (given : Nat → σ → Prop)
    : Prop :=
  ∀ number now state,
    given number state
    → ∃ final,
        given (number + 1) final
        ∧ operation .never now state
          = ⟨.ok (answers number).result, (answers number).delay, [record now], final⟩

/-- Attempts of an operation that gives its answers in turn take the course of these answers, by
induction on the repetitions left.
-/
theorem RetryPolicy.attempts_takes (policy : RetryPolicy)
    {operation : Timed σ Empty (Except Fault (List SignedGrant))}
    {answers : Nat → UploadAnswer} {record : Nat → CallRecord} {given : Nat → σ → Prop}
    (inTurn : GivesInTurn operation answers record given) {retry left : Nat}
    (sum : retry + left = policy.retries) (now : Nat) {state : σ} (start : given retry state)
    : Takes now (policy.attempts operation retry left .never now state)
        (Course.due policy answers record left now) := by
  induction left generalizing retry now state with
  | zero =>
      obtain ⟨final, _, once⟩ := inTurn retry now state start
      have last : retry = policy.retries := sum
      simp only [RetryPolicy.attempts, once, Course.due, Course.answered, Nat.sub_zero, ← last]
      exact ⟨rfl, rfl, rfl⟩
  | succ left ih =>
      obtain ⟨final, following, once⟩ := inTurn retry now state start
      have made : policy.retries - (left + 1) = retry := by omega
      have next : policy.retries - left = retry + 1 := by omega
      rw [RetryPolicy.attempts_succ_never, once]
      simp only [Ended.value, Course.due, Course.answered, made, next]
      cases answer : (answers retry).result with
      | ok grants => exact ⟨rfl, rfl, rfl⟩
      | error fault =>
          by_cases retryable : fault.isRetryable policy.transientCodes = true
          · simp only [retryable, if_true]
            have others := ih (by omega)
              (now + (answers retry).delay + policy.backoff retry) following
            simp only [Course.due, next] at others
            refine ⟨congrArg _ others.calls, ?_, others.value⟩
            simp only [Ended.followedBy, ← Nat.add_assoc]
            exact others.finish
          · simp only [retryable]
            exact ⟨rfl, rfl, rfl⟩

/-- A group on its own takes the course of its answers from the beginning. -/
theorem Authority.AnswersInTurn.courseAlone_eq {setting : Setting σ}
    {answers : String → Nat → UploadAnswer} {initial : σ}
    (inTurn : setting.authority.AnswersInTurn setting.correlation answers initial)
    {contentType : String} {requests : List EnrichedRequest}
    (uniform
      : UploadDescriptor.AllOf contentType
          (requests.map (UploadDescriptor.ofRequest setting.serviceName)))
    : setting.courseAlone initial requests
      = Course.due setting.policy (answers contentType) (setting.record · requests)
          setting.policy.retries 0 := by
  let descriptors := requests.map (UploadDescriptor.ofRequest setting.serviceName)
  have given
      : GivesInTurn (Timed.call setting.authority setting.correlation (.bulkUpload descriptors))
          (answers contentType) (setting.record · requests)
          (fun number state => ∃ counts,
            setting.authority.Serves setting.correlation initial counts [] state
            ∧ counts contentType = number) := by
    rintro _ now state ⟨counts, served, rfl⟩
    obtain ⟨final, following, once⟩ := inTurn.call_never uniform served now
    exact ⟨final, ⟨_, following, Function.update_self ..⟩, once⟩
  have takes := setting.policy.attempts_takes given (Nat.zero_add _) 0 ⟨_, .start, rfl⟩
  have ends := takes.finish
  rw [Nat.zero_add] at ends
  exact Course.ext takes.calls ends takes.value

-----------------------------------------------------------------------------------------
-- Scripts
-----------------------------------------------------------------------------------------

/-- What is left of a queue when so many of its answers have been given. -/
def AnswerQueue.behind (queue : AnswerQueue α) : (given : Nat) → AnswerQueue α
  | 0 => queue
  | given + 1 => (queue.behind given).next.2

namespace Script

/-- The queue for the uploads of a content type, an empty one if there is none. -/
def uploadQueue (script : Script) (contentType : String) : AnswerQueue (List SignedGrant) :=
  (script.uploads.lookup contentType).getD []

/-- An answer of a script to a request for uploads. -/
def uploadAnswer (correlation : CorrelationId)
    : Option (ScriptedAnswer (List SignedGrant)) → UploadAnswer
  | some next => ⟨next.delay, next.answer.mapError (· ⟨.bulkUpload, correlation⟩)⟩
  | none => ⟨0, .error (.unavailable ⟨.bulkUpload, correlation⟩ (.stated "unscripted"))⟩

/-- The answers of a script to requests for uploads, by content type and number. -/
def uploadAnswers (script : Script) (correlation : CorrelationId) (contentType : String)
    (number : Nat)
    : UploadAnswer :=
  uploadAnswer correlation ((script.uploadQueue contentType).behind number).next.1

theorem answerFrom_eq (correlation : CorrelationId) (queue : AnswerQueue (List SignedGrant))
    (replace : AnswerQueue (List SignedGrant) → Script)
    : answerFrom ⟨.bulkUpload, correlation⟩ queue replace
      = { delay := (uploadAnswer correlation queue.next.1).delay
          state := replace queue.next.2
          finish := fun script => ((uploadAnswer correlation queue.next.1).result, script) } := by
  unfold answerFrom
  rcases queue.next with ⟨_ | next, rest⟩
  · rfl
  · rfl

/-- A script answers a request from the queue for its content type. -/
theorem accept_upload (correlation : CorrelationId) {contentType : String}
    {descriptors : List UploadDescriptor}
    (uniform : UploadDescriptor.AllOf contentType descriptors) (script : Script)
    : let queue := script.uploadQueue contentType
      authority.accept correlation (.bulkUpload descriptors) script
        = { delay := (uploadAnswer correlation queue.next.1).delay
            state :=
              { script with uploads := replaceUpload contentType queue.next.2 script.uploads }
            finish := fun script =>
              ((uploadAnswer correlation queue.next.1).result, script) } := by
  have own : contentTypeOf descriptors = contentType := by
    cases descriptors with
    | nil => exact absurd rfl uniform.nonempty
    | cons descriptor _ => exact uniform.same descriptor List.mem_cons_self
  subst own
  exact answerFrom_eq correlation _ _

/-- A queue that is replaced is the only one that changes. What is not there stays empty. -/
theorem lookup_replaceUpload {contentType : String} {queue : AnswerQueue (List SignedGrant)}
    {uploads : List (String × AnswerQueue (List SignedGrant))}
    (absent : uploads.lookup contentType = none → queue = []) (other : String)
    : ((replaceUpload contentType queue uploads).lookup other).getD []
      = if other = contentType then queue else (uploads.lookup other).getD [] := by
  induction uploads with
  | nil =>
      rw [absent rfl]
      split <;> rfl
  | cons first rest ih =>
      obtain ⟨key, kept⟩ := first
      unfold replaceUpload
      by_cases own : key = contentType
      · subst own
        by_cases same : other = key
        · simp [same]
        · simp [same, List.lookup_cons, beq_false_of_ne same]
      · have later : rest.lookup contentType = none → queue = [] := by
          intro none
          exact absent (by rw [List.lookup_cons, beq_false_of_ne (Ne.symm own), none])
        rw [if_neg own, List.lookup_cons, List.lookup_cons]
        by_cases same : other = key
        · simp [same, own]
        · rw [beq_false_of_ne same]
          exact ih later

/-- The queue for a content type moves on with its requests, and no other does. -/
theorem uploadQueue_replaceUpload (script : Script) (contentType other : String)
    : let queue := (script.uploadQueue contentType).next.2
      uploadQueue
          { script with uploads := replaceUpload contentType queue script.uploads } other
        = if other = contentType then queue else script.uploadQueue other := by
  refine lookup_replaceUpload (fun none => ?_) other
  unfold uploadQueue
  rw [none]
  rfl

/-- Whatever has been asked and answered, every queue has moved on by the requests for its
content type, and the answers under way are those of the script. Witness: induction on what
was asked and answered.
-/
theorem serves_queues {correlation : CorrelationId} {script state : Script}
    {counts : String → Nat} {waiting : List (Turn Script)}
    (served : authority.Serves correlation script counts waiting state)
    : (∀ contentType,
        state.uploadQueue contentType
          = (script.uploadQueue contentType).behind (counts contentType))
      ∧ ∀ turn ∈ waiting, ∀ later,
          turn.finish later
            = ((script.uploadAnswers correlation turn.contentType turn.number).result, later) := by
  induction served with
  | start => exact ⟨fun _ => rfl, nofun⟩
  | @asked counts before behind state contentType descriptors _ uniform ih =>
      obtain ⟨queues, answers⟩ := ih
      rw [accept_upload correlation uniform]
      constructor
      · intro other
        rw [uploadQueue_replaceUpload]
        by_cases own : other = contentType
        · subst own
          rw [if_pos rfl, Function.update_self, queues]
          rfl
        · rw [if_neg own, Function.update_of_ne own, queues]
      · intro turn member later
        rcases List.mem_append.mp member with early | others
        · exact answers turn (List.mem_append_left _ early) later
        · rcases List.mem_cons.mp others with rfl | late
          · simp only [queues]
            rfl
          · exact answers turn (List.mem_append_right _ late) later
  | @answered counts before turn behind state _ ih =>
      obtain ⟨queues, answers⟩ := ih
      have kept : (turn.finish state).2 = state := by
        rw [answers turn (by simp)]
      rw [kept]
      refine ⟨queues, fun other member => answers other ?_⟩
      rcases List.mem_append.mp member with early | late
      · exact List.mem_append_left _ early
      · exact List.mem_append_right _ (List.mem_cons_of_mem _ late)

/-- Every script answers requests for uploads in turn. -/
theorem authority_answersInTurn (correlation : CorrelationId) (script : Script)
    : authority.AnswersInTurn correlation (script.uploadAnswers correlation) script where
  delay served uniform := by
    rw [accept_upload correlation uniform, (serves_queues served).1]
    rfl
  result served turn member := by
    rw [(serves_queues served).2 turn member]

end Script

end ObjectGrants
