import ObjectGrants.Proofs.DownloadOfUploads
import ObjectGrants.Proofs.KeyRotation

/-! What happens to the authority in memory. It is told things and it is called; most calls are
answered at once, but a question about statuses is answered later or never, and others may come
in between. Whatever a service does is such a performance, and all calls are put on record.
-/

namespace ObjectGrants.InMemory

-----------------------------------------------------------------------------------------
-- Occurrences
-----------------------------------------------------------------------------------------

/-- Something that the authority is told. -/
inductive Instruction where
  | failUploads (contentType : String) (failure : Failure) (times : Option Nat)
  | failStatusChecks (failure : Failure) (times : Option Nat)
  | failDownloads (failure : Failure)
  | failPuts (failure : Failure) (times : Option Nat)
  | delayStatusChecks (delay : Nat)
  | failKeySet
  | setKeySet (document : Jwks)
  | omitGrant (identifier : String)
  | addUnknownGrant (identifier : String)
  | setStatuses (token : String) (sequence : List Status)
  | markPublic (token : String)
  | emptyDownload (token : String)
  deriving DecidableEq, Repr

/-- The state behind an instruction. -/
def Instruction.carryOut : Instruction → State → State
  | failUploads contentType failure times => State.failUploads contentType failure times
  | failStatusChecks failure times => State.failStatusChecks failure times
  | failDownloads failure => State.failDownloads failure
  | failPuts failure times => State.failPuts failure times
  | delayStatusChecks delay => State.delayStatusChecks delay
  | failKeySet => State.failKeySet
  | setKeySet document => State.setKeySet document
  | omitGrant identifier => State.omitGrant identifier
  | addUnknownGrant identifier => State.addUnknownGrant identifier
  | setStatuses token sequence => State.setStatuses token sequence
  | markPublic token => State.markPublic token
  | emptyDownload token => State.emptyDownload token

/-- A call and the answer that it has been given. -/
structure Answer where
  record : CallRecord
  reply : Except Fault record.call.endpoint.Reply

/-- What happens to the authority. -/
inductive Occurrence where
  /-- The authority is told something. -/
  | told (instruction : Instruction)
  /-- A call is made and answered at once. -/
  | served (answer : Answer)
  /-- A call is made whose answer takes time. -/
  | asked (record : CallRecord)
  /-- A call that was made before is answered. -/
  | answered (answer : Answer)

namespace Occurrence

/-- The call that is made by an occurrence. -/
def asked? : Occurrence → Option CallRecord
  | served answer => some answer.record
  | asked record => some record
  | told _ | answered _ => none

/-- The answer that is given by an occurrence. -/
def answer? : Occurrence → Option Answer
  | served answer | answered answer => some answer
  | told _ | asked _ => none

/-- An occurrence takes the authority from the questions `waiting` and a state to what is behind
it. Questions about statuses wait together, in any order, and each is answered at most once.
The second of the calendar may differ from call to call.
-/
inductive Occurs
    : Occurrence → List (Question State) → State → List (Question State) → State → Prop
  | told {waiting state} (instruction : Instruction)
    : Occurs (.told instruction) waiting state waiting (instruction.carryOut state)
  | served {waiting state record} (second : Int)
    (atOnce : record.call.endpoint ≠ .uploadCheck)
    : Occurs (.served ⟨record, ((authority second).reply record.correlation record.call state).1⟩)
        waiting state waiting
        ((authority second).reply record.correlation record.call state).2
  | asked {before behind state time correlation tokens} (second : Int)
    (distinct : List.Nodup tokens)
    : Occurs (.asked ⟨time, correlation, .uploadCheck tokens⟩) (before ++ behind) state
        (before
          ++ (authority second).question ⟨time, correlation, .uploadCheck tokens⟩ state :: behind)
        ((authority second).accept correlation (.uploadCheck tokens) state).state
  | answered {before question behind state}
    : Occurs (.answered ⟨question.record, (question.finish state).1⟩)
        (before ++ question :: behind) state (before ++ behind) (question.finish state).2

/-- A question may wait in front of all others. -/
theorem Occurs.asked_front {waiting : List (Question State)} {state : State} {time : Nat}
    {correlation : CorrelationId} {tokens : List String} (second : Int)
    (distinct : tokens.Nodup)
    : Occurs (.asked ⟨time, correlation, .uploadCheck tokens⟩) waiting state
        ((authority second).question ⟨time, correlation, .uploadCheck tokens⟩ state :: waiting)
        ((authority second).accept correlation (.uploadCheck tokens) state).state :=
  @Occurs.asked [] waiting state time correlation tokens second distinct

theorem Occurs.answered_front (question : Question State) (waiting : List (Question State))
    (state : State)
    : Occurs (.answered ⟨question.record, (question.finish state).1⟩) (question :: waiting)
        state waiting (question.finish state).2 :=
  @Occurs.answered [] question waiting state

end Occurrence

/-- `Performance waiting state history unanswered final`: from the questions `waiting` and `state`
on, the occurrences of `history` lead the authority to `final`, with the questions `unanswered`
left.
-/
inductive Performance
    : List (Question State) → State → List Occurrence → List (Question State) → State → Prop
  | silence {waiting state} : Performance waiting state [] waiting state
  | cons {occurrence history waiting state asking between unanswered final}
    (first : Occurrence.Occurs occurrence waiting state asking between)
    (rest : Performance asking between history unanswered final)
    : Performance waiting state (occurrence :: history) unanswered final

variable {waiting asking unanswered : List (Question State)} {state after final : State}
  {occurrence : Occurrence} {history : List Occurrence}

namespace Performance

/-- Performances join where the first has ended. -/
theorem append {early late : List Occurrence}
    (first : Performance waiting state early asking after)
    (second : Performance asking after late unanswered final)
    : Performance waiting state (early ++ late) unanswered final := by
  induction first with
  | silence => exact second
  | cons occurs _ ih => exact .cons occurs (ih second)

/-- A performance falls into two wherever its history does, by induction on the first part. -/
theorem split {early late : List Occurrence}
    (performance : Performance waiting state (early ++ late) unanswered final)
    : ∃ between middle,
        Performance waiting state early between middle
        ∧ Performance between middle late unanswered final := by
  induction early generalizing waiting state with
  | nil => exact ⟨waiting, state, .silence, performance⟩
  | cons occurrence early ih =>
      cases performance with
      | cons occurs rest =>
          obtain ⟨between, middle, first, second⟩ := ih rest
          exact ⟨between, middle, .cons occurs first, second⟩

end Performance

-----------------------------------------------------------------------------------------
-- Questions that wait
-----------------------------------------------------------------------------------------

/-- A question about the statuses of distinct tokens, as the authority is left with it. -/
inductive AsksStatuses : Question State → Prop where
  | intro {time correlation tokens due} (distinct : List.Nodup tokens)
    : AsksStatuses
        ⟨⟨time, correlation, .uploadCheck tokens⟩, due,
          answerStatusCheck ⟨.uploadCheck, correlation⟩ tokens⟩

/-- Only questions about statuses wait, whatever happens. -/
theorem Occurrence.Occurs.asksStatuses (occurs : occurrence.Occurs waiting state asking after)
    (waits : ∀ question ∈ waiting, AsksStatuses question)
    : ∀ question ∈ asking, AsksStatuses question := by
  cases occurs with
  | told instruction => exact waits
  | served second atOnce => exact waits
  | asked second distinct =>
      rw [List.forall_mem_append] at waits ⊢
      exact ⟨waits.1, List.forall_mem_cons.mpr ⟨.intro distinct, waits.2⟩⟩
  | answered =>
      rw [List.forall_mem_append, List.forall_mem_cons] at waits
      exact List.forall_mem_append.mpr ⟨waits.1, waits.2.2⟩

theorem Performance.asksStatuses
    (performance : Performance waiting state history unanswered final)
    (waits : ∀ question ∈ waiting, AsksStatuses question)
    : ∀ question ∈ unanswered, AsksStatuses question := by
  induction performance with
  | silence => exact waits
  | cons occurs _ ih => exact ih (occurs.asksStatuses waits)

/-- Behind an instruction, a performance goes on from where it has been carried out. -/
theorem Performance.behind_told {early during late : List Occurrence}
    {instruction : Instruction}
    (performance
      : Performance waiting state (early ++ .told instruction :: during ++ late) unanswered final)
    (waits : ∀ question ∈ waiting, AsksStatuses question)
    : ∃ asking between reached after,
        (∀ question ∈ asking, AsksStatuses question)
        ∧ Performance asking (instruction.carryOut between) during reached after := by
  obtain ⟨reached, after, upTo, _⟩ := performance.split
  obtain ⟨asking, between, first, second⟩ := upTo.split
  cases second with
  | cons occurs rest =>
      cases occurs with
      | told => exact ⟨asking, between, reached, after, first.asksStatuses waits, rest⟩

-----------------------------------------------------------------------------------------
-- Calls on record
-----------------------------------------------------------------------------------------

/-- How a call is kept on record. -/
def kept : CallRecord → RecordedCall
  | ⟨_, correlation, .bulkUpload descriptors⟩ =>
      .uploadGrants correlation ((descriptors.head?.map (·.contentType)).getD "")
        (descriptors.map (·.identifier))
  | ⟨_, correlation, .download request⟩ =>
      .downloadGrants correlation request.tokens request.expiryInSeconds
  | ⟨_, correlation, .uploadCheck tokens⟩ => .statusCheck correlation tokens
  | ⟨_, _, .keySet⟩ => .keySet
  | ⟨_, _, .objectPut url contentType body⟩ => .putObject url contentType body.length

theorem answerStatusCheck_calls (origin : Origin) (tokens : List String) (state : State)
    : (answerStatusCheck origin tokens state).2.calls = state.calls := by
  unfold answerStatusCheck
  dsimp only
  split <;> rfl

/-- A call that is answered at once is put on record, whether it fails or not. A failure may be
used up by it, and nothing else changes.
-/
theorem reply_atOnce {record : CallRecord} (atOnce : record.call.endpoint ≠ .uploadCheck)
    (second : Int) (state : State)
    : ∃ uploads downloads puts,
        ((authority second).reply record.correlation record.call state).2
          = { state with
              calls := state.calls ++ [kept record]
              uploadFailures := uploads
              downloadFailure := downloads
              putFailure := puts } := by
  obtain ⟨time, correlation, call⟩ := record
  dsimp only
  cases call with
  | bulkUpload descriptors =>
      change ∃ _ _ _, (answerUploads second _ descriptors state).2 = _
      unfold answerUploads
      dsimp only
      split <;> split <;> exact ⟨_, _, _, rfl⟩
  | download request =>
      change ∃ _ _ _, (answerDownloads second _ request state).2 = _
      unfold answerDownloads
      dsimp only
      split <;> exact ⟨_, _, _, rfl⟩
  | uploadCheck tokens => exact absurd rfl atOnce
  | keySet =>
      change ∃ _ _ _, (answerKeySet _ state).2 = _
      unfold answerKeySet
      dsimp only
      split <;> exact ⟨_, _, _, rfl⟩
  | objectPut url contentType body =>
      change ∃ _ _ _, (answerPut _ url contentType body.length state).2 = _
      unfold answerPut
      dsimp only
      split <;> exact ⟨_, _, _, rfl⟩

/-- What happens puts the call that is made on record, and nothing else. -/
theorem Occurrence.Occurs.calls (occurs : occurrence.Occurs waiting state asking after)
    (waits : ∀ question ∈ waiting, AsksStatuses question)
    : after.calls = state.calls ++ occurrence.asked?.toList.map kept := by
  cases occurs with
  | told instruction => cases instruction <;> exact (List.append_nil _).symm
  | served second atOnce =>
      obtain ⟨_, _, _, reached⟩ := reply_atOnce atOnce second state
      rw [reached]
      rfl
  | asked second distinct => rfl
  | @answered _ question =>
      obtain ⟨distinct⟩ := waits question (by simp)
      exact (answerStatusCheck_calls _ _ state).trans (List.append_nil _).symm

/-- All calls of a performance are on record in their order, by induction on it. -/
theorem Performance.calls
    (performance : Performance waiting state history unanswered final)
    (waits : ∀ question ∈ waiting, AsksStatuses question)
    : final.calls = state.calls ++ (history.filterMap Occurrence.asked?).map kept := by
  induction performance with
  | silence => exact (List.append_nil _).symm
  | @cons occurrence history _ _ _ _ _ _ occurs _ ih =>
      rw [ih (occurs.asksStatuses waits), occurs.calls waits, List.append_assoc,
        ← List.map_append, List.filterMap_cons]
      cases occurrence.asked? <;> rfl

-----------------------------------------------------------------------------------------
-- Performances of a service
-----------------------------------------------------------------------------------------

/-- A call that is no question about one token twice. -/
def AsksDistinct (record : CallRecord) : Prop :=
  ∀ tokens, record.call = .uploadCheck tokens → tokens.Nodup

theorem asksDistinct_of_ne {record : CallRecord} (atOnce : record.call.endpoint ≠ .uploadCheck)
    : AsksDistinct record :=
  fun _ same => absurd (congrArg Call.endpoint same) atOnce

/-- Whatever waits meanwhile, the calls lead the authority from one state to another in a
performance in which it is told nothing.
-/
def Performed (state : State) (calls : List CallRecord) (final : State) : Prop :=
  ∀ waiting, ∃ history unanswered,
    Performance waiting state history unanswered final
    ∧ (∀ instruction, .told instruction ∉ history)
    ∧ history.filterMap Occurrence.asked? = calls

variable {between : State} {second : Int}

theorem Performed.silence (state : State) : Performed state [] state :=
  fun waiting => ⟨[], waiting, .silence, fun _ => List.not_mem_nil, rfl⟩

theorem Performed.append {calls more : List CallRecord}
    (first : Performed state calls between) (second : Performed between more final)
    : Performed state (calls ++ more) final := by
  intro waiting
  obtain ⟨early, asking, performance, untold, rfl⟩ := first waiting
  obtain ⟨late, unanswered, following, silent, rfl⟩ := second asking
  refine ⟨early ++ late, unanswered, performance.append following, ?_, List.filterMap_append⟩
  exact fun instruction member => (List.mem_append.mp member).elim (untold _) (silent _)

/-- What the authority is asked at once it has answered when it accepts the call. -/
theorem accept_atOnce {call : Call} (atOnce : call.endpoint ≠ .uploadCheck) (second : Int)
    (correlation : CorrelationId) (state : State)
    : (authority second).accept correlation call state
      = .immediate ((authority second).reply correlation call state).1
          ((authority second).reply correlation call state).2 := by
  cases call with
  | uploadCheck tokens => exact absurd rfl atOnce
  | _ => rfl

/-- A call that is waited for is a performance. -/
theorem performed_heard {record : CallRecord} (distinct : AsksDistinct record) (second : Int)
    (state : State)
    : Performed state [record]
        ((authority second).reply record.correlation record.call state).2 := by
  intro waiting
  by_cases atOnce : record.call.endpoint = .uploadCheck
  · obtain ⟨time, correlation, call⟩ := record
    cases call with
    | uploadCheck tokens =>
        exact ⟨_, waiting, .cons (.asked_front second (distinct tokens rfl))
          (.cons (.answered_front _ _ _) .silence), by simp, rfl⟩
    | _ => exact nomatch atOnce
  · exact ⟨_, waiting, .cons (.served second atOnce) .silence, by simp, rfl⟩

/-- A call that is not waited for is a performance too. -/
theorem performed_dropped {record : CallRecord} (distinct : AsksDistinct record) (second : Int)
    (state : State)
    : Performed state [record]
        ((authority second).accept record.correlation record.call state).state := by
  by_cases atOnce : record.call.endpoint = .uploadCheck
  · obtain ⟨time, correlation, call⟩ := record
    cases call with
    | uploadCheck tokens =>
        intro waiting
        exact ⟨_, _, .cons (.asked_front second (distinct tokens rfl)) .silence, by simp, rfl⟩
    | _ => exact nomatch atOnce
  · rw [accept_atOnce atOnce]
    exact performed_heard distinct second state

/-- A dialogue is a performance, by induction on its exchanges. -/
theorem performed_of_dialogue {start finish : Nat} {history : List Exchange}
    (dialogue : Dialogue (authority second) start state history finish final)
    (distinct : ∀ exchange ∈ history, AsksDistinct exchange.record)
    : Performed state (history.map (·.record)) final := by
  induction dialogue with
  | silence _ => exact .silence _
  | heard _ _ ih =>
      rw [List.forall_mem_cons] at distinct
      exact (performed_heard distinct.1 second _).append (ih distinct.2)
  | dropped _ _ ih =>
      rw [List.forall_mem_cons] at distinct
      exact (performed_dropped distinct.1 second _).append (ih distinct.2)

/-- A conversation about calls that are answered at once is a performance. Witness: induction on
the events; the answers that are still to be given change the state no more.
-/
theorem performed_of_conversation {now finish : Nat} {waiting remaining : List (Question State)}
    {events : List Event}
    (conversation
      : Conversation (authority second) now waiting state events finish remaining final)
    (atOnce : ∀ record ∈ events.filterMap Event.asked?, record.call.endpoint ≠ .uploadCheck)
    (settled : ∀ question ∈ waiting, ∀ state, (question.finish state).2 = state)
    : Performed state (events.filterMap Event.asked?) final := by
  induction conversation with
  | silence => exact .silence _
  | cons occurs _ ih =>
      cases occurs with
      | @asked _ before behind _ record _ =>
          rw [List.filterMap_cons, Event.asked?, List.forall_mem_cons] at atOnce
          obtain ⟨apart, atOnce⟩ := atOnce
          refine (performed_dropped (asksDistinct_of_ne apart) second _).append (ih atOnce ?_)
          rw [List.forall_mem_append] at settled
          refine List.forall_mem_append.mpr ⟨settled.1, List.forall_mem_cons.mpr ⟨?_, settled.2⟩⟩
          intro later
          rw [Authority.question, accept_atOnce apart]
          rfl
      | @answered _ before question behind _ _ =>
          rw [List.forall_mem_append, List.forall_mem_cons] at settled
          rw [settled.2.1] at ih
          exact ih atOnce (List.forall_mem_append.mpr ⟨settled.1, settled.2.2⟩)

end ObjectGrants.InMemory

namespace ObjectGrants

open InMemory (State Performed AsksDistinct)

variable {α β : Type} {second : Int}

namespace Operation

/-- Whenever it is started, an operation is a performance by its calls. -/
def Performs (operation : Operation State α) : Prop :=
  ∀ now state,
    Performed state (operation.runAt now state).calls (operation.runAt now state).state

theorem performs_atTime (result : Nat → Except Fault α)
    : (atTime result : Operation State α).Performs :=
  fun _ state => .silence state

theorem performs_ofResult (result : Except Fault α)
    : (ofResult result : Operation State α).Performs :=
  performs_atTime fun _ => result

/-- A sequence of performances is one. -/
theorem Performs.bind {first : Operation State α} {following : α → Operation State β}
    (head : first.Performs) (tail : ∀ value, (following value).Performs)
    : (first >>= following).Performs := by
  intro now state
  have performed := head now state
  rw [runAt_bind]
  dsimp only
  cases (first.runAt now state).value with
  | error fault => exact performed
  | ok value => exact performed.append (tail value _ _)

/-- What follows a result that is known at some time performs if it does for each such result. -/
theorem performs_atTime_bind {result : Nat → Except Fault α}
    {following : α → Operation State β}
    (tail : ∀ time value, result time = .ok value → (following value).Performs)
    : (atTime result >>= following).Performs := by
  intro now state
  rw [runAt_atTime_bind, ofResult_bind]
  cases known : result now with
  | error fault => exact .silence state
  | ok value => exact tail now value known now state

/-- Operations that make one call after the other are performances. -/
theorem performs_of_led {operation : Operation State α}
    {post : List Exchange → Except Empty (Except Fault α) → Prop}
    (led : ∀ now state, (operation.runAt now state).Led (InMemory.authority second) now state post)
    (distinct
      : ∀ history outcome,
          post history outcome → ∀ exchange ∈ history, AsksDistinct exchange.record)
    : operation.Performs := by
  intro now state
  obtain ⟨history, dialogue, calls, holds⟩ := led now state
  rw [← calls]
  exact InMemory.performed_of_dialogue dialogue (distinct history _ holds)

/-- Asking the same call again and again is a performance. -/
theorem performs_repeated (policy : RetryPolicy) (second : Int) (correlation : CorrelationId)
    {call : Call} (atOnce : call.endpoint ≠ .uploadCheck)
    : (ofTimed (policy.run (Timed.call (InMemory.authority second) correlation call))).Performs :=
  performs_of_led
    (fun now state =>
      (policy.run_repeats (InMemory.authority second) correlation call .never now state rfl).1)
    fun _ _ repeats exchange member =>
      InMemory.asksDistinct_of_ne ((repeats.asks exchange member).call ▸ atOnce)

end Operation

/-- A dispatch of uploads is a performance, since it is a conversation about nothing else. -/
theorem Dispatch.operation_performs {setting : Setting State}
    (onMemory : setting.authority = InMemory.authority second) (failFast : Bool)
    (batch : List EnrichedRequest) (result : List (Lane State) → Except Fault α)
    : (operation setting failFast batch result).Performs := by
  by_cases nonempty : batch = []
  · subst nonempty
    exact Operation.performs_ofResult _
  · intro now state
    have uploads := operation_callsOnly setting failFast batch result now state
    rw [operation_runAt setting failFast nonempty] at uploads ⊢
    obtain ⟨events, _, conversation, calls, _⟩ :=
      run_converses setting failFast batch now state
    dsimp only at uploads ⊢
    rw [← calls] at uploads ⊢
    rw [onMemory] at conversation
    refine InMemory.performed_of_conversation conversation (fun record member => ?_) nofun
    obtain ⟨_, _, _, rfl⟩ := uploads record member
    exact nofun

namespace KeyStore

theorem loadPublished_performs (second : Int) (correlation : CorrelationId)
    : (loadPublished (InMemory.authority second) correlation).Performs := by
  refine Operation.Performs.bind ?_ fun document => ?_
  · intro now state
    let record : CallRecord := ⟨now, correlation, .keySet⟩
    have heard : record.call.endpoint ≠ .uploadCheck := nofun
    exact InMemory.performed_heard (InMemory.asksDistinct_of_ne heard) second state
  · cases KeySet.ofJwks document with
    | ok set => exact Operation.performs_ofResult (.ok set)
    | error cause => exact Operation.performs_ofResult (.error _)

/-- Loading keys is a performance, wherever they come from. -/
theorem load_performs (second : Int) (files : Files) (correlation : CorrelationId)
    (source : KeySource)
    : (load (InMemory.authority second) files correlation source).Performs := by
  cases source with
  | authority =>
      exact (loadPublished_performs second correlation).bind fun set =>
        Operation.performs_ofResult (.ok _)
  | file path => exact Operation.performs_ofResult _
  | fixed => exact Operation.performs_ofResult (.ok none)

end KeyStore

namespace Broker

variable (broker : Broker State) (second : Int) (correlation : CorrelationId) (clock : Clock)

theorem issueUploads_performs (category : Category) (requests : List UploadRequest)
    : ((broker.onMemory second).issueUploads correlation clock category requests).Performs := by
  refine (Operation.performs_ofResult _).bind fun batch =>
    Operation.Performs.bind ?_ fun outcome => Operation.performs_atTime _
  unfold requestGrants
  cases (broker.onMemory second).batchMode with
  | failFast =>
      exact (Dispatch.operation_performs rfl true batch _).bind fun grants =>
        Operation.performs_ofResult (.ok _)
  | partialSuccess => exact Dispatch.operation_performs rfl false batch _

theorem requestDownloads_performs (objects : List String)
    : ((broker.onMemory second).requestDownloads correlation objects).Performs := by
  refine Operation.Performs.bind ?_ fun _ => Operation.performs_ofResult _
  exact Operation.performs_repeated _ second correlation nofun

theorem requestBehind_performs (objects : List String) (waited : Except Panic Unit)
    : ((broker.onMemory second).requestBehind correlation objects waited).Performs := by
  cases waited with
  | ok opened =>
      exact (broker.requestDownloads_performs second correlation objects).bind fun _ =>
        Operation.performs_ofResult (.ok _)
  | error panic => exact Operation.performs_ofResult (.ok _)

/-- Behind a gate that asks about distinct objects, downloads are performances. -/
theorem downloads_perform (tokens : List String) {opening : α}
    {gate : List String → Operation State α} {follow : List String → α → Operation State β}
    (opens
      : ∀ names later state,
          ((gate names).runAt later state).Led (InMemory.authority second) later state
            (Gate.Opens opening correlation names))
    (follows : ∀ names result, (follow names result).Performs)
    : (do
        let names ← Operation.atTime fun time =>
          (broker.onMemory second).boundObjects (clock.moment time) tokens
        let result ← gate names
        follow names result).Performs := by
  refine Operation.performs_atTime_bind fun time names bound => ?_
  obtain ⟨objects, named, rfl⟩ := boundObjects_eq_ok_iff.mp bound
  refine Operation.Performs.bind ?_ (follows _)
  refine Operation.performs_of_led (opens _) fun _ _ checks exchange member => ?_
  intro asked same
  obtain rfl := Call.uploadCheck.inj (same.symm.trans (checks.asks exchange member).call)
  exact named.names_nodup

/-- Making a service on the authority in memory is a performance. -/
theorem connect_performs (configuration : Configuration.Accepted) (second : Int)
    (library : TokenLibrary) (files : Files) (correlation : CorrelationId)
    : (connect configuration (InMemory.authority second) library files correlation).Performs := by
  refine Operation.Performs.bind ?_ fun _ => Operation.performs_ofResult (.ok _)
  unfold verificationFor
  cases configuration.verificationMode with
  | published =>
      refine Operation.Performs.bind ?_ fun _ => Operation.performs_ofResult (.ok _)
      exact (KeyStore.loadPublished_performs second correlation).bind fun _ =>
        Operation.performs_ofResult (.ok _)
  | file path => exact Operation.performs_ofResult _
  | passThrough => exact Operation.performs_ofResult (.ok _)

/-- Whatever task a service on the authority in memory serves, it is a performance. -/
theorem serve_performs (task : Task) : ((broker.onMemory second).serve task).Performs := by
  cases task with
  | verify clock token =>
      exact (Operation.performs_atTime _).bind fun _ => Operation.performs_ofResult (.ok _)
  | issueUploads correlation clock category requests =>
      exact (broker.issueUploads_performs second correlation clock category requests).bind
        fun _ => Operation.performs_ofResult (.ok _)
  | issueDownloads correlation clock tokens =>
      refine Operation.Performs.bind ?_ fun _ => Operation.performs_ofResult (.ok _)
      exact broker.downloads_perform second correlation clock tokens
        (fun names => (broker.onMemory second).gate.ensureReady_opens correlation names)
        fun names _ => broker.requestDownloads_performs second correlation names
  | issueDownloadsWithin correlation clock tokens timeout cancel =>
      refine Operation.Performs.bind ?_ fun _ => Operation.performs_ofResult (.ok _)
      exact broker.downloads_perform second correlation clock tokens
        (fun names =>
          (broker.onMemory second).gate.waitUntilReady_opens clock correlation names timeout
            cancel)
        (broker.requestBehind_performs second correlation)
  | putObject correlation clock grant contentType body =>
      refine Operation.Performs.bind ?_ fun _ => Operation.performs_ofResult (.ok _)
      refine (Operation.performs_atTime _).bind fun _ => ?_
      exact Operation.performs_repeated _ second correlation nofun
  | refreshKeys files correlation =>
      unfold serve refreshKeys
      dsimp only
      cases (broker.onMemory second).verification with
      | passThrough => exact Operation.performs_ofResult (.ok _)
      | stored store =>
          refine Operation.Performs.bind (Operation.Performs.bind ?_ fun loaded => ?_) fun _ =>
            Operation.performs_ofResult (.ok _)
          · exact KeyStore.load_performs second files correlation store.source
          · cases loaded <;> exact Operation.performs_ofResult (.ok _)

end Broker

end ObjectGrants
