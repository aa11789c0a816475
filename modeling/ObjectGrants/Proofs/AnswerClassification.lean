import ObjectGrants.Http.Client

/-! What becomes of a call over HTTP. A call that can be sent is carried once, and what its
exchange means is decided by the exchange alone: which answers count as data is told from the
documents that their bodies are, and all others are faults of that call.
-/

namespace ObjectGrants.Http

open Json

-----------------------------------------------------------------------------------------
-- Bodies with data
-----------------------------------------------------------------------------------------

/-- `document` is an envelope around `datum`. It may go without a message, and its data are given
once and are not null.
-/
def Wraps {α : Type} [Wire α] (datum : α) (document : Document) : Prop :=
  ∃ members message data,
    Record.members? ["message", "data"] 2 document = some members
    ∧ Record.optional? ["message"] (none : Option String) members = some message
    ∧ Record.given ["data"] members = [data]
    ∧ data ≠ .null
    ∧ decode? data = some datum

/-- A field whose absence is the same as null has a value exactly when it is given once, and not
as null.
-/
theorem optional?_eq_some_some_iff {α : Type} [Wire α] (names : List String)
    (members : List (String × Document)) (datum : α)
    : Record.optional? names none members = some (some datum)
      ↔ ∃ document,
          Record.given names members = [document]
          ∧ document ≠ .null
          ∧ decode? document = some datum := by
  unfold Record.optional?
  rcases Record.given names members with _ | ⟨document, _ | ⟨other, rest⟩⟩
  · simp
  · cases document <;> simp [decode?]
  · simp

/-- An envelope is read with data exactly when it is around them. -/
theorem decode?_envelope_iff {α : Type} [Wire α] (document : Document) (datum : α)
    : (∃ message, decode? document = some (⟨message, some datum⟩ : Envelope α))
      ↔ Wraps datum document := by
  have split
      : (∃ message, decode? document = some (⟨message, some datum⟩ : Envelope α))
        ↔ ∃ members message,
            Record.members? ["message", "data"] 2 document = some members
            ∧ Record.optional? ["message"] (none : Option String) members = some message
            ∧ Record.optional? ["data"] none members = some (some datum) := by
    simp only [decode?, Option.bind_eq_bind, Option.bind_eq_some_iff, Option.pure_def,
      Option.some.injEq, Envelope.mk.injEq]
    constructor
    · rintro ⟨_, members, read, message, given, _, present, rfl, rfl⟩
      exact ⟨members, message, read, given, present⟩
    · rintro ⟨members, message, read, given, present⟩
      exact ⟨message, members, read, message, given, some datum, present, rfl, rfl⟩
  simp only [split, Wraps, optional?_eq_some_some_iff ["data"], exists_and_left]

/-- The body of an answer is whole and is the text of a document. -/
def IsDocument (body : Option (List UInt8)) (document : Document) : Prop :=
  ∃ bytes, body = some bytes ∧ Document.ofBytes? bytes = some document

/-- What the body of an answer has to be for an endpoint to give `reply`. The keys stand in a
bare document, and where an object is put no data are expected.
-/
def Gives (body : Option (List UInt8)) : (endpoint : Endpoint) → endpoint.Reply → Prop
  | .bulkUpload, grants => ∃ document, IsDocument body document ∧ Wraps grants document
  | .download, grants => ∃ document, IsDocument body document ∧ Wraps grants document
  | .uploadCheck, reports => ∃ document, IsDocument body document ∧ Wraps reports document
  | .keySet, keys => ∃ document, IsDocument body document ∧ decode? document = some keys
  | .objectPut, _ => True

/-- A body that breaks off gives data only where none are expected. -/
theorem gives_none_iff (endpoint : Endpoint) (reply : endpoint.Reply)
    : Gives none endpoint reply ↔ endpoint = .objectPut := by
  cases endpoint <;> simp [Gives, IsDocument]

theorem enveloped_eq_ok_iff {α : Type} [Wire α] (origin : Origin) (bytes : List UInt8)
    (datum : α)
    : enveloped origin bytes = .ok datum
      ↔ ∃ document, IsDocument (some bytes) document ∧ Wraps datum document := by
  have read
      : enveloped origin bytes = .ok datum
        ↔ ∃ message, ofBytes? bytes = some (⟨message, some datum⟩ : Envelope α) := by
    unfold enveloped
    rcases (ofBytes? bytes : Option (Envelope α)) with _ | ⟨message, _ | data⟩ <;> simp
  simp only [read, ofBytes?, Option.bind_eq_some_iff, ← decode?_envelope_iff, IsDocument,
    Option.some.injEq, exists_eq_left']
  constructor
  · rintro ⟨message, document, text, holds⟩
    exact ⟨document, text, message, holds⟩
  · rintro ⟨document, text, message, holds⟩
    exact ⟨message, document, text, holds⟩

/-- A whole body that gives no data is an answer that cannot be used. -/
theorem enveloped_cases {α : Type} [Wire α] (origin : Origin) (bytes : List UInt8)
    : (∃ datum : α, enveloped origin bytes = .ok datum)
      ∨ ∃ cause, (enveloped origin bytes : Except Fault α) = .error (.malformed origin cause) := by
  unfold enveloped
  rcases (ofBytes? bytes : Option (Envelope α)) with _ | ⟨message, _ | data⟩
  · exact .inr ⟨.badBody, rfl⟩
  · exact .inr ⟨.noData, rfl⟩
  · exact .inl ⟨data, rfl⟩

theorem dataOf_eq_ok_iff (origin : Origin) (bytes : List UInt8) (endpoint : Endpoint)
    (reply : endpoint.Reply)
    : dataOf origin bytes endpoint = .ok reply ↔ Gives (some bytes) endpoint reply := by
  cases endpoint with
  | bulkUpload => exact enveloped_eq_ok_iff origin bytes reply
  | download => exact enveloped_eq_ok_iff origin bytes reply
  | uploadCheck => exact enveloped_eq_ok_iff origin bytes reply
  | keySet =>
      simp only [dataOf, Gives, IsDocument, Option.some.injEq, exists_eq_left',
        ← Option.bind_eq_some_iff]
      change _ ↔ (ofBytes? bytes : Option Jwks) = some reply
      cases (ofBytes? bytes : Option Jwks) <;> simp
  | objectPut => simp [dataOf, Gives]

/-- A body gives one reply at most. -/
theorem Gives.unique {body : Option (List UInt8)} {endpoint : Endpoint}
    {reply other : endpoint.Reply} (gives : Gives body endpoint reply)
    (again : Gives body endpoint other)
    : reply = other := by
  cases body with
  | none =>
      obtain rfl := (gives_none_iff endpoint reply).mp gives
      rfl
  | some bytes =>
      rw [← dataOf_eq_ok_iff ⟨endpoint, .nil⟩] at gives again
      exact Except.ok.inj (gives.symm.trans again)

theorem dataOf_cases (origin : Origin) (bytes : List UInt8) (endpoint : Endpoint)
    : (∃ reply, dataOf origin bytes endpoint = .ok reply)
      ∨ ∃ cause, dataOf origin bytes endpoint = .error (.malformed origin cause) := by
  cases endpoint with
  | bulkUpload => exact enveloped_cases origin bytes
  | download => exact enveloped_cases origin bytes
  | uploadCheck => exact enveloped_cases origin bytes
  | keySet =>
      unfold dataOf
      cases (ofBytes? bytes : Option Jwks) with
      | none => exact .inr ⟨.badBody, rfl⟩
      | some keys => exact .inl ⟨keys, rfl⟩
  | objectPut => exact .inl ⟨(), rfl⟩

-----------------------------------------------------------------------------------------
-- Exchanges
-----------------------------------------------------------------------------------------

/-- A refusal is a refusal in words, or counts as the authority being out of reach. -/
theorem rejection_cases (origin : Origin) (status : Nat) (body : String)
    : (∃ code message, rejection origin status body = .rejected origin code message (some status))
      ∨ rejection origin status body = .unavailable origin (.status status) := by
  unfold rejection
  dsimp only
  split
  · exact .inl ⟨_, _, rfl⟩
  · split
    · exact .inr rfl
    · exact .inl ⟨_, _, rfl⟩

theorem rejection_ne_malformed (origin other : Origin) (status : Nat) (body : String)
    (cause : AnswerFault)
    : rejection origin status body ≠ .malformed other cause := by
  rcases rejection_cases origin status body with ⟨_, _, same⟩ | same <;> simp [same]

/-- A refusal names its call. -/
theorem rejection_origin? (origin : Origin) (status : Nat) (body : String)
    : (rejection origin status body).origin? = some origin := by
  rcases rejection_cases origin status body with ⟨_, _, same⟩ | same <;> rw [same] <;> rfl

variable (library : Library) (correlation : CorrelationId) (endpoint : Endpoint)

/-- Everything that an exchange about a call of `endpoint` can mean. -/
inductive Outcome : Exchange → Except Fault endpoint.Reply → Prop
  | data {status contentType} {body : Option (List UInt8)} {reply : endpoint.Reply}
      (success : isSuccess status) (gives : Gives body endpoint reply)
      : Outcome (.answered status contentType body) (.ok reply)
  | malformed {status contentType} {bytes : List UInt8} (cause : AnswerFault)
      (success : isSuccess status) (nothing : ∀ reply, ¬ Gives (some bytes) endpoint reply)
      : Outcome (.answered status contentType (some bytes))
          (.error (.malformed ⟨endpoint, correlation⟩ cause))
  | broken {status contentType} (success : isSuccess status) (expects : endpoint ≠ .objectPut)
      : Outcome (.answered status contentType none)
          (.error (.unavailable ⟨endpoint, correlation⟩ .bodyBroken))
  | refused {status contentType} {body : Option (List UInt8)} (refused : ¬ isSuccess status)
      : Outcome (.answered status contentType body)
          (.error (rejection ⟨endpoint, correlation⟩ status (refusalText library contentType body)))
  | failed : Outcome .failed (.error (.unavailable ⟨endpoint, correlation⟩ .requestFailed))
  | timedOut : Outcome .timedOut (.error (.unavailable ⟨endpoint, correlation⟩ .timedOut))

/-- A whole body of a successful answer gives data or cannot be used. -/
theorem classify_whole {status : Nat} (success : isSuccess status)
    (contentType : Option String) (bytes : List UInt8)
    : Outcome library correlation endpoint (.answered status contentType (some bytes))
        (classify library correlation endpoint
          (.answered status contentType (some bytes))) := by
  have looked_at
      : classify library correlation endpoint (.answered status contentType (some bytes))
        = dataOf ⟨endpoint, correlation⟩ bytes endpoint := by
    cases endpoint <;> simp [classify, success, dataOf]
  rw [looked_at]
  rcases dataOf_cases ⟨endpoint, correlation⟩ bytes endpoint with ⟨reply, given⟩ | ⟨cause, given⟩
  · rw [given]
    exact .data success ((dataOf_eq_ok_iff _ bytes endpoint reply).mp given)
  · rw [given]
    refine .malformed cause success fun reply holds => ?_
    rw [(dataOf_eq_ok_iff _ bytes endpoint reply).mpr holds] at given
    cases given

theorem classify_outcome (exchange : Exchange)
    : Outcome library correlation endpoint exchange
        (classify library correlation endpoint exchange) := by
  rcases exchange with _ | _ | ⟨status, contentType, body⟩
  · exact .failed
  · exact .timedOut
  by_cases success : isSuccess status
  · rcases body with _ | bytes
    · by_cases put : endpoint = .objectPut
      · subst put
        simpa only [classify, success, if_true] using .data success trivial
      · have broken
            : classify library correlation endpoint (.answered status contentType none)
              = .error (.unavailable ⟨endpoint, correlation⟩ .bodyBroken) := by
          cases endpoint <;> simp_all [classify]
        rw [broken]
        exact .broken success put
    · exact classify_whole library correlation endpoint success contentType bytes
  · simpa only [classify, success, if_false] using .refused success

/-- `answer` is what the exchange `exchange` about a call of `endpoint` means. -/
structure Classified (exchange : Exchange) (answer : Except Fault endpoint.Reply) : Prop where
  /-- Data are given by the whole bodies of successful answers, and by nothing else. -/
  data
    : ∀ reply,
        answer = .ok reply
        ↔ ∃ status contentType body,
            exchange = .answered status contentType body
            ∧ isSuccess status
            ∧ Gives body endpoint reply
  /-- An answer that cannot be used is a successful one with a whole body without data. -/
  malformed
    : (∃ origin cause, answer = .error (.malformed origin cause))
      ↔ ∃ status contentType bytes,
          exchange = .answered status contentType (some bytes)
          ∧ isSuccess status
          ∧ ∀ reply, ¬ Gives (some bytes) endpoint reply
  failed
    : exchange = .failed
      → answer = .error (.unavailable ⟨endpoint, correlation⟩ .requestFailed)
  timedOut
    : exchange = .timedOut → answer = .error (.unavailable ⟨endpoint, correlation⟩ .timedOut)
  broken
    : ∀ status contentType,
        exchange = .answered status contentType none
        → isSuccess status
        → endpoint ≠ .objectPut
        → answer = .error (.unavailable ⟨endpoint, correlation⟩ .bodyBroken)
  /-- Without success the status and the text of the body decide, where a broken body counts as
  empty. -/
  refused
    : ∀ status contentType body,
        exchange = .answered status contentType body
        → ¬ isSuccess status
        → answer
          = .error (rejection ⟨endpoint, correlation⟩ status (refusalText library contentType body))
  /-- Every fault names the call. -/
  named : ∀ fault, answer = .error fault → fault.origin? = some ⟨endpoint, correlation⟩

variable {library : Library} {correlation : CorrelationId} {endpoint : Endpoint}
  {exchange : Exchange}
  {answer : Except Fault endpoint.Reply}

/-- Every outcome names the call. -/
theorem Outcome.named (outcome : Outcome library correlation endpoint exchange answer)
    {fault : Fault} (given : answer = .error fault)
    : fault.origin? = some ⟨endpoint, correlation⟩ := by
  cases outcome with
  | data => cases given
  | malformed => cases given; rfl
  | broken => cases given; rfl
  | refused =>
      cases given
      exact rejection_origin? _ _ _
  | failed => cases given; rfl
  | timedOut => cases given; rfl

/-- The outcomes exclude each other. Witness: a body gives one reply at most, and a refusal is
never an answer that cannot be used.
-/
theorem Outcome.classified (outcome : Outcome library correlation endpoint exchange answer)
    : Classified library correlation endpoint exchange answer where
  data reply := by
    constructor
    · rintro rfl
      cases outcome with
      | data success gives => exact ⟨_, _, _, rfl, success, gives⟩
    · rintro ⟨status, contentType, body, rfl, success, gives⟩
      cases outcome with
      | data _ given => rw [given.unique gives]
      | malformed _ _ nothing => exact absurd gives (nothing reply)
      | broken _ expects => exact absurd ((gives_none_iff endpoint reply).mp gives) expects
      | refused refused => exact absurd success refused
  malformed := by
    constructor
    · rintro ⟨origin, cause, given⟩
      cases outcome with
      | data => cases given
      | malformed _ success nothing => exact ⟨_, _, _, rfl, success, nothing⟩
      | broken => cases given
      | refused => exact absurd (Except.error.inj given) (rejection_ne_malformed _ _ _ _ _)
      | failed => cases given
      | timedOut => cases given
    · rintro ⟨status, contentType, bytes, rfl, success, nothing⟩
      cases outcome with
      | data _ gives => exact absurd gives (nothing _)
      | malformed cause => exact ⟨_, cause, rfl⟩
      | refused refused => exact absurd success refused
  failed := by
    rintro rfl
    cases outcome
    rfl
  timedOut := by
    rintro rfl
    cases outcome
    rfl
  broken := by
    rintro status contentType rfl success expects
    cases outcome with
    | data _ gives => exact absurd ((gives_none_iff endpoint _).mp gives) expects
    | broken => rfl
    | refused refused => exact absurd success refused
  refused := by
    rintro status contentType body rfl refused
    cases outcome with
    | data success => exact absurd success refused
    | malformed _ success => exact absurd success refused
    | broken success => exact absurd success refused
    | refused => rfl
  named _ := outcome.named

-----------------------------------------------------------------------------------------
-- Calls
-----------------------------------------------------------------------------------------

/-- The URL that a call goes to. -/
def urlOf (base : String) : Call → String
  | .objectPut url _ _ => url
  | call => joinUrl base (pathOf call.endpoint)

/-- The URL of a call is one for the library, and what the call puts into headers can stand
there.
-/
structure Sendable (library : Library) (base : String) (correlation : CorrelationId)
    (call : Call)
    : Prop where
  url : ∃ url, library.url? (urlOf base call) = some url
  identified : isHeaderValue correlation.text
  contentType
    : ∀ url contentType body,
        call = .objectPut url contentType body → isHeaderValue contentType

theorem sendable_iff (library : Library) (base : String) (correlation : CorrelationId)
    (call : Call)
    : Sendable library base correlation call
      ↔ (∃ url, library.url? (urlOf base call) = some url)
        ∧ isHeaderValue correlation.text
        ∧ ∀ url contentType body,
            call = .objectPut url contentType body → isHeaderValue contentType :=
  ⟨fun sendable => ⟨sendable.url, sendable.identified, sendable.contentType⟩,
    fun ⟨url, identified, contentType⟩ => ⟨url, identified, contentType⟩⟩

theorem Request.exists_build?_iff (library : Library) (method : Method) (url : String)
    (headers : List (String × String)) (body : List UInt8)
    : (∃ request, Request.build? library method url headers body = some request)
      ↔ (∃ parsed, library.url? url = some parsed)
        ∧ ∀ header ∈ headers, isHeaderValue header.2 := by
  rw [← List.all_eq_true]
  unfold Request.build?
  cases library.url? url with
  | none => simp
  | some parsed => cases headers.all fun header => isHeaderValue header.2 <;> simp

/-- A request can be built for the calls that can be sent, and for no others. -/
theorem exists_requestFor_iff (library : Library) (base : String)
    (correlation : CorrelationId) (call : Call)
    : (∃ request, requestFor library base correlation call = some request)
      ↔ Sendable library base correlation call := by
  have posted : isHeaderValue "application/json" = true := by decide
  have ranged : isHeaderValue objectRange = true := by decide
  rw [sendable_iff]
  cases call with
  | objectPut url contentType body =>
      simp [requestFor, Request.exists_build?_iff, urlOf, ranged, and_comm]
  | _ => simp [requestFor, Request.exists_build?_iff, urlOf, Call.endpoint, posted]

/-- A call to put an object to an empty URL. -/
def LacksUrl (call : Call) : Prop :=
  ∃ contentType body, call = .objectPut "" contentType body

/-- A missing URL is noticed before the request is built. -/
theorem lacksUrl_iff (call : Call)
    : (match call with
        | .objectPut url _ _ => url.isEmpty
        | _ => false) = true
      ↔ LacksUrl call := by
  cases call with
  | objectPut url contentType body =>
      rw [String.isEmpty_iff]
      constructor
      · rintro rfl
        exact ⟨contentType, body, rfl⟩
      · rintro ⟨_, _, same⟩
        cases same
        rfl
  | _ => simp [LacksUrl]

section

variable {σ : Type} {library : Library} {base : String} {transport : Transport σ}
  {correlation : CorrelationId} {call : Call} {state : σ} (has_url : ¬ LacksUrl call)
include has_url

/-- The check for an empty URL lets a call pass that does not lack it. -/
theorem accept_of_not_lacksUrl
    : (authority library base transport).accept correlation call state
      = match requestFor library base correlation call with
        | none =>
            .immediate (.error (.unavailable ⟨call.endpoint, correlation⟩ .requestFailed)) state
        | some request =>
            { delay := (transport request state).delay
              state := (transport request state).state
              finish := fun later =>
                (classify library correlation call.endpoint
                    ((transport request state).finish later).1,
                  ((transport request state).finish later).2) } := by
  have passes := fun empty => has_url ((lacksUrl_iff call).mp empty)
  refine (if_neg passes).trans ?_
  generalize requestFor library base correlation call = built
  cases built <;> rfl

end

/-- `pending` is a request under way: the transport is used once, from `state` on, and once its
exchange is there, it is classified.
-/
structure Carries {σ : Type} (library : Library) (correlation : CorrelationId)
    (endpoint : Endpoint) (sent : Pending σ Exchange)
    (pending : Pending σ (Except Fault endpoint.Reply))
    : Prop where
  delay : pending.delay = sent.delay
  state : pending.state = sent.state
  left : ∀ later, (pending.finish later).2 = (sent.finish later).2
  classified
    : ∀ later,
        Classified library correlation endpoint (sent.finish later).1 (pending.finish later).1

/-- Every call is carried at most once, and its exchange is classified. A call that cannot be sent
is refused at once, and nothing is asked of the transport: without a URL because of its input,
otherwise as the authority being out of reach. Witness: a request can be built exactly for the
calls that can be sent, and the outcomes of an exchange exclude each other.
-/
theorem authority_classifies {σ : Type} (library : Library) (base : String)
    (transport : Transport σ) (correlation : CorrelationId) (call : Call) (state : σ)
    : (Sendable library base correlation call
        → ¬ LacksUrl call
        → ∃ request,
            requestFor library base correlation call = some request
            ∧ Carries library correlation call.endpoint (transport request state)
                ((authority library base transport).accept correlation call state))
      ∧ (LacksUrl call
          → (authority library base transport).accept correlation call state
            = .immediate (.error (.invalidRequest .emptyUrl)) state)
      ∧ (¬ Sendable library base correlation call
          → ¬ LacksUrl call
          → (authority library base transport).accept correlation call state
            = .immediate (.error (.unavailable ⟨call.endpoint, correlation⟩ .requestFailed))
                state) := by
  refine ⟨fun sendable has_url => ?_, ?_, fun unsendable has_url => ?_⟩
  · obtain ⟨request, built⟩ := (exists_requestFor_iff library base correlation call).mpr sendable
    refine ⟨request, built, ?_⟩
    rw [accept_of_not_lacksUrl has_url, built]
    exact ⟨rfl, rfl, fun _ => rfl, fun later => (classify_outcome _ _ _ _).classified⟩
  · rintro ⟨contentType, body, rfl⟩
    rfl
  · have unbuilt : requestFor library base correlation call = none := by
      rw [Option.eq_none_iff_forall_ne_some]
      exact fun request built =>
        unsendable ((exists_requestFor_iff library base correlation call).mp ⟨request, built⟩)
    rw [accept_of_not_lacksUrl has_url, unbuilt]

/-- A refusal whose body is in another encoding than UTF-8, as its content type tells, is reported
with the text that the body has in that encoding.
-/
theorem authority_classifies_western
    : let base := "https://authority.example/v1/"
      let call : Call := .uploadCheck ["object-1"]
      let exchange : Exchange :=
        .answered 429 (some "text/plain; charset=ISO-8859-1") (some [0x7A, 0x75, 0x20, 0xFC])
      let transport : Transport Unit := fun _ state => .immediate exchange state
      let answer := ((authority .standard base transport).accept .nil call ()).finish ()
      Sendable .standard base .nil call
      ∧ ¬ LacksUrl call
      ∧ Classified .standard .nil .uploadCheck exchange answer.1
      ∧ answer.1 = .error (rejection ⟨.uploadCheck, .nil⟩ 429 "zu ü") := by
  intro base call exchange transport answer
  have url : (Library.standard.url? (urlOf base call)).isSome = true := by decide +kernel
  have sendable : Sendable .standard base .nil call :=
    ⟨Option.isSome_iff_exists.mp url, by decide, nofun⟩
  have has_url : ¬ LacksUrl call := nofun
  obtain ⟨_, _, carries⟩ :=
    (authority_classifies .standard base transport .nil call ()).1 sendable has_url
  have classified : Classified .standard .nil .uploadCheck exchange answer.1 :=
    carries.classified ()
  have text
      : refusalText .standard (some "text/plain; charset=ISO-8859-1")
          (some [0x7A, 0x75, 0x20, 0xFC])
        = "zu ü" := by
    decide +kernel
  have refused := classified.refused 429 _ _ rfl (by decide)
  rw [text] at refused
  exact ⟨sendable, has_url, classified, refused⟩

example : classify .standard .nil .uploadCheck
    (.answered 200 none (some (Text.Utf8.encode "\x7b\"data\": null\x7d")))
    = .error (.malformed ⟨.uploadCheck, .nil⟩ .noData) := by
  rfl

end ObjectGrants.Http
