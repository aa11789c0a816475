import ObjectGrants.Http.Client
import ObjectGrants.Proofs.BlankText
import ObjectGrants.Proofs.Traversal

/-! What an answer without success is taken for. The first entry of a list of errors is passed on
as it is, whatever the status; any other body leaves the decision to the status. Which bodies
list errors is told from the documents that they are.
-/

namespace ObjectGrants.Http

open Json

-----------------------------------------------------------------------------------------
-- Lists of errors
-----------------------------------------------------------------------------------------

/-- A field with a text, which is empty when it is left out. -/
inductive HasText (members : List (String × Document)) (name : String) : String → Prop
  | given {text} (once : Record.given [name] members = [.string text])
    : HasText members name text
  | absent (never : Record.given [name] members = []) : HasText members name ""

/-- A field with a text, which may be null or left out. -/
inductive HasNote (members : List (String × Document)) (name : String) : Option String → Prop
  | given {text} (once : Record.given [name] members = [.string text])
    : HasNote members name (some text)
  | null (once : Record.given [name] members = [.null]) : HasNote members name none
  | absent (never : Record.given [name] members = []) : HasNote members name none

/-- `document` is an entry of a list of errors. All of its fields may be left out, and it may have
others besides.
-/
def IsError (document : Document) (item : ErrorItem) : Prop :=
  ∃ members,
    Record.members? ["reqId", "code", "message"] 0 document = some members
    ∧ HasNote members "reqId" item.requestId
    ∧ HasText members "code" item.code
    ∧ HasText members "message" item.message

/-- `document` lists the errors `items`. It lists none when the list itself is left out. -/
inductive ListsErrors (document : Document) : List ErrorItem → Prop
  | given {members entries items}
    (fields : Record.members? ["errors"] 0 document = some members)
    (once : Record.given ["errors"] members = [.array entries])
    (each : List.Forall₂ IsError entries items)
    : ListsErrors document items
  | absent {members} (fields : Record.members? ["errors"] 0 document = some members)
    (never : Record.given ["errors"] members = [])
    : ListsErrors document []

theorem optional?_text_iff {members : List (String × Document)} {name text : String}
    : Record.optional? [name] "" members = some text ↔ HasText members name text := by
  constructor
  · intro read
    unfold Record.optional? at read
    split at read
    · next never =>
        obtain rfl := Option.some.inj read
        exact .absent never
    · next document once =>
        cases document <;> simp [decode?] at read
        exact .given (read ▸ once)
    · exact nomatch read
  · intro holds
    cases holds with
    | given once => simp [Record.optional?, once, decode?]
    | absent never => simp [Record.optional?, never]

theorem optional?_note_iff {members : List (String × Document)} {name : String}
    {note : Option String}
    : Record.optional? [name] none members = some note ↔ HasNote members name note := by
  constructor
  · intro read
    unfold Record.optional? at read
    split at read
    · next never =>
        obtain rfl := Option.some.inj read
        exact .absent never
    · next document once =>
        cases document <;> simp [decode?] at read
        · exact read ▸ .null once
        · exact read ▸ .given once
    · exact nomatch read
  · intro holds
    cases holds with
    | given once => simp [Record.optional?, once, decode?]
    | null once => simp [Record.optional?, once, decode?]
    | absent never => simp [Record.optional?, never]

theorem decode?_errorItem_iff {document : Document} {item : ErrorItem}
    : decode? document = some item ↔ IsError document item := by
  obtain ⟨requestId, code, message⟩ := item
  simp only [IsError, ← optional?_note_iff, ← optional?_text_iff]
  simp only [decode?, Option.bind_eq_bind, Option.bind_eq_some_iff, Option.pure_def,
    Option.some.injEq, ErrorItem.mk.injEq]
  constructor
  · intro holds
    obtain ⟨members, fields, _, note, _, first, _, second, rfl, rfl, rfl⟩ := holds
    exact ⟨members, fields, note, first, second⟩
  · intro holds
    obtain ⟨members, fields, note, first, second⟩ := holds
    exact ⟨members, fields, _, note, _, first, _, second, rfl, rfl, rfl⟩

theorem decode?_errorEnvelope_iff {document : Document} {items : List ErrorItem}
    : decode? document = some (⟨items⟩ : ErrorEnvelope) ↔ ListsErrors document items := by
  have entries_iff {entries : List Document}
      : decode? (.array entries) = some items ↔ List.Forall₂ IsError entries items := by
    have each : (fun entry item => decode? entry = some item) = IsError :=
      funext₂ fun _ _ => propext decode?_errorItem_iff
    rw [← each]
    exact Traversal.mapM_eq_some_iff
  have read_iff
      : decode? document = some (⟨items⟩ : ErrorEnvelope)
        ↔ ∃ members,
            Record.members? ["errors"] 0 document = some members
            ∧ Record.optional? ["errors"] [] members = some items := by
    simp only [decode?, Option.bind_eq_bind, Option.bind_eq_some_iff, Option.pure_def,
      Option.some.injEq, ErrorEnvelope.mk.injEq, exists_eq_right]
  rw [read_iff]
  constructor
  · intro holds
    obtain ⟨members, fields, read⟩ := holds
    unfold Record.optional? at read
    split at read
    · next never =>
        obtain rfl := Option.some.inj read
        exact .absent fields never
    · next document once =>
        cases document with
        | array entries => exact .given fields once (entries_iff.mp read)
        | _ => exact nomatch read
    · exact nomatch read
  · intro holds
    cases holds with
    | given fields once each =>
        exact ⟨_, fields, by simpa only [Record.optional?, once] using entries_iff.mpr each⟩
    | absent fields never => exact ⟨_, fields, by simp only [Record.optional?, never]⟩

-----------------------------------------------------------------------------------------
-- Bodies
-----------------------------------------------------------------------------------------

/-- `item` is the first error that a body lists. -/
def FirstError (body : String) (item : ErrorItem) : Prop :=
  ∃ document rest,
    Document.ofText? body = some document ∧ ListsErrors document (item :: rest)

/-- A body has no first error: it is no document, one that is no list of errors, or an empty list.
-/
inductive Errorless (body : String) : Prop
  | noDocument (unread : Document.ofText? body = none)
  | otherShape {document} (read : Document.ofText? body = some document)
    (other : ∀ items, ¬ ListsErrors document items)
  | noErrors {document} (read : Document.ofText? body = some document)
    (empty : ListsErrors document [])

/-- The first error of a body, as it is looked for. -/
def firstError? (body : String) : Option ErrorItem :=
  ((ofText? body : Option ErrorEnvelope).map (·.errors)).bind List.head?

theorem firstError?_eq_some_iff {body : String} {item : ErrorItem}
    : firstError? body = some item ↔ FirstError body item := by
  simp only [firstError?, FirstError, ← decode?_errorEnvelope_iff, ofText?,
    Option.bind_eq_some_iff, Option.map_eq_some_iff, List.head?_eq_some_iff]
  constructor
  · intro holds
    obtain ⟨_, ⟨⟨items⟩, ⟨document, read, lists⟩, rfl⟩, rest, rfl⟩ := holds
    exact ⟨document, rest, read, lists⟩
  · intro holds
    obtain ⟨document, rest, read, lists⟩ := holds
    exact ⟨_, ⟨_, ⟨document, read, lists⟩, rfl⟩, rest, rfl⟩

/-- A body without a first error is one of three things, by cases on what is read from it. -/
theorem firstError?_eq_none_iff {body : String}
    : firstError? body = none ↔ Errorless body := by
  constructor
  · intro missing
    cases read : Document.ofText? body with
    | none => exact .noDocument read
    | some document =>
        cases lists : (decode? document : Option ErrorEnvelope) with
        | none =>
            refine .otherShape read fun items listed => ?_
            exact nomatch lists.symm.trans (decode?_errorEnvelope_iff.mpr listed)
        | some envelope =>
            obtain ⟨items⟩ := envelope
            cases items with
            | nil => exact .noErrors read (decode?_errorEnvelope_iff.mp lists)
            | cons item rest =>
                have first : FirstError body item :=
                  ⟨document, rest, read, decode?_errorEnvelope_iff.mp lists⟩
                exact nomatch missing.symm.trans (firstError?_eq_some_iff.mpr first)
  · intro errorless
    rw [Option.eq_none_iff_forall_ne_some]
    intro item found
    obtain ⟨document, rest, read, lists⟩ := firstError?_eq_some_iff.mp found
    cases errorless with
    | noDocument unread => exact nomatch unread.symm.trans read
    | otherShape again other =>
        obtain rfl := Option.some.inj (read.symm.trans again)
        exact other _ lists
    | noErrors again empty =>
        obtain rfl := Option.some.inj (read.symm.trans again)
        have both := (decode?_errorEnvelope_iff.mpr lists).symm.trans
          (decode?_errorEnvelope_iff.mpr empty)
        cases both

-----------------------------------------------------------------------------------------
-- Faults
-----------------------------------------------------------------------------------------

/-- The message for a status and a body that lists no errors: what the body says, or else the
reason of the status if it has a standard one.
-/
inductive Words (status : Nat) (body : String) : String → Prop
  | body {message} (filled : Text.isBlankText body = false) (trims : Text.Trims body message)
    : Words status body message
  | reason {reason} (blank : Text.isBlankText body = true)
    (standard : httpReason? status = some reason)
    : Words status body reason
  | none (blank : Text.isBlankText body = true) (unknown : httpReason? status = none)
    : Words status body "upstream error"

/-- No standard reason is blank, by a look through the table. -/
theorem httpReason?_filled {status : Nat} {reason : String}
    (standard : httpReason? status = some reason)
    : Text.isBlankText reason = false := by
  have each {table : List (Nat × String)}
      (filled : table.all fun entry => !Text.isBlankText entry.2)
      (found : table.lookup status = some reason)
      : Text.isBlankText reason = false := by
    obtain ⟨before, behind, rfl, _⟩ := List.lookup_eq_some_iff.mp found
    simp at filled
    exact filled.2.1
  exact each (by decide) standard

/-- How an answer without success is classified. -/
structure Rejects (origin : Origin) (status : Nat) (body : String) (fault : Fault) : Prop where
  /-- The first error of a body is passed on, whatever the status and the errors behind it. -/
  listed
    : ∀ item,
        FirstError body item
        → fault = .rejected origin item.code item.message (some status)
  /-- Without errors, three statuses stand for an authority that is out of reach, and no others. -/
  outage
    : Errorless body
      → ((∃ cause, fault = .unavailable origin cause)
        ↔ status = 502 ∨ status = 503 ∨ status = 504)
  /-- All others are refusals by status, with a message that is not blank. -/
  byStatus
    : Errorless body
      → ¬ (status = 502 ∨ status = 503 ∨ status = 504)
      → ∃ message,
          fault = .rejected origin ("HTTP_" ++ toString status) message (some status)
          ∧ Words status body message
          ∧ Text.isBlankText message = false
  /-- A body lists errors or does not. -/
  either : Errorless body ↔ ¬ ∃ item, FirstError body item

theorem rejection_of_firstError {origin : Origin} {status : Nat} {body : String}
    {item : ErrorItem} (first : FirstError body item)
    : rejection origin status body
      = .rejected origin item.code item.message (some status) := by
  have found := firstError?_eq_some_iff.mpr first
  unfold firstError? at found
  simp only [rejection, found]

theorem rejection_of_outage {origin : Origin} {status : Nat} {body : String}
    (errorless : Errorless body) (outage : status = 502 ∨ status = 503 ∨ status = 504)
    : rejection origin status body = .unavailable origin (.status status) := by
  have missing := firstError?_eq_none_iff.mpr errorless
  unfold firstError? at missing
  simp only [rejection, missing, if_pos outage]

/-- The words of a refusal by status are filled: a body that is used is not blank, and neither is
any reason. Witness: what is left of the body after trimming.
-/
theorem rejection_of_status {origin : Origin} {status : Nat} {body : String}
    (errorless : Errorless body) (refused : ¬ (status = 502 ∨ status = 503 ∨ status = 504))
    : ∃ message,
        rejection origin status body
          = .rejected origin ("HTTP_" ++ toString status) message (some status)
        ∧ Words status body message
        ∧ Text.isBlankText message = false := by
  have missing := firstError?_eq_none_iff.mpr errorless
  unfold firstError? at missing
  simp only [rejection, missing, if_neg refused]
  refine ⟨_, rfl, ?_⟩
  cases blank : Text.isBlankText body with
  | false =>
      rw [if_neg Bool.false_ne_true]
      exact ⟨.body blank (Text.trims_trim body), Text.isBlankText_trim blank⟩
  | true =>
      rw [if_pos rfl]
      cases standard : httpReason? status with
      | none => exact ⟨.none blank standard, by decide⟩
      | some reason => exact ⟨.reason blank standard, httpReason?_filled standard⟩

/-- Whatever the status and the body are, the first error of the body decides if it has one, and
the status does otherwise.
-/
theorem rejection_decides {origin : Origin} {status : Nat} {body : String}
    : Rejects origin status body (rejection origin status body) where
  listed _ first := rejection_of_firstError first
  outage errorless := by
    constructor
    · intro unavailable
      obtain ⟨cause, same⟩ := unavailable
      refine Classical.not_not.mp fun refused => ?_
      obtain ⟨_, rejected, _⟩ := rejection_of_status errorless refused
      exact nomatch same.symm.trans rejected
    · intro outage
      exact ⟨_, rejection_of_outage errorless outage⟩
  byStatus errorless refused := rejection_of_status errorless refused
  either := by
    rw [← firstError?_eq_none_iff, Option.eq_none_iff_forall_ne_some]
    simp only [← firstError?_eq_some_iff, not_exists, ne_eq]

end ObjectGrants.Http
