import ObjectGrants.Authority.Message
import ObjectGrants.Proofs.JsonText

/-! What travels between a client and the authority arrives as it was sent. Each type on the wire
is shown to be read from the value that it is written as; the text of that value brings it over
unchanged.
-/

namespace ObjectGrants.Json

open ObjectGrants.Json.Tree (embed embedItems embedMembers)

-----------------------------------------------------------------------------------------
-- Faithful types
-----------------------------------------------------------------------------------------

/-- A type on the wire whose data are read from the values that they are written as. -/
class Faithful (α : Type) [Wire α] : Prop where
  integral : ∀ datum : α, Integral (encode datum)
  decoded : ∀ datum : α, decode? (embed (encode datum)) = some datum

/-- A type on the wire none of whose data is written as null. -/
class Visible (α : Type) [Wire α] : Prop where
  visible : ∀ datum : α, encode datum ≠ .null

attribute [simp] Faithful.integral Faithful.decoded

/-- A datum arrives as it was sent, be it as a text or as bytes. -/
structure RoundTrips {α : Type} [Wire α] (datum : α) : Prop where
  text : ofText? (toText datum) = some datum
  bytes : ofBytes? (Text.Utf8.encode (toText datum)) = some datum

/-- The data of a faithful type arrive as they were sent. -/
theorem Faithful.roundTrips {α : Type} [Wire α] [Faithful α] (datum : α) : RoundTrips datum := by
  have read : Document.ofText? (toText datum) = some (embed (encode datum)) :=
    (Faithful.integral datum).ofText?_text
  constructor
  · rw [ofText?, read, Option.bind_some, Faithful.decoded]
  · rw [ofBytes?, Document.ofBytes?_encode, read, Option.bind_some, Faithful.decoded]

-----------------------------------------------------------------------------------------
-- Plain data
-----------------------------------------------------------------------------------------

instance : Faithful String where
  integral := .string
  decoded _ := rfl

instance : Visible String where
  visible _ := nofun

instance : Faithful Bool where
  integral := .bool
  decoded _ := rfl

instance : Faithful UInt64 where
  integral value := by
    have bound := value.toNat_lt
    exact .number ⟨by omega, by omega⟩
  decoded value := by
    have bound : value.toNat < UInt64.size := value.toNat_lt_size
    simp [encode, decode?, embed, Value.ofInt, bound]

instance : Faithful Int64 where
  integral value := .number ⟨value.le_toInt, Int.lt_trans value.toInt_lt (by decide)⟩
  decoded value := by
    have bounds
        : Int64.minValue.toInt ≤ value.toInt ∧ value.toInt ≤ Int64.maxValue.toInt :=
      ⟨value.minValue_le_toInt, value.toInt_le⟩
    change (if _ ∧ _ then some (Int64.ofInt value.toInt) else none) = some value
    rw [if_pos bounds, Int64.ofInt_toInt]

variable {α : Type} [Wire α]

theorem embedItems_eq_map (items : List Value)
    : (embedItems items : List Document) = items.map embed := by
  induction items with
  | nil => rfl
  | cons item items ih => rw [embedItems, ih, List.map_cons]

instance [Faithful α] : Faithful (List α) where
  integral items := .array (by simp)
  decoded items := by
    change (embedItems (items.map encode)).mapM decode? = some items
    rw [embedItems_eq_map, List.map_map]
    induction items with
    | nil => rfl
    | cons item items ih => simp [ih]

instance : Visible (List α) where
  visible _ := nofun

theorem embed_ne_null {value : Value} (visible : value ≠ .null)
    : (embed value : Document) ≠ .null := by
  cases value with
  | null => exact absurd rfl visible
  | flaw cause => cases cause
  | _ => nofun

/-- What is not null is read as a given value. -/
theorem decode?_option {document : Document} (present : document ≠ .null)
    : (decode? document : Option (Option α)) = (decode? document).map some := by
  cases document with
  | null => exact absurd rfl present
  | _ => rfl

instance [Faithful α] [Visible α] : Faithful (Option α) where
  integral
    | none => .null
    | some datum => Faithful.integral datum
  decoded
    | none => rfl
    | some datum => by
        change decode? (embed (encode datum)) = _
        rw [decode?_option (embed_ne_null (Visible.visible datum)), Faithful.decoded,
          Option.map_some]

-----------------------------------------------------------------------------------------
-- Records
-----------------------------------------------------------------------------------------

attribute [simp] embedMembers

@[simp]
theorem embedMembers_append {φ : Type} (early late : List (String × Value))
    : (embedMembers (early ++ late) : List (String × Tree φ))
      = embedMembers early ++ embedMembers late := by
  induction early with
  | nil => rfl
  | cons member early ih => simp [ih]

namespace Record

/-- A record that is an object is read from its members. -/
theorem bind_members? {β : Type} {order : List String} {least : Nat}
    {read : List (String × Document) → Option β} {members : List (String × Value)}
    : (members? order least (embed (.object members))).bind read = read (embedMembers members) :=
  rfl

@[simp]
theorem given_nil (names : List String) : given names [] = [] :=
  rfl

@[simp]
theorem given_cons (names : List String) (member : String × Document)
    (members : List (String × Document))
    : given names (member :: members)
      = if names.contains member.1 then member.2 :: given names members
        else given names members := by
  cases own : names.contains member.1 <;> simp_all [given]

@[simp]
theorem given_append (names : List String) (early late : List (String × Document))
    : given names (early ++ late) = given names early ++ given names late := by
  simp [given]

/-- A field that is left out without a value is given under its own name only. -/
@[simp]
theorem given_ifSome (names : List String) (name : String) (field : Option α)
    : given names (embedMembers (ifSome name field))
      = if names.contains name then (field.map fun datum => embed (encode datum)).toList
        else [] := by
  cases field <;> simp [ifSome]

@[simp]
theorem forall_mem_ifSome (holds : String × Value → Prop) (name : String) (field : Option α)
    : (∀ member ∈ ifSome name field, holds member)
      ↔ ∀ datum ∈ field, holds (name, encode datum) := by
  cases field <;> simp [ifSome]

/-- What a field is read as when `found` is given for it. -/
def readFound (absent : Option α) : List Document → Option α
  | [] => absent
  | [document] => decode? document
  | _ => none

@[simp]
theorem required?_eq_readFound (names : List String) (members : List (String × Document))
    : (required? names members : Option α) = readFound none (given names members) := by
  unfold required? readFound
  rcases given names members with _ | ⟨_, _ | _⟩ <;> rfl

@[simp]
theorem optional?_eq_readFound (names : List String) (absent : α)
    (members : List (String × Document))
    : optional? names absent members = readFound (some absent) (given names members) := by
  unfold optional? readFound
  rcases given names members with _ | ⟨_, _ | _⟩ <;> rfl

@[simp]
theorem readFound_nil (absent : Option α) : readFound absent [] = absent :=
  rfl

@[simp]
theorem readFound_singleton (absent : Option α) (document : Document)
    : readFound absent [document] = decode? document :=
  rfl

/-- A field that is left out without a value is read as it was. -/
@[simp]
theorem readFound_ifSome [Faithful α] [Visible α] (field : Option α)
    : readFound (some none) (field.map fun datum => embed (encode datum)).toList
      = some field := by
  cases field with
  | none => rfl
  | some datum => exact Faithful.decoded (some datum)

end Record

end ObjectGrants.Json

namespace ObjectGrants

open Json Record

-----------------------------------------------------------------------------------------
-- Names
-----------------------------------------------------------------------------------------

instance : Faithful Category where
  integral category := .string category.name
  decoded category := by cases category <;> decide

instance : Visible Category where
  visible _ := nofun

instance : Faithful Status where
  integral status := .string status.name
  decoded status := by cases status <;> decide

-----------------------------------------------------------------------------------------
-- The types on the wire
-----------------------------------------------------------------------------------------

instance : Faithful UploadRequest where
  integral request := .object (by
    simp only [List.forall_mem_append, forall_mem_ifSome, Faithful.integral]
    simp)
  decoded request := by
    apply bind_members?.trans
    simp

instance : Faithful ImageLimits where
  integral limits := .object (by simp)
  decoded limits := by
    apply bind_members?.trans
    simp

instance : Faithful VideoLimits where
  integral limits := .object (by simp)
  decoded limits := by
    apply bind_members?.trans
    simp

instance : Faithful DocumentLimits where
  integral limits := .object (by simp)
  decoded limits := by
    apply bind_members?.trans
    simp

theorem Metadata.member_integral (metadata : Metadata) : Integral metadata.member.2 := by
  cases metadata <;> exact Faithful.integral _

/-- Limits are read from the member that stands for them. -/
theorem Metadata.ofMember?_member (metadata : Metadata)
    : Metadata.ofMember? (metadata.key, metadata.member.2.embed) = some metadata := by
  cases metadata <;> simp [Metadata.ofMember?, Metadata.key, Metadata.member]

instance : Faithful Metadata where
  integral metadata := .object (by simpa using metadata.member_integral)
  decoded metadata := metadata.ofMember?_member

instance : Faithful SignedGrant where
  integral grant := .object (by simp)
  decoded grant := by
    apply bind_members?.trans
    simp

instance : Faithful DownloadGrant where
  integral grant := .object (by simp)
  decoded grant := by
    apply bind_members?.trans
    simp

instance : Faithful ResolvedDownload where
  integral download := .object (by simp)
  decoded download := by
    apply bind_members?.trans
    simp

instance : Faithful TokenStatus where
  integral report := .object (by simp)
  decoded report := by
    apply bind_members?.trans
    simp

instance : Faithful DownloadRequest where
  integral request := .object (by simp)
  decoded request := by
    apply bind_members?.trans
    simp

instance : Faithful UploadCheckRequest where
  integral request := .object (by simp)
  decoded request := by
    apply bind_members?.trans
    simp

instance : Faithful Jwk where
  integral key := .object (by
    simp only [List.forall_mem_cons, List.forall_mem_append, forall_mem_ifSome,
      Faithful.integral]
    simp)
  decoded key := by
    apply bind_members?.trans
    simp

instance : Faithful Jwks where
  integral document := .object (by simp)
  decoded document := by
    apply bind_members?.trans
    simp

instance : Faithful ErrorItem where
  integral item := .object (by simp)
  decoded item := by
    apply bind_members?.trans
    simp

instance : Faithful ErrorEnvelope where
  integral envelope := .object (by simp)
  decoded envelope := by
    apply bind_members?.trans
    simp

instance {α : Type} [Wire α] [Faithful α] [Visible α] : Faithful (Envelope α) where
  integral envelope := .object (by simp)
  decoded envelope := by
    apply bind_members?.trans
    simp

/-- No part of a descriptor is flawed or nests too deep. -/
theorem exists_value?_descriptor (descriptor : UploadDescriptor)
    : ∃ value, Document.value? (Tree.embed (encode descriptor)) = some value := by
  obtain ⟨identifier, fileName, serviceName, category, isPublic, metadata⟩ := descriptor
  cases metadata <;>
    simp [encode, Tree.embed, Value.ofInt, Metadata.member, Document.value?, Document.depthLimit,
      Document.valueWithin]

instance : Faithful UploadDescriptor where
  integral descriptor := .object (by simpa using descriptor.metadata.member_integral)
  decoded descriptor := by
    obtain ⟨value, sound⟩ := exists_value?_descriptor descriptor
    change Option.bind (Document.value? _) _ = _
    rw [sound, Option.bind_some]
    change Option.bind (required? _ (Tree.embedMembers _)) _ = _
    rcases descriptor with ⟨_, _, _, _, _, limits | limits | limits⟩ <;>
      simp [Metadata.member, Metadata.key, Metadata.keys, Metadata.ofMember?]

-----------------------------------------------------------------------------------------
-- The wire
-----------------------------------------------------------------------------------------

/-- The data of a type arrive as they were sent, and so do lists of them in an envelope. -/
structure Travels (α : Type) [Wire α] : Prop where
  alone : ∀ datum : α, RoundTrips datum
  enveloped : ∀ envelope : Envelope (List α), RoundTrips envelope

theorem Faithful.travels (α : Type) [Wire α] [Faithful α] : Travels α where
  alone := Faithful.roundTrips
  enveloped := Faithful.roundTrips

/-- The text of `datum` is an object with one block of limits, which is of the kind of
`metadata`.
-/
def HoldsLimits {α : Type} [Wire α] (datum : α) (metadata : Metadata) : Prop :=
  ∃ members,
    Document.ofText? (toText datum) = some (.object members)
    ∧ (members.map (·.1)).filter (Metadata.keys.contains ·) = [metadata.key]

theorem Metadata.holdsLimits (metadata : Metadata) : HoldsLimits metadata metadata := by
  refine ⟨_, (Faithful.integral metadata).ofText?_text, ?_⟩
  cases metadata <;> rfl

theorem UploadDescriptor.holdsLimits (descriptor : UploadDescriptor)
    : HoldsLimits descriptor descriptor.metadata := by
  refine ⟨_, (Faithful.integral descriptor).ofText?_text, ?_⟩
  rcases descriptor with ⟨_, _, _, _, _, _ | _ | _⟩ <;> rfl

/-- Reading undoes writing for everything that travels, alone and as the data of an envelope, and
limits are sent under the one name of their kind. Witness: the data of every type are
written without doubles, so their text is read as the value that was written.
-/
theorem wire_roundTrips
    : Travels UploadRequest
      ∧ Travels Metadata
      ∧ Travels UploadDescriptor
      ∧ Travels SignedGrant
      ∧ Travels DownloadGrant
      ∧ Travels ResolvedDownload
      ∧ Travels TokenStatus
      ∧ Travels DownloadRequest
      ∧ Travels UploadCheckRequest
      ∧ Travels Jwks
      ∧ Travels ErrorEnvelope
      ∧ (∀ metadata : Metadata, HoldsLimits metadata metadata)
      ∧ ∀ descriptor : UploadDescriptor, HoldsLimits descriptor descriptor.metadata :=
  ⟨Faithful.travels _, Faithful.travels _, Faithful.travels _, Faithful.travels _,
    Faithful.travels _, Faithful.travels _, Faithful.travels _, Faithful.travels _,
    Faithful.travels _, Faithful.travels _, Faithful.travels _, Metadata.holdsLimits,
    UploadDescriptor.holdsLimits⟩

example : toText (⟨["tab\there"], 60⟩ : DownloadRequest)
    = "\x7b\"tokens\":[\"tab\\there\"],\"expiryInSeconds\":60\x7d" := by
  rfl

end ObjectGrants
