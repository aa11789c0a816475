import ObjectGrants.Proofs.WireRoundTrip

/-! Grants as the authority spells them. An object is read as a grant exactly if it gives each
field once, under one of its names, or leaves out one that has a default; the order of the
members and the members that are no fields do not count.
-/

namespace ObjectGrants.Json

open ObjectGrants.Json.Tree (embed)

-----------------------------------------------------------------------------------------
-- Fields of an object
-----------------------------------------------------------------------------------------

namespace Record

variable {names : List String} {members : List (String × Document)} {document : Document}

/-- One member gives the field that is known by `names`, and it holds `document`. -/
def GivenOnce (names : List String) (members : List (String × Document)) (document : Document)
    : Prop :=
  ∃ early name late,
    members = early ++ (name, document) :: late
    ∧ name ∈ names
    ∧ ∀ other ∈ early ++ late, other.1 ∉ names

/-- No member gives the field that is known by `names`. -/
def NeverGiven (names : List String) (members : List (String × Document)) : Prop :=
  ∀ member ∈ members, member.1 ∉ names

/-- Two members give the field that is known by `names`, under one of them or under two. -/
def GivenTwice (names : List String) (members : List (String × Document)) : Prop :=
  ∃ first second,
    [first, second].Sublist members ∧ first.1 ∈ names ∧ second.1 ∈ names

theorem given_eq_nil_iff : given names members = [] ↔ NeverGiven names members := by
  simp [given, NeverGiven]

theorem given_eq_singleton_iff
    : given names members = [document] ↔ GivenOnce names members document := by
  unfold given GivenOnce
  rw [List.map_eq_singleton_iff]
  constructor
  · rintro ⟨⟨name, _⟩, only, rfl⟩
    obtain ⟨early, late, split, before, known, behind⟩ := List.filter_eq_cons_iff.mp only
    refine ⟨early, name, late, split, by simpa using known, ?_⟩
    rw [List.forall_mem_append]
    exact ⟨fun other member => by simpa using before other member,
      fun other member => by simpa using List.filter_eq_nil_iff.mp behind other member⟩
  · rintro ⟨early, name, late, split, known, others⟩
    rw [List.forall_mem_append] at others
    refine ⟨(name, document), List.filter_eq_cons_iff.mpr ⟨early, late, split, ?_, ?_, ?_⟩, rfl⟩
    · exact fun other member => by simpa using others.1 other member
    · simpa using known
    · exact List.filter_eq_nil_iff.mpr fun other member => by simpa using others.2 other member

/-- A field that is given twice is given by two members at least. -/
theorem GivenTwice.two_le_length (twice : GivenTwice names members)
    : 2 ≤ (given names members).length := by
  obtain ⟨first, second, both, known, also⟩ := twice
  have kept := (both.filter fun member => names.contains member.1).length_le
  simpa [given, known, also] using kept

theorem GivenOnce.not_twice (once : GivenOnce names members document)
    : ¬ GivenTwice names members := by
  intro twice
  have two := twice.two_le_length
  rw [given_eq_singleton_iff.mpr once, List.length_singleton] at two
  omega

theorem GivenOnce.not_never (once : GivenOnce names members document)
    : ¬ NeverGiven names members := by
  intro never
  rw [← given_eq_nil_iff, given_eq_singleton_iff.mpr once] at never
  exact nomatch never

theorem NeverGiven.not_twice (never : NeverGiven names members)
    : ¬ GivenTwice names members := by
  intro twice
  have two := twice.two_le_length
  rw [given_eq_nil_iff.mpr never, List.length_nil] at two
  omega

end Record

-----------------------------------------------------------------------------------------
-- Fields with plain data
-----------------------------------------------------------------------------------------

/-- A type on the wire each of whose data is read from one document only. -/
class Plain (α : Type) [Wire α] : Prop where
  decode?_eq_some_iff
    : ∀ {document : Document} {datum : α},
        decode? document = some datum ↔ document = embed (encode datum)

instance : Plain String where
  decode?_eq_some_iff {document text} := by
    change _ ↔ document = .string text
    cases document <;> simp [decode?]

instance : Plain Int64 where
  decode?_eq_some_iff {document datum} := by
    refine ⟨fun read => ?_, fun same => same ▸ Faithful.decoded datum⟩
    change document = .number (.integer datum.toInt)
    cases document with
    | number value =>
        cases value with
        | integer value =>
            change (if _ ∧ _ then some (Int64.ofInt value) else none) = some datum at read
            split at read
            · next range =>
                obtain rfl := Option.some.inj read
                rw [Int64.toInt_ofInt_of_le range.1 (Int.lt_of_le_sub_one range.2)]
            · exact nomatch read
        | double value => simp [decode?] at read
    | _ => simp [decode?] at read

namespace Record

variable {α : Type} [Wire α] [Plain α] {names : List String}
  {members : List (String × Document)} {absent datum : α}

/-- A field that has to be given is read if it is given once, as the datum that it holds. -/
theorem required?_eq_some_iff
    : required? names members = some datum
      ↔ GivenOnce names members (embed (encode datum)) := by
  rw [← given_eq_singleton_iff, required?_eq_readFound]
  rcases given names members with _ | ⟨document, _ | _⟩ <;>
    simp [readFound, Plain.decode?_eq_some_iff]

/-- A field with a default is read if it is not given twice. -/
theorem optional?_eq_some_iff
    : optional? names absent members = some datum
      ↔ GivenOnce names members (embed (encode datum))
        ∨ NeverGiven names members ∧ datum = absent := by
  rw [← given_eq_singleton_iff, ← given_eq_nil_iff, optional?_eq_readFound]
  rcases given names members with _ | ⟨document, _ | _⟩ <;>
    simp [readFound, Plain.decode?_eq_some_iff, eq_comm (a := absent)]

end Record

end ObjectGrants.Json

namespace ObjectGrants

open Json Json.Record

-----------------------------------------------------------------------------------------
-- Grants
-----------------------------------------------------------------------------------------

/-- The names of the fields of an upload grant, all of which have to be given. -/
def SignedGrant.fields : List (List String) :=
  [["identifier"], ["signedUrl", "signedURL"], ["boundToken", "jwtToken"], ["expiry"]]

/-- The names of the fields of a download grant, of which only the token has to be given. -/
def DownloadGrant.fields : List (List String) :=
  [["token"], ["signedUrl", "signedURL"], ["expiry"], ["publicUrl", "publicURL"]]

/-- An object with `members` spells an upload grant. -/
structure SignedGrant.SpelledBy (members : List (String × Document)) (grant : SignedGrant)
    : Prop where
  identifier : GivenOnce ["identifier"] members (.string grant.identifier)
  signedUrl : GivenOnce ["signedUrl", "signedURL"] members (.string grant.signedUrl)
  boundToken : GivenOnce ["boundToken", "jwtToken"] members (.string grant.boundToken)
  expiry : GivenOnce ["expiry"] members (.number (.integer grant.expiry.toInt))

/-- An object with `members` spells a download grant. -/
structure DownloadGrant.SpelledBy (members : List (String × Document)) (grant : DownloadGrant)
    : Prop where
  token : GivenOnce ["token"] members (.string grant.token)
  signedUrl
    : GivenOnce ["signedUrl", "signedURL"] members (.string grant.signedUrl)
      ∨ NeverGiven ["signedUrl", "signedURL"] members ∧ grant.signedUrl = ""
  expiry
    : GivenOnce ["expiry"] members (.number (.integer grant.expiry.toInt))
      ∨ NeverGiven ["expiry"] members ∧ grant.expiry = 0
  publicUrl
    : GivenOnce ["publicUrl", "publicURL"] members (.string grant.publicUrl)
      ∨ NeverGiven ["publicUrl", "publicURL"] members ∧ grant.publicUrl = ""

/-- An object is read as the upload grant that it spells. -/
theorem SignedGrant.decode?_eq_some_iff {members : List (String × Document)}
    {grant : SignedGrant}
    : decode? (.object members) = some grant ↔ grant.SpelledBy members := by
  obtain ⟨identifier, signedUrl, boundToken, expiry⟩ := grant
  simp only [decode?, members?, Option.bind_eq_bind, Option.bind_some, Option.bind_eq_some_iff,
    Option.pure_def, Option.some.injEq, SignedGrant.mk.injEq, required?_eq_some_iff]
  constructor
  · rintro ⟨_, identifier, _, signedUrl, _, boundToken, _, expiry, rfl, rfl, rfl, rfl⟩
    exact ⟨identifier, signedUrl, boundToken, expiry⟩
  · rintro ⟨identifier, signedUrl, boundToken, expiry⟩
    exact ⟨_, identifier, _, signedUrl, _, boundToken, _, expiry, rfl, rfl, rfl, rfl⟩

/-- An object is read as the download grant that it spells. -/
theorem DownloadGrant.decode?_eq_some_iff {members : List (String × Document)}
    {grant : DownloadGrant}
    : decode? (.object members) = some grant ↔ grant.SpelledBy members := by
  obtain ⟨token, signedUrl, expiry, publicUrl⟩ := grant
  simp only [decode?, members?, Option.bind_eq_bind, Option.bind_some, Option.bind_eq_some_iff,
    Option.pure_def, Option.some.injEq, DownloadGrant.mk.injEq, required?_eq_some_iff,
    optional?_eq_some_iff]
  constructor
  · rintro ⟨_, token, _, signedUrl, _, expiry, _, publicUrl, rfl, rfl, rfl, rfl⟩
    exact ⟨token, signedUrl, expiry, publicUrl⟩
  · rintro ⟨token, signedUrl, expiry, publicUrl⟩
    exact ⟨_, token, _, signedUrl, _, expiry, _, publicUrl, rfl, rfl, rfl, rfl⟩

/-- An upload grant is spelled by giving every field once. -/
theorem SignedGrant.SpelledBy.fields {members : List (String × Document)} {grant : SignedGrant}
    (spelled : grant.SpelledBy members)
    : ∀ names ∈ SignedGrant.fields,
        ¬ (GivenTwice names members ∨ NeverGiven names members) := by
  simp only [SignedGrant.fields, List.forall_mem_cons, not_or]
  exact ⟨⟨spelled.identifier.not_twice, spelled.identifier.not_never⟩,
    ⟨spelled.signedUrl.not_twice, spelled.signedUrl.not_never⟩,
    ⟨spelled.boundToken.not_twice, spelled.boundToken.not_never⟩,
    ⟨spelled.expiry.not_twice, spelled.expiry.not_never⟩, List.forall_mem_nil _⟩

/-- A download grant is spelled by giving no field twice. -/
theorem DownloadGrant.SpelledBy.fields {members : List (String × Document)}
    {grant : DownloadGrant} (spelled : grant.SpelledBy members)
    : ∀ names ∈ DownloadGrant.fields, ¬ GivenTwice names members := by
  have not_twice {names : List String} {document : Document} {isDefault : Prop}
      (given : GivenOnce names members document ∨ NeverGiven names members ∧ isDefault)
      : ¬ GivenTwice names members :=
    given.elim GivenOnce.not_twice fun absent => absent.1.not_twice
  simp only [DownloadGrant.fields, List.forall_mem_cons]
  exact ⟨spelled.token.not_twice, not_twice spelled.signedUrl, not_twice spelled.expiry,
    not_twice spelled.publicUrl, List.forall_mem_nil _⟩

-----------------------------------------------------------------------------------------
-- Texts of grants
-----------------------------------------------------------------------------------------

/-- A text is read as the datum that it spells, and not at all if it is spoilt. So are its bytes.
-/
structure ReadAsSpelled (α : Type) [Wire α] (text : String) (spells : α → Prop) (spoilt : Prop)
    : Prop where
  read : ∀ datum : α, ofText? text = some datum ↔ spells datum
  refused : spoilt → (ofText? text : Option α) = none
  bytes : (ofBytes? (Text.Utf8.encode text) : Option α) = ofText? text

/-- The text of an object is read as its members are. -/
theorem readAsSpelled_of_decode? {α : Type} [Wire α] {text : String}
    {members : List (String × Document)} {spells : α → Prop} {spoilt : Prop}
    (object : IsObject text.toList members)
    (decodes : ∀ datum, decode? (.object members) = some datum ↔ spells datum)
    (apart : ∀ datum, spells datum → ¬ spoilt)
    : ReadAsSpelled α text spells spoilt := by
  have document : Document.ofText? text = some (.object members) := object.isText
  have read : (ofText? text : Option α) = decode? (.object members) := by
    rw [ofText?, document, Option.bind_some]
  constructor
  · intro datum
    rw [read, decodes]
  · intro spoilt
    rw [Option.eq_none_iff_forall_ne_some]
    intro datum given
    exact apart datum ((decodes datum).mp (read ▸ given)) spoilt
  · rw [ofBytes?, Document.ofBytes?_encode, ofText?]

/-- The text of an object is read as a grant exactly if its members spell one: whatever their
order, under whichever of its names a field is given, and whatever other members there are. A
text that gives a field twice, be it under two names, or leaves out one that has to be given is
not read.
-/
theorem grants_readAsSpelled {text : String} {members : List (String × Document)}
    (object : IsObject text.toList members)
    : ReadAsSpelled SignedGrant text (SignedGrant.SpelledBy members)
        (∃ names ∈ SignedGrant.fields, GivenTwice names members ∨ NeverGiven names members)
      ∧ ReadAsSpelled DownloadGrant text (DownloadGrant.SpelledBy members)
          ((∃ names ∈ DownloadGrant.fields, GivenTwice names members)
            ∨ NeverGiven ["token"] members) := by
  constructor
  · refine readAsSpelled_of_decode? object (fun _ => SignedGrant.decode?_eq_some_iff) ?_
    rintro grant spelled ⟨names, member, spoilt⟩
    exact spelled.fields names member spoilt
  · refine readAsSpelled_of_decode? object (fun _ => DownloadGrant.decode?_eq_some_iff) ?_
    rintro grant spelled (⟨names, member, twice⟩ | never)
    · exact spelled.fields names member twice
    · exact spelled.token.not_never never

/-- A field goes by its second name, a member that is no field stands before it, and the token
comes last: a download grant, and no upload grant. -/
theorem grants_readAsSpelled_alias
    : let text := "\x7b\"x\":[1],\"publicURL\":\"u\",\"token\":\"t\"\x7d"
      let members : List (String × Document) :=
        [("x", .array [.number (.integer 1)]), ("publicURL", .string "u"),
          ("token", .string "t")]
      IsObject text.toList members
      ∧ ofText? text = some (⟨"t", "", 0, "u"⟩ : DownloadGrant)
      ∧ (ofText? text : Option SignedGrant) = none := by
  intro text members
  have listed
      : AreMembers
          (['"', 'x', '"'] ++ ':' :: ['[', '1', ']']
            ++ ',' :: (['"', 'p', 'u', 'b', 'l', 'i', 'c', 'U', 'R', 'L', '"'] ++ ':' ::
              ['"', 'u', '"']
            ++ ',' :: (['"', 't', 'o', 'k', 'e', 'n', '"'] ++ ':' :: ['"', 't', '"']))) members :=
    .more ⟨_, rfl, rfl⟩ rfl (.more ⟨_, rfl, rfl⟩ rfl (.last ⟨_, rfl, rfl⟩ rfl))
  have object : IsObject text.toList members := by
    simpa [text] using @IsObject.filled [] _ [] _ nofun listed
  obtain ⟨asUpload, asDownload⟩ := grants_readAsSpelled object
  refine ⟨object, (asDownload.read _).mpr ⟨?_, ?_, ?_, ?_⟩, asUpload.refused ?_⟩
  · exact ⟨members.take 2, "token", [], rfl, by decide, by decide⟩
  · exact .inr ⟨by simp [NeverGiven, members], rfl⟩
  · exact .inr ⟨by simp [NeverGiven, members], rfl⟩
  · exact .inl ⟨members.take 1, "publicURL", members.drop 2, rfl, by decide, by decide⟩
  · exact ⟨["identifier"], by decide, .inr (by simp [NeverGiven, members])⟩

end ObjectGrants
