import ObjectGrants.Proofs.Traversal
import ObjectGrants.Token

/-! Which tokens a key set accepts, and what is said of the others.

A token passes if it is whole, signed by the one key its header selects with the algorithm of
that key, and within its time. A token that passes binds an object or is reported as binding
none; every other token is reported as invalid.
-/

namespace ObjectGrants

open Json

namespace Token

-----------------------------------------------------------------------------------------
-- The parts of a token
-----------------------------------------------------------------------------------------

/-- The last two dots of a token stand between its parts. -/
structure Divided (token : String) (parts : Parts) : Prop where
  joined
    : token.toList = parts.header ++ '.' :: (parts.payload ++ '.' :: parts.signature)
  payload : '.' ∉ parts.payload
  signature : '.' ∉ parts.signature

/-- A text has no last dot exactly if it has no dot, by induction on the text. -/
theorem Parts.atLastDot?_eq_none_iff {text : List Char}
    : Parts.atLastDot? text = none ↔ '.' ∉ text := by
  induction text with
  | nil => simp [Parts.atLastDot?]
  | cons c rest ih =>
      cases later : Parts.atLastDot? rest with
      | some divided => simp_all [Parts.atLastDot?]
      | none =>
          have dotless := ih.mp later
          by_cases dot : c = '.'
          · simp [Parts.atLastDot?, later, dot]
          · simp [Parts.atLastDot?, later, dot, dotless, Ne.symm dot]

/-- A dot with none behind it is the one to divide at, by induction on the text before it. -/
theorem Parts.atLastDot?_append {before behind : List Char} (dotless : '.' ∉ behind)
    : Parts.atLastDot? (before ++ '.' :: behind) = some (before, behind) := by
  induction before with
  | nil => simp [Parts.atLastDot?, Parts.atLastDot?_eq_none_iff.mpr dotless]
  | cons c before ih => simp [Parts.atLastDot?, ih]

/-- A text that is divided has its last dot there. Witness: induction on the text from the
front; a dot further behind is the one to divide at.
-/
theorem Parts.eq_of_atLastDot? {text before behind : List Char}
    (divided : Parts.atLastDot? text = some (before, behind))
    : text = before ++ '.' :: behind ∧ '.' ∉ behind := by
  induction text generalizing before with
  | nil => exact nomatch divided
  | cons c rest ih =>
      cases later : Parts.atLastDot? rest with
      | some further =>
          rw [Parts.atLastDot?, later] at divided
          obtain ⟨rfl, rfl⟩ := Prod.mk.inj (Option.some.inj divided)
          obtain ⟨rfl, dotless⟩ := ih later
          exact ⟨rfl, dotless⟩
      | none =>
          rw [Parts.atLastDot?, later] at divided
          dsimp only at divided
          split at divided
          · next dot =>
              obtain ⟨rfl, rfl⟩ := Prod.mk.inj (Option.some.inj divided)
              exact ⟨by rw [dot, List.nil_append], Parts.atLastDot?_eq_none_iff.mp later⟩
          · exact nomatch divided

/-- A text is divided at its last dot exactly if no dot is behind it. -/
theorem Parts.atLastDot?_eq_some_iff {text before behind : List Char}
    : Parts.atLastDot? text = some (before, behind)
      ↔ text = before ++ '.' :: behind ∧ '.' ∉ behind := by
  constructor
  · exact Parts.eq_of_atLastDot?
  · intro split
    obtain ⟨rfl, dotless⟩ := split
    exact Parts.atLastDot?_append dotless

/-- A token is divided into its parts exactly at its last two dots. -/
theorem Parts.ofChars?_eq_some_iff {token : String} {parts : Parts}
    : Parts.ofChars? token.toList = some parts ↔ Divided token parts := by
  simp only [Parts.ofChars?, Option.bind_eq_bind, Option.bind_eq_some_iff, Option.pure_def,
    Option.some.injEq, Prod.exists, Parts.atLastDot?_eq_some_iff]
  constructor
  · intro holds
    obtain ⟨message, signature, ⟨joined, last⟩, header, payload, ⟨rfl, inner⟩, rfl⟩ := holds
    exact ⟨by simpa using joined, inner, last⟩
  · intro divided
    exact ⟨parts.header ++ '.' :: parts.payload, parts.signature,
      ⟨by simpa using divided.joined, divided.signature⟩, parts.header, parts.payload,
      ⟨rfl, divided.payload⟩, rfl⟩

-----------------------------------------------------------------------------------------
-- Documents in the parts
-----------------------------------------------------------------------------------------

/-- A part of a token is the base64url text of a document. -/
def Holds (part : List Char) (document : Document) : Prop :=
  ∃ bytes,
    Encoding.Base64Url.decode? part = some bytes ∧ Document.ofBytes? bytes = some document

/-- Reads a part of a token with a reader of its document. Both the header and the claims are
read in this way.
-/
def readPart {α : Type} (read : Document → Option α) (part : List Char) : Except TokenFlaw α :=
  match Encoding.Base64Url.decode? part with
  | none => .error .base64
  | some bytes =>
      match (Document.ofBytes? bytes).bind read with
      | some datum => .ok datum
      | none => .error .json

theorem Header.ofPart_eq_readPart (library : TokenLibrary) (part : List Char)
    : Header.ofPart library part = readPart (Header.ofDocument? library) part := by
  unfold Header.ofPart readPart
  cases Encoding.Base64Url.decode? part with
  | none => rfl
  | some bytes =>
      dsimp only
      cases (Document.ofBytes? bytes).bind (Header.ofDocument? library) <;> rfl

theorem Claims.ofPart_eq_readPart (part : List Char)
    : Claims.ofPart part = readPart Claims.ofDocument? part := by
  unfold Claims.ofPart readPart
  cases Encoding.Base64Url.decode? part with
  | none => rfl
  | some bytes =>
      dsimp only
      cases (Document.ofBytes? bytes).bind Claims.ofDocument? <;> rfl

/-- A part can be read exactly if it holds a document that can. -/
theorem readPart_eq_ok_iff {α : Type} {read : Document → Option α} {part : List Char}
    {datum : α}
    : readPart read part = .ok datum
      ↔ ∃ document, Holds part document ∧ read document = some datum := by
  unfold readPart Holds
  cases decoded : Encoding.Base64Url.decode? part with
  | none => simp
  | some bytes =>
      simp only [Option.some.injEq, exists_eq_left']
      cases found : Document.ofBytes? bytes with
      | none => simp
      | some document =>
          simp only [Option.bind_some, Option.some.injEq, exists_eq_left']
          cases read document <;> simp

-----------------------------------------------------------------------------------------
-- Headers
-----------------------------------------------------------------------------------------

namespace Header

/-- The fields of a header that hold a text and are not used. -/
def unusedTexts : List String := ["typ", "cty", "jku", "x5u", "x5t", "x5t#S256"]

/-- What a document has to be for a header to be read from it: an object, or an array of all
fields, that gives an algorithm and at most one key identifier, and whose other registered
fields are given once at most, in the form that is asked of them.
-/
def States (library : TokenLibrary) (document : Document) (header : Header) : Prop :=
  ∃ members,
    Record.members? fields 10 document = some members
    ∧ (∃ name,
        Record.given ["alg"] members = [name]
        ∧ decodeName? Algorithm.ofName? name = some header.algorithm)
    ∧ Record.optional? ["kid"] none members = some header.keyId
    ∧ (∀ name ∈ unusedTexts,
        ∃ text, Record.optional? [name] (none : Option String) members = some text)
    ∧ (∃ chain, Record.optional? ["x5c"] (none : Option (List String)) members = some chain)
    ∧ (Record.given ["jwk"] members = []
      ∨ Record.given ["jwk"] members = [.null]
      ∨ ∃ key, Record.given ["jwk"] members = [key] ∧ library.readsKey key = true)

theorem algorithm?_eq_some_iff {members : List (String × Document)} {algorithm : Algorithm}
    : algorithm? members = some algorithm
      ↔ ∃ name,
          Record.given ["alg"] members = [name]
          ∧ decodeName? Algorithm.ofName? name = some algorithm := by
  unfold algorithm?
  rcases Record.given ["alg"] members with _ | ⟨name, _ | ⟨other, rest⟩⟩ <;> simp

theorem carriedKey?_eq_some_iff {library : TokenLibrary} {members : List (String × Document)}
    : carriedKey? library members = some ()
      ↔ Record.given ["jwk"] members = []
        ∨ Record.given ["jwk"] members = [.null]
        ∨ ∃ key, Record.given ["jwk"] members = [key] ∧ library.readsKey key = true := by
  unfold carriedKey?
  rcases Record.given ["jwk"] members with _ | ⟨key, _ | ⟨other, rest⟩⟩
  · simp
  · cases key <;> simp
  · simp

/-- A header is read exactly from the documents that state it. Witness: each step of the reading
is one of the conditions.
-/
theorem ofDocument?_eq_some_iff {library : TokenLibrary} {document : Document} {header : Header}
    : ofDocument? library document = some header ↔ States library document header := by
  unfold ofDocument? States
  simp only [Option.bind_eq_bind, Option.bind_eq_some_iff, Option.pure_def, Option.some.injEq,
    algorithm?_eq_some_iff, unusedTexts, List.forall_mem_cons, List.not_mem_nil, false_implies,
    implies_true, and_true]
  constructor
  · intro holds
    obtain ⟨members, read, algorithm, alg, typ, isTyp, cty, isCty, jku, isJku, _, isKey, keyId,
      kid, x5u, isX5u, chain, isChain, x5t, isX5t, print, isPrint, rfl⟩ := holds
    exact ⟨members, read, alg, kid, ⟨⟨typ, isTyp⟩, ⟨cty, isCty⟩, ⟨jku, isJku⟩, ⟨x5u, isX5u⟩,
      ⟨x5t, isX5t⟩, ⟨print, isPrint⟩⟩, ⟨chain, isChain⟩, carriedKey?_eq_some_iff.mp isKey⟩
  · intro holds
    obtain ⟨members, read, alg, kid, ⟨⟨typ, isTyp⟩, ⟨cty, isCty⟩, ⟨jku, isJku⟩, ⟨x5u, isX5u⟩,
      ⟨x5t, isX5t⟩, ⟨print, isPrint⟩⟩, ⟨chain, isChain⟩, jwk⟩ := holds
    exact ⟨members, read, header.algorithm, alg, typ, isTyp, cty, isCty, jku, isJku, (),
      carriedKey?_eq_some_iff.mpr jwk, header.keyId, kid, x5u, isX5u, chain, isChain, x5t, isX5t,
      print, isPrint, rfl⟩

end Header

-----------------------------------------------------------------------------------------
-- Claims
-----------------------------------------------------------------------------------------

namespace Claims

/-- The seconds that the claims of a name give. -/
def Gives (members : List (String × Document)) (name : String) (second : Nat) : Prop :=
  ∃ claim ∈ Record.given [name] members, second? claim = some second

/-- A claim is given once at most, and then in a form that can be read. -/
def GivenOnce (members : List (String × Document)) (name : String)
    (readable : Document → Bool)
    : Prop :=
  Record.given [name] members = []
  ∨ ∃ claim, Record.given [name] members = [claim] ∧ readable claim = true

/-- The claims that can be read are given once at most, each in its own form. -/
theorem registeredReadable_iff {members : List (String × Document)}
    : registeredReadable members = true
      ↔ GivenOnce members "exp" timeReadable
        ∧ GivenOnce members "nbf" timeReadable
        ∧ GivenOnce members "sub" subjectReadable
        ∧ GivenOnce members "iss" (fun _ => true)
        ∧ GivenOnce members "aud" (fun _ => true) := by
  simp only [registeredReadable, Bool.and_eq_true, and_assoc, GivenOnce]
  refine and_congr ?_ (and_congr ?_ (and_congr ?_ (and_congr ?_ ?_)))
  all_goals split <;> simp_all

/-- A time that is given once at most is the one that is read. -/
theorem GivenOnce.gives_iff {members : List (String × Document)} {name : String}
    {readable : Document → Bool} (once : GivenOnce members name readable) (second : Nat)
    : (Record.given [name] members).head?.bind second? = some second
      ↔ Gives members name second := by
  unfold Gives
  rcases once with none | ⟨claim, only, _⟩
  · simp [none]
  · simp [only]

/-- What a payload has to be for its claims to be read: an object, all of whose parts stand
for something and whose registered claims are given once at most, in a form that can be read.
-/
structure States (document : Document) (members : List (String × Document))
    (values : List (String × Value))
    : Prop where
  object : document = .object members
  sound : Document.value? document = some (.object values)
  readable : registeredReadable members = true

/-- Claims can be read exactly from such a payload, and they are its values and the times
that it gives.
-/
theorem ofDocument?_eq_some_iff {document : Document} {claims : Claims}
    : ofDocument? document = some claims
      ↔ ∃ members, States document members claims.members
          ∧ (∀ second, claims.expiry = some second ↔ Gives members "exp" second)
          ∧ (∀ second, claims.notBefore = some second ↔ Gives members "nbf" second) := by
  constructor
  · intro read
    unfold ofDocument? at read
    split at read
    · next members values sound =>
        split at read
        · next readable =>
            obtain rfl := Option.some.inj read
            obtain ⟨expiry, notBefore, _⟩ := registeredReadable_iff.mp readable
            exact ⟨members, ⟨rfl, sound, readable⟩, expiry.gives_iff, notBefore.gives_iff⟩
        · exact nomatch read
    · exact nomatch read
  · intro holds
    obtain ⟨members, ⟨rfl, sound, readable⟩, ends, begins⟩ := holds
    obtain ⟨expiry, notBefore, _⟩ := registeredReadable_iff.mp readable
    have expiry : (Record.given ["exp"] members).head?.bind second? = claims.expiry :=
      Option.ext fun second => (expiry.gives_iff second).trans (ends second).symm
    have notBefore : (Record.given ["nbf"] members).head?.bind second? = claims.notBefore :=
      Option.ext fun second => (notBefore.gives_iff second).trans (begins second).symm
    simp [ofDocument?, sound, readable, expiry, notBefore]

/-- Claims hold at a second that no end of their time is before and no start is behind. -/
theorem inTime_eq_ok_iff {claims : Claims} {now : Nat}
    : claims.inTime now = .ok ()
      ↔ (∀ second, claims.expiry = some second → now ≤ second)
          ∧ (∀ second, claims.notBefore = some second → second ≤ now) := by
  obtain ⟨members, expiry, notBefore⟩ := claims
  cases expiry with
  | none => cases notBefore <;> simp [inTime]
  | some last =>
      by_cases expired : last < now
      · simp [inTime, expired, Nat.not_le.mpr expired]
      · cases notBefore <;> simp [inTime, expired, Nat.not_lt.mp expired]

/-- A payload gives claims that hold at a second exactly if it states them and gives no time
that rules the second out. Witness: the times that are read are those that are given.
-/
theorem ofPart_inTime_iff {part : List Char} {now : Nat} {values : List (String × Value)}
    : (∃ claims,
        ofPart part = .ok claims ∧ claims.inTime now = .ok () ∧ claims.members = values)
      ↔ ∃ members,
          (∃ document, Holds part document ∧ States document members values)
          ∧ (∀ second, Gives members "exp" second → now ≤ second)
          ∧ (∀ second, Gives members "nbf" second → second ≤ now) := by
  simp only [ofPart_eq_readPart, readPart_eq_ok_iff, ofDocument?_eq_some_iff, inTime_eq_ok_iff]
  constructor
  · intro holds
    obtain ⟨claims, ⟨document, held, members, stated, expiry, notBefore⟩, ⟨unexpired, begun⟩,
      rfl⟩ := holds
    exact ⟨members, ⟨document, held, stated⟩,
      fun second gives => unexpired second ((expiry second).mpr gives),
      fun second gives => begun second ((notBefore second).mpr gives)⟩
  · intro holds
    obtain ⟨members, ⟨document, held, stated⟩, unexpired, begun⟩ := holds
    obtain ⟨expiry, notBefore, _⟩ := registeredReadable_iff.mp stated.readable
    let second (name : String) := (Record.given [name] members).head?.bind second?
    refine ⟨⟨values, second "exp", second "nbf"⟩,
      ⟨document, held, members, stated, expiry.gives_iff, notBefore.gives_iff⟩, ⟨?_, ?_⟩, rfl⟩
    · exact fun later given => unexpired later ((expiry.gives_iff later).mp given)
    · exact fun earlier given => begun earlier ((notBefore.gives_iff earlier).mp given)

/-- The binding claim names an object: by its text if it is one that is not empty, by the
JSON text of any other value but null.
-/
inductive Binds (values : List (String × Value)) : ObjectId → Prop where
  | text {text : String} (bound : values.lookup "token" = some (.string text))
    (filled : text ≠ "")
    : Binds values ⟨text⟩
  | other {value : Value} (bound : values.lookup "token" = some value)
    (structural : ∀ text, value ≠ .string text) (given : value ≠ .null)
    : Binds values ⟨value.text⟩

/-- The binding of claims is found exactly if they name an object. -/
theorem binding_eq_ok_iff {values : List (String × Value)} {id : ObjectId}
    : binding values = .ok id ↔ Binds values id := by
  unfold binding bindingName
  constructor
  · intro found
    split at found
    · exact nomatch found
    · exact nomatch found
    · next text bound =>
        split at found
        · exact nomatch found
        · next filled =>
            obtain rfl := Except.ok.inj found
            exact .text bound filled
    · next value notNull notText bound =>
        obtain rfl := Except.ok.inj found
        exact .other bound notText notNull
  · intro holds
    rcases holds with ⟨bound, filled⟩ | ⟨bound, structural, given⟩
    · simp [bound, filled]
    · simp only [bound]

/-- The binding claim is absent, null or empty. -/
def Unbound (values : List (String × Value)) : Prop :=
  values.lookup "token" = none
  ∨ values.lookup "token" = some .null
  ∨ values.lookup "token" = some (.string "")

/-- Claims without a binding are reported as that and as nothing else. Witness: the binding
fails in three cases only, all with the same fault.
-/
theorem binding_eq_error_iff {values : List (String × Value)} {fault : Fault}
    : binding values = .error fault ↔ Unbound values ∧ fault = .missingBinding "token" := by
  unfold binding bindingName Unbound
  cases bound : values.lookup "token" with
  | none => simp [eq_comm]
  | some value =>
      cases value with
      | null => simp [eq_comm]
      | string text => by_cases empty : text = "" <;> simp [empty, eq_comm]
      | _ => simp

end Claims

-----------------------------------------------------------------------------------------
-- The key that a header selects
-----------------------------------------------------------------------------------------

/-- A key set has a key for a header: the first of the keys with its identifier, or the
first of all if it has none.
-/
def Selects (set : KeySet) (keyId : Option String) (key : VerificationKey) : Prop :=
  ∃ before behind, set.keys = before ++ key :: behind
    ∧ match keyId with
      | some name => key.keyId = some name ∧ ∀ other ∈ before, other.keyId ≠ some name
      | none => before = []

theorem select?_eq_some_iff {set : KeySet} {keyId : Option String} {key : VerificationKey}
    : set.select? keyId = some key ↔ Selects set keyId key := by
  cases keyId with
  | some name =>
      simp only [KeySet.select?, Selects, List.find?_eq_some_iff_append, beq_iff_eq,
        Bool.not_eq_eq_eq_not, Bool.not_true, beq_eq_false_iff_ne]
      constructor
      · intro holds
        obtain ⟨named, before, behind, split, others⟩ := holds
        exact ⟨before, behind, split, named, others⟩
      · intro holds
        obtain ⟨before, behind, split, named, others⟩ := holds
        exact ⟨named, before, behind, split, others⟩
  | none =>
      simp only [KeySet.select?, Selects, List.head?_eq_some_iff]
      constructor
      · intro holds
        obtain ⟨behind, split⟩ := holds
        exact ⟨[], behind, split, rfl⟩
      · intro holds
        obtain ⟨_, behind, split, rfl⟩ := holds
        exact ⟨behind, split⟩

-----------------------------------------------------------------------------------------
-- Tokens that pass
-----------------------------------------------------------------------------------------

/-- A token is admitted with the parts, the header, the key and the claims that are found on
the way. The algorithm of the header is never trusted: it has to be that of the key.
-/
structure Admitted (set : KeySet) (library : TokenLibrary) (now : Nat) (token : String)
    (parts : Parts) (header : Header) (key : VerificationKey)
    (members : List (String × Document)) (values : List (String × Value))
    : Prop where
  filled : ∃ c ∈ token.toList, Text.isBlank c = false
  divided : Divided token parts
  headed : ∃ document, Holds parts.header document ∧ Header.States library document header
  selected : Selects set header.keyId key
  pinned : header.algorithm = key.algorithm
  signed
    : ∃ signature, Encoding.Base64Url.decode? parts.signature = some signature
        ∧ library.check key.material key.algorithm (Text.Utf8.encode parts.message) signature = true
  claimed : ∃ document, Holds parts.payload document ∧ Claims.States document members values
  unexpired : ∀ second, Claims.Gives members "exp" second → now ≤ second
  begun : ∀ second, Claims.Gives members "nbf" second → second ≤ now

/-- A token passes a key set at a second with the claims `values`. -/
def Passes (set : KeySet) (library : TokenLibrary) (now : Nat) (token : String)
    (values : List (String × Value))
    : Prop :=
  ∃ parts header key members, Admitted set library now token parts header key members values

theorem reading_eq_ok_iff {α : Type} {fault : TokenFlaw → TokenFault}
    {result : Except TokenFlaw α} {datum : α}
    : reading fault result = .ok datum ↔ result = .ok datum := by
  cases result <;> simp [reading]

/-- A token can be opened exactly if it has its parts and a header that can be read. -/
theorem open?_eq_ok_iff {library : TokenLibrary} {token : String} {parts : Parts} {header : Header}
    : open? library token = .ok (parts, header)
      ↔ Divided token parts ∧ Header.ofPart library parts.header = .ok header := by
  unfold open?
  rw [← Parts.ofChars?_eq_some_iff]
  cases Parts.ofChars? token.toList with
  | none => simp
  | some divided =>
      simp only [Traversal.map_eq_ok_iff, Prod.mk.injEq, Option.some.injEq]
      constructor
      · intro holds
        obtain ⟨_, read, rfl, rfl⟩ := holds
        exact ⟨rfl, read⟩
      · intro holds
        obtain ⟨rfl, read⟩ := holds
        exact ⟨header, read, rfl, rfl⟩

/-- What the checked reading of a token asks for, step by step. -/
theorem readChecked_eq_ok_iff {library : TokenLibrary} {set : KeySet} {now : Nat}
    {token : String} {claims : Claims}
    : readChecked library set now token = .ok claims
      ↔ ∃ parts header key signature,
          (Divided token parts ∧ Header.ofPart library parts.header = .ok header)
          ∧ set.select? header.keyId = some key
          ∧ header.algorithm = key.algorithm
          ∧ Encoding.Base64Url.decode? parts.signature = some signature
          ∧ library.check key.material key.algorithm (Text.Utf8.encode parts.message) signature
            = true
          ∧ Claims.ofPart parts.payload = .ok claims
          ∧ claims.inTime now = .ok () := by
  unfold readChecked
  rw [Traversal.bind_eq_ok_iff]
  constructor
  · intro holds
    obtain ⟨⟨parts, header⟩, opened, checked⟩ := holds
    dsimp only at checked
    split at checked
    · exact nomatch checked
    · next key selected =>
        split at checked
        · exact nomatch checked
        · next pinned =>
            split at checked
            · exact nomatch checked
            · next signature decoded =>
                split at checked
                · next signed =>
                    obtain ⟨read, payload, timed⟩ := Traversal.bind_eq_ok_iff.mp checked
                    obtain ⟨_, inTime, same⟩ := Traversal.bind_eq_ok_iff.mp timed
                    obtain rfl := Except.ok.inj same
                    exact ⟨parts, header, key, signature,
                      open?_eq_ok_iff.mp (reading_eq_ok_iff.mp opened), selected,
                      not_not.mp pinned, decoded, signed, reading_eq_ok_iff.mp payload,
                      inTime⟩
                · exact nomatch checked
  · intro holds
    obtain ⟨parts, header, key, signature, opened, selected, pinned, decoded, signed, payload,
      inTime⟩ := holds
    refine ⟨(parts, header), reading_eq_ok_iff.mpr (open?_eq_ok_iff.mpr opened), ?_⟩
    simp only [selected, pinned, ne_eq, not_true_eq_false, if_false, decoded, signed, if_true]
    exact Traversal.bind_eq_ok_iff.mpr ⟨claims, reading_eq_ok_iff.mpr payload,
      Traversal.bind_eq_ok_iff.mpr ⟨(), inTime, rfl⟩⟩

/-- A key set gives claims for the tokens that are not blank and can be read with it. -/
theorem claims_eq_readChecked {set : KeySet} {library : TokenLibrary} {now : Nat}
    {token : String} {claims : Claims}
    : (Trust.keys set).claims library now token = .ok claims
      ↔ (∃ c ∈ token.toList, Text.isBlank c = false)
        ∧ readChecked library set now token = .ok claims := by
  unfold Trust.claims
  by_cases blank : Text.isBlankText token = true
  · have none : ¬∃ c ∈ token.toList, Text.isBlank c = false := by
      simpa [Text.isBlankText] using blank
    simp [blank, none]
  · have filled : ∃ c ∈ token.toList, Text.isBlank c = false := by
      simpa [Text.isBlankText] using blank
    simp only [blank, filled, true_and]
    rfl

/-- The claims of a token are found exactly if it passes, and they are its values. Witness:
every gate of the checked reading is one of the conditions.
-/
theorem claims_eq_ok_iff {set : KeySet} {library : TokenLibrary} {now : Nat} {token : String}
    {values : List (String × Value)}
    : (∃ claims,
        (Trust.keys set).claims library now token = .ok claims ∧ claims.members = values)
      ↔ Passes set library now token values := by
  simp only [claims_eq_readChecked, readChecked_eq_ok_iff]
  constructor
  · intro holds
    obtain ⟨claims, ⟨filled, parts, header, key, signature, ⟨divided, headed⟩, selected, pinned,
      decoded, signed, payload, inTime⟩, named⟩ := holds
    simp only [Header.ofPart_eq_readPart, readPart_eq_ok_iff, Header.ofDocument?_eq_some_iff]
      at headed
    obtain ⟨members, claimed, unexpired, begun⟩ :=
      Claims.ofPart_inTime_iff.mp ⟨claims, payload, inTime, named⟩
    exact ⟨parts, header, key, members, filled, divided, headed,
      select?_eq_some_iff.mp selected, pinned, ⟨signature, decoded, signed⟩, claimed, unexpired,
      begun⟩
  · intro passes
    obtain ⟨parts, header, key, members, admitted⟩ := passes
    obtain ⟨signature, decoded, signed⟩ := admitted.signed
    obtain ⟨claims, payload, inTime, named⟩ := Claims.ofPart_inTime_iff.mpr
      ⟨members, admitted.claimed, admitted.unexpired, admitted.begun⟩
    have headed : Header.ofPart library parts.header = .ok header := by
      simp only [Header.ofPart_eq_readPart, readPart_eq_ok_iff, Header.ofDocument?_eq_some_iff]
      exact admitted.headed
    exact ⟨claims, ⟨admitted.filled, parts, header, key, signature, ⟨admitted.divided, headed⟩,
      select?_eq_some_iff.mpr admitted.selected, admitted.pinned, decoded, signed, payload,
      inTime⟩, named⟩

/-- What a key set decides about a token: a token that passes gives the object that it binds
or is reported as binding none, every other one is reported as invalid. In particular no
token that is forged, out of time or for another key is ever reported as a missing binding.
-/
theorem verify_decides (set : KeySet) (library : TokenLibrary) (now : Nat) (token : String)
    : (∀ id, (Trust.keys set).verify library now token = .ok id
          ↔ ∃ values, Passes set library now token values ∧ Claims.Binds values id)
      ∧ ((Trust.keys set).verify library now token = .error (.missingBinding "token")
          ↔ ∃ values, Passes set library now token values ∧ Claims.Unbound values)
      ∧ ((∃ cause, (Trust.keys set).verify library now token = .error (.invalidToken cause))
          ↔ ¬∃ values, Passes set library now token values) := by
  unfold Trust.verify
  cases found : (Trust.keys set).claims library now token with
  | error cause =>
      have refused : ¬∃ values, Passes set library now token values := by
        intro holds
        obtain ⟨values, passes⟩ := holds
        obtain ⟨claims, given, _⟩ := claims_eq_ok_iff.mpr passes
        exact nomatch found.symm.trans given
      refine ⟨fun id => ?_, ?_, fun _ => refused, fun _ => ⟨cause, rfl⟩⟩
      · exact ⟨nofun, fun ⟨values, passes, _⟩ => (refused ⟨values, passes⟩).elim⟩
      · exact ⟨nofun, fun ⟨values, passes, _⟩ => (refused ⟨values, passes⟩).elim⟩
  | ok claims =>
      have passes : Passes set library now token claims.members :=
        claims_eq_ok_iff.mp ⟨claims, found, rfl⟩
      -- A token has one set of claims, so it cannot pass with others that bind otherwise.
      have only {values : List (String × Value)} (other : Passes set library now token values)
          : values = claims.members := by
        obtain ⟨given, found', rfl⟩ := claims_eq_ok_iff.mpr other
        rw [Except.ok.inj (found.symm.trans found')]
      refine ⟨fun id => ?_, ?_, ?_, fun refused => (refused ⟨_, passes⟩).elim⟩
      · constructor
        · exact fun bound => ⟨_, passes, Claims.binding_eq_ok_iff.mp bound⟩
        · intro holds
          obtain ⟨values, other, bound⟩ := holds
          exact Claims.binding_eq_ok_iff.mpr (only other ▸ bound)
      · constructor
        · exact fun unbound => ⟨_, passes, (Claims.binding_eq_error_iff.mp unbound).1⟩
        · intro holds
          obtain ⟨values, other, unbound⟩ := holds
          exact Claims.binding_eq_error_iff.mpr ⟨only other ▸ unbound, rfl⟩
      · intro holds
        obtain ⟨cause, invalid⟩ := holds
        exact nomatch (Claims.binding_eq_error_iff.mp invalid).2

end Token

end ObjectGrants
