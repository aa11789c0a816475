import ObjectGrants.Grant
import ObjectGrants.Token.Library

/-!
Bound tokens. A token is a signed JSON document in three parts, and its claim `token` names
the object that it is bound to.

With a key set, a token is accepted if its signature is that of the key its header selects
and if it is within its time. Without one, in pass-through mode, it is only read.
-/

namespace ObjectGrants

open Json

namespace Token

/-- The three parts of a token as written, and the text that its signature covers. -/
structure Parts where
  header : List Char
  payload : List Char
  signature : List Char
  deriving DecidableEq, Repr

namespace Parts

/-- A text before and behind its last dot. -/
def atLastDot? : List Char → Option (List Char × List Char)
  | [] => none
  | c :: rest =>
      match atLastDot? rest with
      | some (before, behind) => some (c :: before, behind)
      | none => if c = '.' then some ([], rest) else none

/-- The parts of a token, divided at its last two dots. -/
def ofChars? (text : List Char) : Option Parts := do
  let (message, signature) ← atLastDot? text
  let (header, payload) ← atLastDot? message
  pure ⟨header, payload, signature⟩

/-- The text that the signature covers: the first two parts and the dot between them. -/
def message (parts : Parts) : String :=
  String.ofList (parts.header ++ '.' :: parts.payload)

end Parts

/-- The part of a header that matters here. -/
structure Header where
  algorithm : Algorithm
  keyId : Option String
  deriving DecidableEq, Repr

namespace Header

/-- The fields of a header, in order. -/
def fields : List String :=
  ["typ", "alg", "cty", "jku", "jwk", "kid", "x5u", "x5c", "x5t", "x5t#S256"]

/-- The algorithm that a header names. -/
def algorithm? (members : List (String × Document)) : Option Algorithm :=
  match Record.given ["alg"] members with
  | [name] => decodeName? Algorithm.ofName? name
  | _ => none

/-- Reads the key that a header carries itself, and drops it. -/
def carriedKey? (library : TokenLibrary) (members : List (String × Document)) : Option Unit :=
  match Record.given ["jwk"] members with
  | [] => some ()
  | [.null] => some ()
  | [key] => if library.readsKey key then some () else none
  | _ => none

/-- Reads a header. Its algorithm has to be known, and the registered fields that are not
used have to be well formed all the same. -/
def ofDocument? (library : TokenLibrary) (document : Document) : Option Header := do
  let members ← Record.members? fields 10 document
  let algorithm ← algorithm? members
  let text (name : String) : Option (Option String) := Record.optional? [name] none members
  let _ ← text "typ"
  let _ ← text "cty"
  let _ ← text "jku"
  let _ ← carriedKey? library members
  let keyId ← text "kid"
  let _ ← text "x5u"
  let (_ : Option (List String)) ← Record.optional? ["x5c"] none members
  let _ ← text "x5t"
  let _ ← text "x5t#S256"
  pure ⟨algorithm, keyId⟩

/-- Reads the header part of a token. -/
def ofPart (library : TokenLibrary) (part : List Char) : Except TokenFlaw Header :=
  match Encoding.Base64Url.decode? part with
  | none => .error .base64
  | some bytes =>
      match (Document.ofBytes? bytes).bind (ofDocument? library) with
      | some header => .ok header
      | none => .error .json

end Header

/-- What a token says, by the names of its claims. -/
structure Claims where
  members : List (String × Value)
  /-- The end of its time, in seconds since 1970. -/
  expiry : Option Nat
  /-- The start of its time, in seconds since 1970. -/
  notBefore : Option Nat

namespace Claims

/-- The second that a claim gives: a number from zero up to but excluding 2 ^ 64, rounded to
the nearest integer. Any other value counts as no claim. -/
def second? : Document → Option Nat
  | .number (.integer value) => if 0 ≤ value then some value.toNat else none
  | .number (.double value) =>
      let magnitude := value.magnitude
      if magnitude.significand = 0 then some 0
      else if value.negative then none
      else if magnitude.numerator < UInt64.size * magnitude.denominator then some magnitude.round
      else none
  | _ => none

/-- Whether a claim of a time can be passed over when it is not a number. -/
def timeReadable : Document → Bool
  | .array items => items.isEmpty
  | .object members => members.isEmpty
  | _ => true

/-- Whether a subject can be passed over when it is not a text. -/
def subjectReadable : Document → Bool
  | .array _ => false
  | .object _ => false
  | _ => true

/-- Whether the registered claims can be read: none is given twice, and none of those for
the time and the subject is a structure that stands in the way. -/
def registeredReadable (members : List (String × Document)) : Bool :=
  let once (name : String) (readable : Document → Bool) : Bool :=
    match Record.given [name] members with
    | [] => true
    | [claim] => readable claim
    | _ => false
  once "exp" timeReadable && once "nbf" timeReadable && once "sub" subjectReadable
    && once "iss" (fun _ => true) && once "aud" (fun _ => true)

/-- Reads the claims of a document. -/
def ofDocument? (document : Document) : Option Claims :=
  match document, document.value? with
  | .object members, some (.object values) =>
      if registeredReadable members then
        let second (name : String) := (Record.given [name] members).head?.bind second?
        some ⟨values, second "exp", second "nbf"⟩
      else none
  | _, _ => none

/-- Reads the payload part of a token. -/
def ofPart (part : List Char) : Except TokenFlaw Claims :=
  match Encoding.Base64Url.decode? part with
  | none => .error .base64
  | some bytes =>
      match (Document.ofBytes? bytes).bind ofDocument? with
      | some claims => .ok claims
      | none => .error .json

/-- The claim that binds a token to an object. -/
def bindingName : String := "token"

/-- The object that a set of claims binds: the text of the claim, or the JSON text of what
else it holds. A null or empty claim binds nothing. -/
def binding (members : List (String × Value)) : Except Fault ObjectId :=
  match members.lookup bindingName with
  | none => .error (.missingBinding bindingName)
  | some .null => .error (.missingBinding bindingName)
  | some (.string text) =>
      if text = "" then .error (.missingBinding bindingName) else .ok ⟨text⟩
  | some value => .ok ⟨value.text⟩

end Claims

/-- Reports a flaw in reading a part of a token. -/
def reading {α : Type} (fault : TokenFlaw → TokenFault)
    : Except TokenFlaw α → Except TokenFault α
  | .ok datum => .ok datum
  | .error flaw => .error (fault flaw)

/-- Divides a token into its parts and reads the header. -/
def open? (library : TokenLibrary) (token : String) : Except TokenFlaw (Parts × Header) :=
  match Parts.ofChars? token.toList with
  | none => .error .parts
  | some parts => (Header.ofPart library parts.header).map (parts, ·)

/-- The claims of a token that is read without any check. -/
def readUnchecked (library : TokenLibrary) (token : String) : Except TokenFault Claims := do
  let (parts, _) ← reading .malformed (open? library token)
  reading .malformed (Claims.ofPart parts.payload)

/-- Whether the claims hold at a second of the calendar. -/
def Claims.inTime (claims : Claims) (now : Nat) : Except TokenFault Unit :=
  if claims.expiry.any (· < now) then .error .expired
  else if claims.notBefore.any (now < ·) then .error .notYetValid
  else .ok ()

/-- The claims of a token whose signature and time are checked against a key set. -/
def readChecked (library : TokenLibrary) (keys : KeySet) (now : Nat) (token : String)
    : Except TokenFault Claims := do
  let (parts, header) ← reading .header (open? library token)
  match keys.select? header.keyId with
  | none => .error (.unknownKey header.keyId)
  | some key =>
      if header.algorithm ≠ key.algorithm then
        .error (.algorithmMismatch header.algorithm key.algorithm)
      else match Encoding.Base64Url.decode? parts.signature with
        | none => .error (.unreadable .base64)
        | some signature =>
            if library.check key.material key.algorithm (Text.Utf8.encode parts.message)
                signature then
              let claims ← reading .unreadable (Claims.ofPart parts.payload)
              claims.inTime now
              pure claims
            else .error .signature

end Token

/-- How bound tokens are verified. -/
inductive Trust where
  /-- Tokens are read without checking signature or time. -/
  | passThrough
  /-- Tokens are checked against a key set. -/
  | keys (set : KeySet)

namespace Trust

def isPassThrough : Trust → Bool
  | passThrough => true
  | keys _ => false

/-- The claims of a token that is not blank. -/
def claims (trust : Trust) (library : TokenLibrary) (now : Nat) (token : String)
    : Except TokenFault Token.Claims :=
  if Text.isBlankText token then .error .empty
  else match trust with
    | passThrough => Token.readUnchecked library token
    | keys set => Token.readChecked library set now token

/-- The object that a token is bound to. -/
def verify (trust : Trust) (library : TokenLibrary) (now : Nat) (token : String)
    : Except Fault ObjectId :=
  match trust.claims library now token with
  | .ok claims => Token.Claims.binding claims.members
  | .error fault => .error (.invalidToken fault)

end Trust

end ObjectGrants
