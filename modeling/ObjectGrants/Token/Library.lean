import ObjectGrants.Key.Set

/-!
What the reading of tokens leaves to a library: the check of signatures, and the reading of a
key that a header carries itself. Such a key is never used, but a header is refused if the key
it carries cannot be read.
-/

namespace ObjectGrants

open Json

/-- A library of signed tokens. -/
structure TokenLibrary where
  check : SignatureCheck
  /-- Whether a key that a header carries can be read. -/
  readsKey : Document → Bool

namespace CarriedKey

/-- The algorithms that a key can be meant for. -/
def algorithms : List String :=
  ["HS256", "HS384", "HS512", "ES256", "ES384", "RS256", "RS384", "RS512", "PS256", "PS384",
    "PS512", "EdDSA", "RSA1_5", "RSA-OAEP", "RSA-OAEP-256"]

/-- The curves that a key can lie on. -/
def curves : List String := ["P-256", "P-384", "P-521", "Ed25519"]

def isText : Document → Bool
  | .string _ => true
  | _ => false

def isTextList : Document → Bool
  | .array items => items.all isText
  | _ => false

/-- Whether a document is one of some names. -/
def isAmong (names : List String) : Document → Bool
  | .string name => names.contains name
  | _ => false

/-- Whether a field is given in a form that can be read. -/
def gives (members : List (String × Document)) (name : String) (reads : Document → Bool)
    : Bool :=
  match Record.given [name] members with
  | [document] => reads document
  | _ => false

/-- Whether a field is given in a form that can be read, or not given. -/
def mayGive (members : List (String × Document)) (name : String) (reads : Document → Bool)
    : Bool :=
  match Record.given [name] members with
  | [] => true
  | [.null] => true
  | [document] => reads document
  | _ => false

/-- Whether the fields of a key belong to a known type of key. -/
def isOfKnownType (members : List (String × Document)) : Bool :=
  let ofType (name : String) := gives members "kty" (isAmong [name])
  let text (name : String) := gives members name isText
  let curve := gives members "crv" (isAmong curves)
  (ofType "EC" && curve && text "x" && text "y")
    || (ofType "RSA" && text "n" && text "e")
    || (ofType "oct" && text "k")
    || (ofType "OKP" && curve && text "x")

/-- Whether a document inside a header is a key by the common practice. -/
def isReadable (document : Document) : Bool :=
  match document with
  | .object members =>
      (document.valueWithin (Document.depthLimit - 1)).isSome
        && mayGive members "use" isText
        && mayGive members "key_ops" isTextList
        && mayGive members "alg" (isAmong algorithms)
        && mayGive members "x5c" isTextList
        && ["kid", "x5u", "x5t", "x5t#S256"].all (mayGive members · isText)
        && isOfKnownType members
  | _ => false

end CarriedKey

/-- The library that checks signatures by the standards and reads keys by the common
practice. -/
def TokenLibrary.standard : TokenLibrary where
  check := .standard
  readsKey := CarriedKey.isReadable

end ObjectGrants
