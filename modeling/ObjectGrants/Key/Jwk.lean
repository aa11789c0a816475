import ObjectGrants.Json.Wire

/-!
The document in which the authority publishes its keys. Which of the components a key needs
depends on its type; the document itself does not tell.
-/

namespace ObjectGrants

open Json

/-- A published key. -/
structure Jwk where
  keyType : String
  keyId : Option String := none
  use : Option String := none
  algorithm : Option String := none
  modulus : Option String := none
  exponent : Option String := none
  x : Option String := none
  y : Option String := none
  curve : Option String := none
  deriving DecidableEq, Repr

instance : Wire Jwk where
  encode key :=
    .object (("kty", encode key.keyType) :: Record.ifSome "kid" key.keyId
      ++ Record.ifSome "use" key.use ++ Record.ifSome "alg" key.algorithm
      ++ Record.ifSome "n" key.modulus ++ Record.ifSome "e" key.exponent
      ++ Record.ifSome "x" key.x ++ Record.ifSome "y" key.y ++ Record.ifSome "crv" key.curve)
  decode? document := do
    let members ← Record.members? ["kty", "kid", "use", "alg", "n", "e", "x", "y", "crv"] 1
      document
    pure {
      keyType := ← Record.required? ["kty"] members
      keyId := ← Record.optional? ["kid"] none members
      use := ← Record.optional? ["use"] none members
      algorithm := ← Record.optional? ["alg"] none members
      modulus := ← Record.optional? ["n"] none members
      exponent := ← Record.optional? ["e"] none members
      x := ← Record.optional? ["x"] none members
      y := ← Record.optional? ["y"] none members
      curve := ← Record.optional? ["crv"] none members }

/-- A document of published keys. -/
structure Jwks where
  keys : List Jwk
  deriving DecidableEq, Repr

instance : Wire Jwks where
  encode document := .object [("keys", encode document.keys)]
  decode? document := do
    let members ← Record.members? ["keys"] 1 document
    pure { keys := ← Record.required? ["keys"] members }

end ObjectGrants
