import ObjectGrants.Encoding.Base64Url
import ObjectGrants.Fault
import ObjectGrants.Key.Jwk
import ObjectGrants.Signature.P256
import ObjectGrants.Signature.Rsa
import ObjectGrants.Text.Quoted

/-!
Keys that tokens can be checked with, and sets of them.

A published key becomes a verification key if its type is known and its components are
there and readable; whether they make a sound key shows only when a signature is checked. A
set holds the usable keys of a document in its order, and at least one.
-/

namespace ObjectGrants

/-- What a signature is checked with. -/
inductive KeyMaterial where
  | rsa (key : Signature.Rsa.PublicKey)
  /-- The two coordinates of a point, one behind the other. -/
  | p256 (coordinates : List UInt8)
  deriving DecidableEq, Repr

/-- A usable key, for one algorithm. -/
structure VerificationKey where
  keyId : Option String
  algorithm : Algorithm
  material : KeyMaterial
  deriving DecidableEq, Repr

/-- Decides whether a signature is that of a message under a key and an algorithm. -/
abbrev SignatureCheck :=
  KeyMaterial → Algorithm → (message signature : List UInt8) → Bool

/-- The check by the standards that the algorithms name. A key of another kind than the
algorithm needs accepts nothing. -/
def SignatureCheck.standard : SignatureCheck
  | .rsa key, .rs256, message, signature => Signature.Rsa.verify .sha256 key message signature
  | .rsa key, .rs384, message, signature => Signature.Rsa.verify .sha384 key message signature
  | .rsa key, .rs512, message, signature => Signature.Rsa.verify .sha512 key message signature
  | .p256 coordinates, .es256, message, signature =>
      Signature.P256.verify coordinates message signature
  | _, _, _, _ => false

namespace VerificationKey

/-- The bytes of a component, in base64url. -/
def component (fault : SetupFault) (text : String) : Except SetupFault (List UInt8) :=
  match Encoding.Base64Url.decode? text.toList with
  | some bytes => .ok bytes
  | none => .error fault

/-- A component that has to be there. -/
def present (fault : SetupFault) : Option String → Except SetupFault String
  | some text => .ok text
  | none => .error fault

/-- The algorithm that an RSA key declares; the first of the family if it declares none. -/
def rsaAlgorithm : Option String → Except SetupFault Algorithm
  | none => .ok .rs256
  | some name =>
      if name = "RS256" then .ok .rs256
      else if name = "RS384" then .ok .rs384
      else if name = "RS512" then .ok .rs512
      else .error (.rsaAlgorithm name)

/-- The verification key that a published RSA key gives. -/
def ofRsa (key : Jwk) : Except SetupFault VerificationKey := do
  let modulus ← present .rsaModulusMissing key.modulus
  let exponent ← present .rsaExponentMissing key.exponent
  let modulus ← component .rsaUnreadable modulus
  let exponent ← component .rsaUnreadable exponent
  let algorithm ← rsaAlgorithm key.algorithm
  pure ⟨key.keyId, algorithm, .rsa ⟨modulus, exponent⟩⟩

/-- The verification key that a published key on an elliptic curve gives. -/
def ofCurve (key : Jwk) : Except SetupFault VerificationKey := do
  let x ← present .ecXMissing key.x
  let y ← present .ecYMissing key.y
  let curve ← present .ecCurveMissing key.curve
  if curve ≠ "P-256" then .error (.ecCurve curve)
  else
    let x ← component .ecUnreadable x
    let y ← component .ecUnreadable y
    pure ⟨key.keyId, .es256, .p256 (x ++ y)⟩

/-- The verification key that a published key gives. -/
def ofJwk (key : Jwk) : Except SetupFault VerificationKey :=
  if key.keyType = "RSA" then ofRsa key
  else if key.keyType = "EC" then ofCurve key
  else .error (.keyType key.keyType)

/-- The form of a key in diagnostics, without its material. -/
def description (key : VerificationKey) : String :=
  let keyId := match key.keyId with
    | some text => "Some(" ++ Text.quoted text ++ ")"
    | none => "None"
  "VerificationKey \x7b key_id: " ++ keyId ++ ", algorithm: " ++ key.algorithm.name
    ++ ", .. \x7d"

end VerificationKey

/-- The keys in use at a time. They are replaced all at once or not at all. -/
structure KeySet where
  keys : List VerificationKey
  deriving DecidableEq, Repr

namespace KeySet

/-- The usable keys of a document, in its order. A document without any is refused. -/
def ofJwks (document : Jwks) : Except SetupFault KeySet :=
  let keys := document.keys.filterMap fun key => (VerificationKey.ofJwk key).toOption
  if keys.isEmpty then .error .noUsableKeys else .ok ⟨keys⟩

/-- The key for a key identifier; the first key of the set if a token names none. -/
def select? (set : KeySet) : Option String → Option VerificationKey
  | some keyId => set.keys.find? (·.keyId == some keyId)
  | none => set.keys.head?

/-- The identifiers of the keys that have one. -/
def keyIds (set : KeySet) : List String :=
  set.keys.filterMap (·.keyId)

end KeySet

end ObjectGrants
