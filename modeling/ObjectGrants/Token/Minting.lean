import ObjectGrants.Token

/-!
Making tokens. Whoever verifies tokens never makes any; minting is here for authorities that
live in memory.
-/

namespace ObjectGrants

open Json

namespace Token

/-- The header of a token that is made here. -/
def mintedHeader (keyId : Option String) : Value :=
  .object ([("typ", encode "JWT"), ("alg", encode Algorithm.rs256.name)]
    ++ Record.ifSome "kid" keyId)

/-- The base64url text of a JSON value. -/
def partOf (value : Value) : String :=
  Encoding.Base64Url.encode (Text.Utf8.encode value.text)

/-- The token with some claims, signed with an RSA key over a SHA-256 digest. -/
def mint (key : Signature.Rsa.PrivateKey) (keyId : Option String) (claims : Value) : String :=
  let message := partOf (mintedHeader keyId) ++ "." ++ partOf claims
  let signature := Signature.Rsa.sign .sha256 key (Text.Utf8.encode message)
  message ++ "." ++ Encoding.Base64Url.encode signature

end Token

end ObjectGrants
