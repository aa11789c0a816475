import ObjectGrants.Token.Minting

/-!
Two throwaway pairs of RSA keys for rehearsals. The public half of the first is what an
authority in memory publishes; the second is of a stranger, until the authority rotates to
it.
-/

namespace ObjectGrants

open Json

/-- A pair of RSA keys with the identifier it is published under. The numbers are written in
base64url. -/
structure RehearsalKey where
  keyId : String
  modulus : String
  privateExponent : String

namespace RehearsalKey

/-- The public exponent of both pairs. -/
def publicExponent : String := "AQAB"

/-- The pair whose public half is published. -/
def signing : RehearsalKey where
  keyId := "grantgate-test-1"
  modulus :=
    "34tBBeLOR_pUyvhlUTtDny1Et4ocLMRmbAf-QgEheoVvLNa_IzBhLY645aYsfZDVTNt9WKYVJxWA"
    ++ "p5XIMa1vaN82zNiI247CYKf6kPxbRPqrqnxTcBbyfKc5x0nhm4JHQjqXegPBbkXjtlkJo_5aGncx"
    ++ "klQPCbP1E-Svh5uVI-XtPLHxViRfQChf3k9zGb74X5hFikOZFHOiw-X_UWu_jY9Jbjng8A8u3zD9"
    ++ "QSljVZuWYIayeC2VUoZZt01_oTyRH9bBA3CkjJs0PLEVky0HqPgJYxgDDB6VwTKYAl5FMleIFagv"
    ++ "KyY0oHhIkdn10Fh40tVAbbCFBlHtQ0wcUNQa3w"
  privateExponent :=
    "IqXfple7l6NrbhQ8W-_-xgFgXmmifqZ9pi6XpZ0C6-MaUrhW4s-LrbcqiF8OaUiVZEwRgbfS8n5e"
    ++ "NQYTA-7OTv0TQ4J9Co7LfkC6-6rpmJJDy5u-hlKViLrrSoIfMkO_OLrXzJp1ai_x9fWXTXBN1elL"
    ++ "Pn4XNe6gb1IUNMVpbdPaGyjD3xX4eI_540Oj_gCbI2JEFX6E0Mpb2tnORjMDjaD_IQHvhYBL5oKd"
    ++ "WoTgb3Kgk_hIviXgZX9k3ECZqss5My9LeKIiodmATQq-u1FGNSEm9v7aMlnJuyJA21XOwQZQa15O"
    ++ "nEMd5tRifBye6UyQOzn0PllG1wj5YRoKP9eBPQ"

/-- The pair of a stranger. -/
def foreign : RehearsalKey where
  keyId := "grantgate-test-2"
  modulus :=
    "vNoN5V-BAC2lUQI-ZtIjXAbuwwgYOdMlVQPSut1yELIN_7H-Sw5UoE3wG0Xw_TeNMli34RJJeZj8"
    ++ "Ljj0OwFvkhHe5g5BeOjChZO2sVEg7S6048sqEgbxObhjcdysjR3MBpGeVfpxX5hri7y67Rly1eZz"
    ++ "4ijEKjzG7OOEugWFj5etz1gDrFBFYcoNqZHLu9aF_6gz5S7wpeVHnE0u650ExJuv-0qsf57VU-Zd"
    ++ "1_n-vki-gFuvt5Vcu-llC31WbLNBVa1TmsZJUDGRvi9fL2zMcILkVPS6J5jqj5NplbLmM8HxUde7"
    ++ "QVmhEJWeJ2R9oaQmmjiLPddYCha6PxJtfsUt7Q"
  privateExponent :=
    "Q8c6z4S8RrUbLPzSKpLmr-OpE4Q3NaGrN1zc58YMZyOQVKGsM4HcK4BtWUx71lV2rogazoOCrUqT"
    ++ "z38PYJH-Wf1h801QgDWBgvFl0zPbzmRB9bN30Op-7wlXX4kkwKzeCcl_ezocMIQCrS86I1hL16sT"
    ++ "EisxZDtV5bUucJkEu2jEyXVthZlv-1PkEdNPEf0EASYgi4TpP-Iq6rv5Hn1nOPy4-wQNidDZKowY"
    ++ "wTvZcmOaIvdsWKO4dkqiiITBVPwB6t1yhUzEgk_YXOxEoRck5x01SOURV7fOWUKMVSdENjKdV-1B"
    ++ "RYDR3k6bFs3YTXK5qPQ4r7xwv3hpPrb_sqbufQ"

/-- The number that a text in base64url writes. -/
def numberOf (text : String) : Nat :=
  Digest.Sha2.bigEndian ((Encoding.Base64Url.decode? text.toList).getD [])

/-- The private half of a pair. -/
def privateKey (key : RehearsalKey) : Signature.Rsa.PrivateKey where
  modulus := numberOf key.modulus
  exponent := numberOf key.privateExponent

/-- The public half of a pair, as it is published. -/
def published (key : RehearsalKey) : Jwk where
  keyType := "RSA"
  keyId := some key.keyId
  use := some "sig"
  algorithm := some Algorithm.rs256.name
  modulus := some key.modulus
  exponent := some publicExponent

/-- The document that publishes one pair. -/
def document (key : RehearsalKey) : Jwks := ⟨[key.published]⟩

/-- The token with some claims, signed with the private half of a pair. -/
def mint (key : RehearsalKey) (keyId : Option String) (claims : Value) : String :=
  Token.mint key.privateKey keyId claims

/-- How long a token for an object lasts, in seconds. -/
def tokenLifetime : Int := 900

/-- The token that binds an object from a second of the calendar on. -/
def bind (key : RehearsalKey) (keyId : Option String) (now : Int) (object : String) : String :=
  key.mint keyId (.object [("exp", Value.ofInt (now + tokenLifetime)), ("token", encode object)])

end RehearsalKey

end ObjectGrants
