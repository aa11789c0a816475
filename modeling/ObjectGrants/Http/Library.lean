import ObjectGrants.Http.BodyText
import ObjectGrants.Http.Exchange

/-!
What an HTTP client leaves to a library: which texts are URLs, and what the bytes of a body
say.
-/

namespace ObjectGrants.Http

/-- A library of HTTP. -/
structure Library where
  /-- The URL that a text writes, if a request can go there. -/
  url? : String → Option Url
  /-- The text of a body that comes with a content type or without one. -/
  bodyText : (contentType : Option String) → List UInt8 → String

/-- The library that follows the common practice. -/
def Library.standard : Library where
  url? := Url.ofText?
  bodyText := BodyText.decode

end ObjectGrants.Http
