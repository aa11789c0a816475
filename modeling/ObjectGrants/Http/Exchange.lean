import ObjectGrants.Http.Url

/-!
HTTP requests and what becomes of them.
-/

namespace ObjectGrants.Http

inductive Method where
  | get
  | post
  | put
  deriving DecidableEq, Repr

/-- The name of a method in a request. -/
def Method.name : Method → String
  | get => "GET"
  | post => "POST"
  | put => "PUT"

/-- A request that is fit to be sent. -/
structure Request where
  method : Method
  url : Url
  headers : List (String × String)
  body : List UInt8
  deriving DecidableEq, Repr

/-- Whether a text can be the value of a header: it has no control character but the tab. -/
def isHeaderValue (text : String) : Bool :=
  text.toList.all fun c => c = '\t' || (0x20 ≤ c.toNat && c.toNat ≠ 0x7F)

/-- What comes of sending a request: no answer, none in time, or one with its status, the
content type that it states, and its body, which is missing if it breaks off. -/
inductive Exchange where
  | failed
  | timedOut
  | answered (status : Nat) (contentType : Option String) (body : Option (List UInt8))
  deriving DecidableEq, Repr

/-- Whether a status reports success. -/
def isSuccess (status : Nat) : Bool :=
  200 ≤ status && status < 300

end ObjectGrants.Http
