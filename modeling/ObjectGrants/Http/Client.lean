import ObjectGrants.Authority.Call
import ObjectGrants.Configuration
import ObjectGrants.Http.Library

/-!
The authority behind HTTP. Each call becomes one request, and each way in which the exchange
can go is classified exactly once: as data, as an unusable answer, as a refusal, or as the
authority being out of reach.
-/

namespace ObjectGrants.Http

open Json

/-- The fault that an answer without success stands for. The first entry of a list of errors
is given verbatim. Without one, the statuses of a missing service count as the authority
being out of reach, and the others as refusals by status. -/
def rejection (origin : Origin) (status : Nat) (body : String) : Fault :=
  let first := ((ofText? body : Option ErrorEnvelope).map (·.errors)).bind List.head?
  match first with
  | some item => .rejected origin item.code item.message (some status)
  | none =>
      if status = 502 ∨ status = 503 ∨ status = 504 then .unavailable origin (.status status)
      else
        let message :=
          if Text.isBlankText body then (httpReason? status).getD "upstream error"
          else Text.trim body
        .rejected origin ("HTTP_" ++ toString status) message (some status)

/-- The URL of a path of the authority. -/
def joinUrl (base path : String) : String :=
  Configuration.trimSlashes base ++ path

/-- The paths of the authority. An object is put to a URL of its own. -/
def pathOf : Endpoint → String
  | .bulkUpload => "/upload/bulkRequest"
  | .download => "/download/request"
  | .uploadCheck => "/upload/check"
  | .keySet => "/.well-known/jwks"
  | .objectPut => ""

/-- The name of the header with the correlation identifier. -/
def correlationHeader : String := "request-id"

/-- The range that every object is put with. -/
def objectRange : String := "bytes 0-*/*"

/-- A request, if its URL and its headers are sound. -/
def Request.build? (library : Library) (method : Method) (url : String)
    (headers : List (String × String)) (body : List UInt8)
    : Option Request := do
  let url ← library.url? url
  if headers.all fun header => isHeaderValue header.2 then some ⟨method, url, headers, body⟩
  else none

/-- The request for a call, if it can be built. -/
def requestFor (library : Library) (base : String) (correlation : CorrelationId) (call : Call)
    : Option Request :=
  let identified := (correlationHeader, correlation.text)
  let post (body : Value) : Option Request :=
    Request.build? library .post (joinUrl base (pathOf call.endpoint))
      [("content-type", "application/json"), identified] (Text.Utf8.encode body.text)
  match call with
  | .bulkUpload descriptors => post (encode descriptors)
  | .download request => post (encode request)
  | .uploadCheck tokens => post (encode (⟨tokens⟩ : UploadCheckRequest))
  | .keySet => Request.build? library .get (joinUrl base (pathOf .keySet)) [identified] []
  | .objectPut url contentType body =>
      Request.build? library .put url
        [("content-type", contentType), ("content-range", objectRange), identified] body

/-- The data of an envelope that a body holds. -/
def enveloped {α : Type} [Wire α] (origin : Origin) (body : List UInt8) : Except Fault α :=
  match (ofBytes? body : Option (Envelope α)) with
  | none => .error (.malformed origin .badBody)
  | some envelope =>
      match envelope.data with
      | some data => .ok data
      | none => .error (.malformed origin .noData)

/-- The data that the body of a successful answer holds. -/
def dataOf (origin : Origin) (body : List UInt8)
    : (endpoint : Endpoint) → Except Fault endpoint.Reply
  | .bulkUpload => enveloped origin body
  | .download => enveloped origin body
  | .uploadCheck => enveloped origin body
  | .keySet =>
      match (ofBytes? body : Option Jwks) with
      | some document => .ok document
      | none => .error (.malformed origin .badBody)
  | .objectPut => .ok ()

/-- The text of the body of a refusal, which is empty if the body breaks off. -/
def refusalText (library : Library) (contentType : Option String)
    : Option (List UInt8) → String
  | some bytes => library.bodyText contentType bytes
  | none => ""

/-- What an exchange means. Where no data is expected, the body of a successful answer is not
looked at. -/
def classify (library : Library) (correlation : CorrelationId) (endpoint : Endpoint)
    : Exchange → Except Fault endpoint.Reply
  | .failed => .error (.unavailable ⟨endpoint, correlation⟩ .requestFailed)
  | .timedOut => .error (.unavailable ⟨endpoint, correlation⟩ .timedOut)
  | .answered status contentType body =>
      let origin : Origin := ⟨endpoint, correlation⟩
      if isSuccess status then
        match endpoint, body with
        | .objectPut, _ => .ok ()
        | endpoint, some body => dataOf origin body endpoint
        | _, none => .error (.unavailable origin .bodyBroken)
      else .error (rejection origin status (refusalText library contentType body))

/-- Something that carries requests and brings back what becomes of them. -/
abbrev Transport (σ : Type) := Request → σ → Pending σ Exchange

/-- The authority at a base URL. A request that cannot be built is not sent. -/
def authority {σ : Type} (library : Library) (base : String) (transport : Transport σ)
    : Authority σ where
  accept correlation call state :=
    let origin : Origin := ⟨call.endpoint, correlation⟩
    let isWithoutUrl := match call with
      | .objectPut url _ _ => url.isEmpty
      | _ => false
    if isWithoutUrl then .immediate (.error (.invalidRequest .emptyUrl)) state
    else match requestFor library base correlation call with
      | none => .immediate (.error (.unavailable origin .requestFailed)) state
      | some request =>
          let pending := transport request state
          { delay := pending.delay
            state := pending.state
            finish := fun state =>
              let (exchange, state) := pending.finish state
              (classify library correlation call.endpoint exchange, state) }

end ObjectGrants.Http
