import ObjectGrants.Grant
import ObjectGrants.Key.Jwk
import ObjectGrants.Request

/-!
The bodies that travel between a client and the authority. An answer of success wraps its
data in an envelope, with the exception of the key document; an answer of failure lists
errors.
-/

namespace ObjectGrants

open Json

/-- One upload in a request for grants. Its limits stand among its other members, under the
name of their kind. -/
structure UploadDescriptor where
  identifier : String
  fileName : String
  serviceName : String
  category : Category
  isPublic : Bool
  metadata : Metadata
  deriving DecidableEq, Repr

namespace UploadDescriptor

/-- The descriptor of a checked request, on behalf of a service. -/
def ofRequest (serviceName : String) (request : EnrichedRequest) : UploadDescriptor where
  identifier := request.identifier
  fileName := request.fileName
  serviceName := serviceName
  category := request.category
  isPublic := request.isPublic
  metadata := request.metadata

def contentType (descriptor : UploadDescriptor) : String :=
  descriptor.metadata.contentType

end UploadDescriptor

/-- Of several blocks of limits the first one counts. All members have to be sound, since any
of them may turn out to be the limits. -/
instance : Wire UploadDescriptor where
  encode descriptor :=
    .object [("identifier", encode descriptor.identifier),
      ("fileName", encode descriptor.fileName), ("serviceName", encode descriptor.serviceName),
      ("category", encode descriptor.category), ("isPublic", encode descriptor.isPublic),
      descriptor.metadata.member]
  decode? document := do
    let _ ← document.value?
    match document with
    | .object members =>
        pure {
          identifier := ← Record.required? ["identifier"] members
          fileName := ← Record.required? ["fileName"] members
          serviceName := ← Record.required? ["serviceName"] members
          category := ← Record.required? ["category"] members
          isPublic := ← Record.required? ["isPublic"] members
          metadata := ← (members.find? (Metadata.keys.contains ·.1)).bind Metadata.ofMember? }
    | _ => none

/-- A request for downloads that last a number of seconds. -/
structure DownloadRequest where
  tokens : List String
  expiryInSeconds : UInt64
  deriving DecidableEq, Repr

instance : Wire DownloadRequest where
  encode request :=
    .object [("tokens", encode request.tokens),
      ("expiryInSeconds", encode request.expiryInSeconds)]
  decode? document := do
    let members ← Record.members? ["tokens", "expiryInSeconds"] 2 document
    pure {
      tokens := ← Record.required? ["tokens"] members
      expiryInSeconds := ← Record.required? ["expiryInSeconds"] members }

/-- A request for the status of uploads. -/
structure UploadCheckRequest where
  tokens : List String
  deriving DecidableEq, Repr

instance : Wire UploadCheckRequest where
  encode request := .object [("tokens", encode request.tokens)]
  decode? document := do
    let members ← Record.members? ["tokens"] 1 document
    pure { tokens := ← Record.required? ["tokens"] members }

/-- The wrapping of an answer of success. -/
structure Envelope (α : Type) where
  message : Option String
  data : Option α
  deriving DecidableEq, Repr

instance {α : Type} [Wire α] : Wire (Envelope α) where
  encode envelope :=
    .object [("message", encode envelope.message), ("data", encode envelope.data)]
  decode? document := do
    let members ← Record.members? ["message", "data"] 2 document
    pure {
      message := ← Record.optional? ["message"] none members
      data := ← Record.optional? ["data"] none members }

/-- One error of an answer of failure. -/
structure ErrorItem where
  requestId : Option String
  code : String
  message : String
  deriving DecidableEq, Repr

instance : Wire ErrorItem where
  encode item :=
    .object [("reqId", encode item.requestId), ("code", encode item.code),
      ("message", encode item.message)]
  decode? document := do
    let members ← Record.members? ["reqId", "code", "message"] 0 document
    pure {
      requestId := ← Record.optional? ["reqId"] none members
      code := ← Record.optional? ["code"] "" members
      message := ← Record.optional? ["message"] "" members }

/-- The body of an answer of failure. -/
structure ErrorEnvelope where
  errors : List ErrorItem
  deriving DecidableEq, Repr

instance : Wire ErrorEnvelope where
  encode envelope := .object [("errors", encode envelope.errors)]
  decode? document := do
    let members ← Record.members? ["errors"] 0 document
    pure { errors := ← Record.optional? ["errors"] [] members }

end ObjectGrants
