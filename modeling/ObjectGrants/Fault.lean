import ObjectGrants.Catalog
import ObjectGrants.Correlation
import ObjectGrants.Status

/-!
Everything that can go wrong, as causes. `Fault.message` words each of them, and the profile
of a fault says how a surrounding service should treat it.

A fault that arose in a call to the authority names the endpoint and the correlation
identifier of that call, so that it can be reported without asking again. Each family of
causes also has the form `stated`, for a cause that arrives as a text.
-/

namespace ObjectGrants

/-- The calls that the authority answers. -/
inductive Endpoint where
  | bulkUpload
  | download
  | uploadCheck
  | keySet
  | objectPut
  deriving DecidableEq, Repr

namespace Endpoint

def all : List Endpoint := [bulkUpload, download, uploadCheck, keySet, objectPut]

/-- The name of an endpoint in messages. -/
def name : Endpoint → String
  | bulkUpload => "bulk_upload_request"
  | download => "download_request"
  | uploadCheck => "upload_check"
  | keySet => "jwks"
  | objectPut => "object_put"

/-- The endpoint of an exact name. -/
def ofName? (name : String) : Option Endpoint :=
  all.find? (·.name = name)

end Endpoint

/-- The call in which a fault arose. -/
structure Origin where
  endpoint : Endpoint
  correlation : CorrelationId
  deriving DecidableEq, Repr

/-- The form of a call in messages. -/
def Origin.text (origin : Origin) : String :=
  origin.endpoint.name ++ " [request " ++ origin.correlation.text ++ "]"

/-- What is wrong with the input of an operation. -/
inductive RequestFault where
  | stated (text : String)
  | unknownCategory (spelling : String)
  | emptyBatch
  | nothingToSend
  | blankIdentifier
  | blankFileName (identifier : String)
  | foreignCategory (identifier : String) (declared batch : Category)
  | repeatedIdentifier (identifier : String)
  | noTokens
  | repeatedObject (object : String)
  | expiredGrant (identifier : String)
  | emptyUrl
  deriving DecidableEq, Repr

def RequestFault.message : RequestFault → String
  | stated text => text
  | unknownCategory spelling => "Unknown asset category: " ++ spelling
  | emptyBatch => "Upload batch must contain at least one request"
  | nothingToSend => "upload batch must not be empty"
  | blankIdentifier => "Upload identifier must not be empty"
  | blankFileName identifier => "File name must not be empty for upload '" ++ identifier ++ "'"
  | foreignCategory identifier declared batch =>
      "Upload '" ++ identifier ++ "' declares category " ++ declared.name
        ++ " but the batch is " ++ batch.name
  | repeatedIdentifier identifier => "Duplicate upload identifier '" ++ identifier ++ "'"
  | noTokens => "at least one token is required"
  | repeatedObject object => "object '" ++ object ++ "' was presented more than once"
  | expiredGrant identifier =>
      "upload grant for '" ++ identifier ++ "' has expired; request a new one"
  | emptyUrl => "signed URL must not be empty"

/-- The signature algorithms that a token may name. -/
inductive Algorithm where
  | hs256 | hs384 | hs512
  | es256 | es384
  | rs256 | rs384 | rs512
  | ps256 | ps384 | ps512
  | edDSA
  deriving DecidableEq, Repr

namespace Algorithm

def all : List Algorithm :=
  [hs256, hs384, hs512, es256, es384, rs256, rs384, rs512, ps256, ps384, ps512, edDSA]

/-- The registered name of an algorithm. -/
def name : Algorithm → String
  | hs256 => "HS256"
  | hs384 => "HS384"
  | hs512 => "HS512"
  | es256 => "ES256"
  | es384 => "ES384"
  | rs256 => "RS256"
  | rs384 => "RS384"
  | rs512 => "RS512"
  | ps256 => "PS256"
  | ps384 => "PS384"
  | ps512 => "PS512"
  | edDSA => "EdDSA"

/-- The algorithm of an exact name. -/
def ofName? (name : String) : Option Algorithm :=
  all.find? (·.name = name)

end Algorithm

/-- Why a text is not a token that can be read. -/
inductive TokenFlaw where
  /-- It has not three parts. -/
  | parts
  /-- A part is not base64url. -/
  | base64
  /-- A part is not the JSON it should be. -/
  | json
  deriving DecidableEq, Repr

def TokenFlaw.message : TokenFlaw → String
  | parts => "InvalidToken"
  | base64 => "Base64 error: not an unpadded base64url text"
  | json => "JSON error: not the object expected here"

/-- Why a token is not accepted. -/
inductive TokenFault where
  | stated (text : String)
  | empty
  | header (flaw : TokenFlaw)
  | unknownKey (keyId : Option String)
  | algorithmMismatch (token key : Algorithm)
  | unreadable (flaw : TokenFlaw)
  | signature
  | expired
  | notYetValid
  | malformed (flaw : TokenFlaw)
  deriving DecidableEq, Repr

def TokenFault.message : TokenFault → String
  | stated text => text
  | empty => "token is empty"
  | header flaw => "Invalid token header: " ++ flaw.message
  | unknownKey keyId => "Key ID " ++ keyId.getD "<none>" ++ " not found in key set"
  | algorithmMismatch token key =>
      "Unsupported algorithm: " ++ token.name ++ ". Key expects " ++ key.name
  | unreadable flaw => "Invalid token: " ++ flaw.message
  | signature => "Token signature does not verify"
  | expired => "Token has expired"
  | notYetValid => "Token is not yet valid (nbf)"
  | malformed flaw => "Malformed token: " ++ flaw.message

/-- What is wrong with the configuration or with a document of keys. -/
inductive SetupFault where
  | stated (text : String)
  | noUsableKeys
  | keyType (name : String)
  | rsaModulusMissing
  | rsaExponentMissing
  | rsaUnreadable
  | rsaAlgorithm (name : String)
  | ecXMissing
  | ecYMissing
  | ecCurveMissing
  | ecCurve (name : String)
  | ecUnreadable
  | keyFileUnreadable (path reason : String)
  | keyFileMalformed (path : String)
  deriving DecidableEq, Repr

def SetupFault.message : SetupFault → String
  | stated text => text
  | noUsableKeys => "JWKS contains no usable verification keys"
  | keyType name => "Unsupported key type: " ++ name
  | rsaModulusMissing => "RSA key missing modulus"
  | rsaExponentMissing => "RSA key missing exponent"
  | rsaUnreadable => "Failed to create RSA key: " ++ TokenFlaw.base64.message
  | rsaAlgorithm name => "Unsupported RSA algorithm: " ++ name
  | ecXMissing => "EC key missing x coordinate"
  | ecYMissing => "EC key missing y coordinate"
  | ecCurveMissing => "EC key missing curve"
  | ecCurve name => "Unsupported EC curve: " ++ name ++ " (only P-256 is supported)"
  | ecUnreadable => "Failed to create EC key: " ++ TokenFlaw.base64.message
  | keyFileUnreadable path reason => "Failed to read JWKS file " ++ path ++ ": " ++ reason
  | keyFileMalformed path => "Failed to parse JWKS file " ++ path ++ ": not a key set"

/-- The standard reason of an HTTP status. -/
def httpReason? (status : Nat) : Option String :=
  [(100, "Continue"), (101, "Switching Protocols"), (102, "Processing"), (200, "OK"),
    (201, "Created"), (202, "Accepted"), (203, "Non Authoritative Information"),
    (204, "No Content"), (205, "Reset Content"), (206, "Partial Content"),
    (207, "Multi-Status"), (208, "Already Reported"), (226, "IM Used"),
    (300, "Multiple Choices"), (301, "Moved Permanently"), (302, "Found"),
    (303, "See Other"), (304, "Not Modified"), (305, "Use Proxy"),
    (307, "Temporary Redirect"), (308, "Permanent Redirect"), (400, "Bad Request"),
    (401, "Unauthorized"), (402, "Payment Required"), (403, "Forbidden"),
    (404, "Not Found"), (405, "Method Not Allowed"), (406, "Not Acceptable"),
    (407, "Proxy Authentication Required"), (408, "Request Timeout"), (409, "Conflict"),
    (410, "Gone"), (411, "Length Required"), (412, "Precondition Failed"),
    (413, "Payload Too Large"), (414, "URI Too Long"), (415, "Unsupported Media Type"),
    (416, "Range Not Satisfiable"), (417, "Expectation Failed"), (418, "I'm a teapot"),
    (421, "Misdirected Request"), (422, "Unprocessable Entity"), (423, "Locked"),
    (424, "Failed Dependency"), (425, "Too Early"), (426, "Upgrade Required"),
    (428, "Precondition Required"), (429, "Too Many Requests"),
    (431, "Request Header Fields Too Large"), (451, "Unavailable For Legal Reasons"),
    (500, "Internal Server Error"), (501, "Not Implemented"), (502, "Bad Gateway"),
    (503, "Service Unavailable"), (504, "Gateway Timeout"),
    (505, "HTTP Version Not Supported"), (506, "Variant Also Negotiates"),
    (507, "Insufficient Storage"), (508, "Loop Detected"), (510, "Not Extended"),
    (511, "Network Authentication Required")].lookup status

/-- Why the authority could not be reached, or not in time. -/
inductive Outage where
  | stated (text : String)
  | refused
  | requestFailed
  | timedOut
  | bodyBroken
  | status (code : Nat)
  | waitCancelled
  | noCheckFinished
  deriving DecidableEq, Repr

def Outage.message : Outage → String
  | stated text => text
  | refused => "connection refused"
  | requestFailed => "request failed: no answer arrived"
  | timedOut => "request timed out: no answer arrived in time"
  | bodyBroken => "failed to read body: the answer broke off"
  | status code =>
      "status " ++ toString code ++ " " ++ (httpReason? code).getD "<unknown status code>"
  | waitCancelled => "wait cancelled"
  | noCheckFinished => "no status check finished before the deadline"

/-- Why an answer of the authority cannot be used. -/
inductive AnswerFault where
  | stated (text : String)
  | badBody
  | noData
  | unknownIdentifier (identifier : String)
  | repeatedIdentifier (identifier : String)
  | missingIdentifier (identifier : String)
  | missingDownload (token : String)
  | noUrl (token : String)
  | keys (cause : SetupFault)
  deriving DecidableEq, Repr

/-- The wording of a fault of the configuration. -/
def SetupFault.sentence (cause : SetupFault) : String :=
  "Configuration error: " ++ cause.message

def AnswerFault.message : AnswerFault → String
  | stated text => text
  | badBody => "invalid JSON body: not the document expected here"
  | noData => "response envelope has no data"
  | unknownIdentifier identifier =>
      "grant returned for unknown identifier '" ++ identifier ++ "'"
  | repeatedIdentifier identifier => "duplicate grant for identifier '" ++ identifier ++ "'"
  | missingIdentifier identifier => "no grant returned for identifier '" ++ identifier ++ "'"
  | missingDownload token => "no download grant returned for token '" ++ token ++ "'"
  | noUrl token => "download grant for token " ++ token ++ " has no URL"
  | keys cause => cause.sentence

/-- A failure of an operation. -/
inductive Fault where
  | invalidRequest (cause : RequestFault)
  | invalidContentType (identifier contentType : String) (category : Category)
  | invalidToken (cause : TokenFault)
  /-- A token without the claim that binds it to an object. -/
  | missingBinding (claim : String)
  /-- Uploads that are not complete yet. -/
  | notReady (reports : List TokenStatus)
  /-- Uploads of which one has failed for good. -/
  | denied (reports : List TokenStatus)
  | unavailable (origin : Origin) (cause : Outage)
  /-- A refusal by the authority, in its own words. -/
  | rejected (origin : Origin) (code message : String) (httpStatus : Option Nat)
  | malformed (origin : Origin) (cause : AnswerFault)
  | setup (cause : SetupFault)
  deriving DecidableEq, Repr

namespace Fault

/-- The name of the kind of a fault, by which reports are counted. -/
def kind : Fault → String
  | invalidRequest _ => "InvalidRequest"
  | invalidContentType _ _ _ => "InvalidContentType"
  | invalidToken _ => "InvalidToken"
  | missingBinding _ => "MissingBinding"
  | notReady _ => "NotReady"
  | denied _ => "Denied"
  | unavailable _ _ => "UpstreamUnavailable"
  | rejected _ _ _ _ => "UpstreamRejected"
  | malformed _ _ => "DecodeFailure"
  | setup _ => "Configuration"

/-- The wording of a fault. -/
def message : Fault → String
  | invalidRequest cause => "Invalid request: " ++ cause.message
  | invalidContentType identifier contentType category =>
      "Invalid content type '" ++ contentType ++ "' for " ++ category.name ++ " upload '"
        ++ identifier ++ "'"
  | invalidToken cause => "Invalid token: " ++ cause.message
  | missingBinding claim => "Token has no '" ++ claim ++ "' binding claim"
  | notReady reports => "Upload not ready: " ++ ", ".intercalate (reports.map (·.text))
  | denied reports => "Upload denied: " ++ ", ".intercalate (reports.map (·.text))
  | unavailable origin cause =>
      "Upstream unavailable during " ++ origin.text ++ ": " ++ cause.message
  | rejected origin code message _ =>
      "Upstream rejected " ++ origin.text ++ ": " ++ code ++ ": " ++ message
  | malformed origin cause =>
      "Malformed upstream response from " ++ origin.text ++ ": " ++ cause.message
  | setup cause => cause.sentence

/-- The call in which a fault arose, if it arose in one. -/
def origin? : Fault → Option Origin
  | unavailable origin _ => some origin
  | rejected origin _ _ _ => some origin
  | malformed origin _ => some origin
  | _ => none

end Fault

/-- How much attention a fault deserves. -/
inductive LogLevel where
  | debug
  | warn
  | error
  deriving DecidableEq, Repr

/-- How a surrounding service should treat a fault. -/
structure Profile where
  /-- The HTTP status to answer with. -/
  httpStatus : Nat
  /-- A name for programs. -/
  code : String
  /-- Whether the same call may succeed later. -/
  recoverable : Bool
  logLevel : LogLevel
  deriving DecidableEq, Repr

namespace Fault

def profile : Fault → Profile
  | invalidRequest _ => ⟨400, "INVALID_REQUEST", false, .debug⟩
  | invalidContentType _ _ _ => ⟨400, "INVALID_CONTENT_TYPE", false, .debug⟩
  | invalidToken _ => ⟨401, "INVALID_TOKEN", false, .warn⟩
  | missingBinding _ => ⟨502, "MISSING_BINDING", false, .error⟩
  | notReady _ => ⟨409, "UPLOAD_NOT_READY", true, .debug⟩
  | denied _ => ⟨403, "UPLOAD_DENIED", false, .warn⟩
  | unavailable _ _ => ⟨503, "UPSTREAM_UNAVAILABLE", true, .error⟩
  | rejected _ _ _ _ => ⟨502, "UPSTREAM_REJECTED", false, .warn⟩
  | malformed _ _ => ⟨502, "UPSTREAM_DECODE_FAILURE", false, .error⟩
  | setup _ => ⟨500, "CONFIGURATION_ERROR", false, .error⟩

/-- What a client is told; it learns nothing of the inner workings. -/
def clientMessage : Fault → String
  | invalidRequest cause => cause.message
  | invalidContentType identifier contentType category =>
      (invalidContentType identifier contentType category).message
  | invalidToken _ => "Invalid or expired token"
  | missingBinding _ => "Token issuer returned a malformed token"
  | notReady _ => "Upload is still being processed"
  | denied _ => "Upload was rejected"
  | unavailable _ _ => "Upload authority unavailable"
  | rejected _ _ message _ => message
  | malformed _ _ => "Upload authority returned a malformed response"
  | setup _ => "Internal server error"

end Fault

end ObjectGrants
