import ObjectGrants.Fault
import ObjectGrants.Moment

/-!
Grants: permissions of the authority to upload or to download one object.

The authority spells some fields in two ways, and both are read.
-/

namespace ObjectGrants

open Json

/-- The identifier of a stored object. -/
structure ObjectId where
  text : String
  deriving DecidableEq, Repr

instance : Wire ObjectId where
  encode id := .string id.text
  decode? document := (decode? document).map ObjectId.mk

/-- The permission to upload one object to a URL, until a second of the calendar. Its token
is bound to the object. -/
structure SignedGrant where
  identifier : String
  signedUrl : String
  boundToken : String
  expiry : Int64
  deriving DecidableEq, Repr

instance : Wire SignedGrant where
  encode grant :=
    .object [("identifier", encode grant.identifier), ("signedUrl", encode grant.signedUrl),
      ("boundToken", encode grant.boundToken), ("expiry", encode grant.expiry)]
  decode? document := do
    let members ← Record.members? ["identifier", "signedUrl", "boundToken", "expiry"] 4 document
    pure {
      identifier := ← Record.required? ["identifier"] members
      signedUrl := ← Record.required? ["signedUrl", "signedURL"] members
      boundToken := ← Record.required? ["boundToken", "jwtToken"] members
      expiry := ← Record.required? ["expiry"] members }

namespace SignedGrant

/-- The moment at which a grant expires, if the calendar has it. -/
def expiresAt? (grant : SignedGrant) : Option Moment :=
  Moment.ofSeconds? grant.expiry.toInt

/-- Whether a grant has expired; one that expires at no moment of the calendar has. -/
def isExpiredAt (grant : SignedGrant) (now : Moment) : Bool :=
  match grant.expiresAt? with
  | some moment => moment.le now
  | none => true

end SignedGrant

/-- The permission to download the object of a token. A public object has a URL of its own. -/
structure DownloadGrant where
  token : String
  signedUrl : String
  expiry : Int64
  publicUrl : String
  deriving DecidableEq, Repr

instance : Wire DownloadGrant where
  encode grant :=
    .object [("token", encode grant.token), ("signedUrl", encode grant.signedUrl),
      ("expiry", encode grant.expiry), ("publicUrl", encode grant.publicUrl)]
  decode? document := do
    let members ← Record.members? ["token", "signedUrl", "expiry", "publicUrl"] 1 document
    pure {
      token := ← Record.required? ["token"] members
      signedUrl := ← Record.optional? ["signedUrl", "signedURL"] "" members
      expiry := ← Record.optional? ["expiry"] 0 members
      publicUrl := ← Record.optional? ["publicUrl", "publicURL"] "" members }

/-- A download with the one URL to use. -/
structure ResolvedDownload where
  token : String
  url : String
  isPublic : Bool
  expiry : Int64
  deriving DecidableEq, Repr

instance : Wire ResolvedDownload where
  encode download :=
    .object [("token", encode download.token), ("url", encode download.url),
      ("isPublic", encode download.isPublic), ("expiry", encode download.expiry)]
  decode? document := do
    let members ← Record.members? ["token", "url", "isPublic", "expiry"] 4 document
    pure {
      token := ← Record.required? ["token"] members
      url := ← Record.required? ["url"] members
      isPublic := ← Record.required? ["isPublic"] members
      expiry := ← Record.required? ["expiry"] members }

/-- Chooses the URL of a download: the public one unless it is blank, else the signed one. -/
def DownloadGrant.resolve (grant : DownloadGrant) (correlation : CorrelationId)
    : Except Fault ResolvedDownload :=
  if !Text.isBlankText grant.publicUrl then
    .ok { token := grant.token, url := grant.publicUrl, isPublic := true, expiry := grant.expiry }
  else if !Text.isBlankText grant.signedUrl then
    .ok { token := grant.token, url := grant.signedUrl, isPublic := false, expiry := grant.expiry }
  else .error (.malformed ⟨.download, correlation⟩ (.noUrl grant.token))

end ObjectGrants
