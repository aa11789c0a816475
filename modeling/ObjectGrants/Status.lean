import ObjectGrants.Json.Wire

/-!
The progress of an upload as the authority reports it. An upload ends in success or in one of
two failures; until then it is pending.
-/

namespace ObjectGrants

open Json

inductive Status where
  | initiated
  | validatingMetadata
  | scanningForMalware
  | succeeded
  | validationFailed
  | virusDetected
  deriving DecidableEq, Repr

namespace Status

def all : List Status :=
  [initiated, validatingMetadata, scanningForMalware, succeeded, validationFailed,
    virusDetected]

/-- The name of a status in messages and on the wire. -/
def name : Status → String
  | initiated => "INITIATE_UPLOAD"
  | validatingMetadata => "UPLOAD_ON_METADATA_VALIDATION"
  | scanningForMalware => "UPLOAD_ON_MALWARE_SCANNING"
  | succeeded => "UPLOAD_SUCCESS"
  | validationFailed => "UPLOAD_VALIDATION_FAILED"
  | virusDetected => "UPLOAD_VIRUS_DETECTED"

/-- The status of an exact name. -/
def ofName? (name : String) : Option Status :=
  all.find? (·.name = name)

def isSuccess : Status → Bool
  | succeeded => true
  | _ => false

/-- Whether the upload has failed for good. -/
def isDenied : Status → Bool
  | validationFailed | virusDetected => true
  | _ => false

def isTerminal (status : Status) : Bool :=
  status.isSuccess || status.isDenied

def isPending (status : Status) : Bool :=
  !status.isTerminal

end Status

instance : Wire Status where
  encode status := .string status.name
  decode? := decodeName? Status.ofName?

/-- The status of one uploaded object. -/
structure TokenStatus where
  token : String
  status : Status
  deriving DecidableEq, Repr

/-- The form of a report in messages. -/
def TokenStatus.text (report : TokenStatus) : String :=
  report.token ++ "=" ++ report.status.name

instance : Wire TokenStatus where
  encode report :=
    .object [("token", encode report.token), ("status", encode report.status)]
  decode? document := do
    let members ← Record.members? ["token", "status"] 2 document
    pure {
      token := ← Record.required? ["token"] members
      status := ← Record.required? ["status"] members }

end ObjectGrants
