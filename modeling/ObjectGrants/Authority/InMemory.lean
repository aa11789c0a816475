import ObjectGrants.Authority.Call
import ObjectGrants.Key.Rehearsal

/-!
An authority that lives in memory. It keeps a record of every call and answers from what it
has been told to do: to fail, to leave out grants, to report statuses in sequence.

Its grants bind the object of an upload in a token of its own, and they stand in reverse
order, so that nobody relies on their positions.
-/

namespace ObjectGrants.InMemory

/-- A call as it is kept on record. -/
inductive RecordedCall where
  | uploadGrants (correlation : CorrelationId) (contentType : String) (identifiers : List String)
  | downloadGrants (correlation : CorrelationId) (tokens : List String) (expiry : UInt64)
  | statusCheck (correlation : CorrelationId) (tokens : List String)
  | keySet
  | putObject (url contentType : String) (size : Nat)
  deriving DecidableEq, Repr

/-- The endpoint that a recorded call went to. -/
def RecordedCall.endpoint : RecordedCall → Endpoint
  | uploadGrants _ _ _ => .bulkUpload
  | downloadGrants _ _ _ => .download
  | statusCheck _ _ => .uploadCheck
  | keySet => .keySet
  | putObject _ _ _ => .objectPut

/-- A failure that the authority is told to answer with. -/
inductive Failure where
  | rejected (code message : String)
  | unavailable
  deriving DecidableEq, Repr

/-- The fault that a failure is in a call. -/
def Failure.fault (origin : Origin) : Failure → Fault
  | rejected code message => .rejected origin code message (some 400)
  | unavailable => .unavailable origin .refused

/-- A failure with the number of times it still occurs, without end if there is none. -/
structure Armed where
  failure : Failure
  remaining : Option Nat
  deriving DecidableEq, Repr

/-- The failure that occurs now, if one does, and what is armed afterwards. A failure that is
used up is cleared away by the call after it. -/
def Armed.fire : Option Armed → Option Failure × Option Armed
  | none => (none, none)
  | some ⟨failure, none⟩ => (some failure, some ⟨failure, none⟩)
  | some ⟨_, some 0⟩ => (none, none)
  | some ⟨failure, some (n + 1)⟩ => (some failure, some ⟨failure, some n⟩)

/-- What the authority remembers and has been told to do. -/
structure State where
  calls : List RecordedCall := []
  uploadFailures : List (String × Option Armed) := []
  statusFailure : Option Armed := none
  downloadFailure : Option Armed := none
  putFailure : Option Armed := none
  keyDocument : Option Jwks := none
  keySetFails : Bool := false
  omittedGrants : List String := []
  unknownGrants : List String := []
  statuses : List (String × List Status) := []
  publicTokens : List String := []
  emptyDownloads : List String := []
  statusDelay : Nat := 0

/-- A list of entries with one of them set. -/
def setEntry {α : Type} (name : String) (value : α) : List (String × α) → List (String × α)
  | [] => [(name, value)]
  | (other, kept) :: rest =>
      if other = name then (name, value) :: rest else (other, kept) :: setEntry name value rest

namespace State

/-! What the authority can be told. -/

/-- Fails uploads of a content type, a number of times or always. -/
def failUploads (contentType : String) (failure : Failure) (times : Option Nat) (state : State)
    : State :=
  { state with
    uploadFailures := setEntry contentType (some ⟨failure, times⟩) state.uploadFailures }

def failStatusChecks (failure : Failure) (times : Option Nat) (state : State) : State :=
  { state with statusFailure := some ⟨failure, times⟩ }

def failDownloads (failure : Failure) (state : State) : State :=
  { state with downloadFailure := some ⟨failure, none⟩ }

def failPuts (failure : Failure) (times : Option Nat) (state : State) : State :=
  { state with putFailure := some ⟨failure, times⟩ }

/-- Lets time pass before every report of statuses. -/
def delayStatusChecks (delay : Nat) (state : State) : State :=
  { state with statusDelay := delay }

def failKeySet (state : State) : State :=
  { state with keySetFails := true }

/-- Publishes other keys, and no failure any more. -/
def setKeySet (document : Jwks) (state : State) : State :=
  { state with keyDocument := some document, keySetFails := false }

/-- Leaves out the grant of an upload. -/
def omitGrant (identifier : String) (state : State) : State :=
  { state with omittedGrants := identifier :: state.omittedGrants }

/-- Adds a grant that nobody asks for. -/
def addUnknownGrant (identifier : String) (state : State) : State :=
  { state with unknownGrants := state.unknownGrants ++ [identifier] }

/-- Reports the statuses of a token one after the other, the last again and again. -/
def setStatuses (token : String) (sequence : List Status) (state : State) : State :=
  { state with statuses := setEntry token sequence state.statuses }

/-- Gives out the public URL of an object. -/
def markPublic (token : String) (state : State) : State :=
  { state with publicTokens := token :: state.publicTokens }

/-- Answers a download request for an object without any URL. -/
def emptyDownload (token : String) (state : State) : State :=
  { state with emptyDownloads := token :: state.emptyDownloads }

/-- How many calls an endpoint has had. -/
def count (endpoint : Endpoint) (state : State) : Nat :=
  state.calls.countP (·.endpoint = endpoint)

/-- Puts a call on record. -/
def recorded (call : RecordedCall) (state : State) : State :=
  { state with calls := state.calls ++ [call] }

end State

/-- The object that an upload is bound to. -/
def objectFor (identifier : String) : String :=
  "obj-" ++ identifier

/-- How long an upload grant lasts, in seconds. -/
def grantLifetime : Int := 900

/-- The grant for an upload. -/
def grantFor (now : Int) (identifier : String) : SignedGrant where
  identifier := identifier
  signedUrl := "https://storage.test/upload/" ++ identifier
  boundToken :=
    RehearsalKey.signing.bind (some RehearsalKey.signing.keyId) now (objectFor identifier)
  expiry := Int64.ofInt (now + grantLifetime)

/-- The grant to download an object. -/
def downloadFor (state : State) (expiry : Int64) (token : String) : DownloadGrant :=
  if state.emptyDownloads.contains token then
    { token, signedUrl := "", expiry, publicUrl := "" }
  else if state.publicTokens.contains token then
    { token, signedUrl := "", expiry, publicUrl := "https://cdn.test/" ++ token }
  else
    { token, signedUrl := "https://storage.test/download/" ++ token, expiry, publicUrl := "" }

/-- Answers a request for uploads. -/
def answerUploads (now : Int) (origin : Origin) (descriptors : List UploadDescriptor)
    (state : State)
    : Except Fault (List SignedGrant) × State :=
  let contentType := (descriptors.head?.map (·.contentType)).getD ""
  let identifiers := descriptors.map (·.identifier)
  let state := state.recorded (.uploadGrants origin.correlation contentType identifiers)
  let (failure, state) := match state.uploadFailures.lookup contentType with
    | some slot =>
        let (failure, slot) := Armed.fire slot
        (failure, { state with uploadFailures := setEntry contentType slot state.uploadFailures })
    | none => (none, state)
  match failure with
  | some failure => (.error (failure.fault origin), state)
  | none =>
      let granted := identifiers.filter (!state.omittedGrants.contains ·)
      (.ok ((granted ++ state.unknownGrants).map (grantFor now)).reverse, state)

/-- Answers a request for downloads. -/
def answerDownloads (now : Int) (origin : Origin) (request : DownloadRequest) (state : State)
    : Except Fault (List DownloadGrant) × State :=
  let state := state.recorded
    (.downloadGrants origin.correlation request.tokens request.expiryInSeconds)
  let (failure, slot) := Armed.fire state.downloadFailure
  let state := { state with downloadFailure := slot }
  match failure with
  | some failure => (.error (failure.fault origin), state)
  | none =>
      let expiry := Int64.ofInt now + Int64.ofInt request.expiryInSeconds.toNat
      (.ok (request.tokens.map (downloadFor state expiry)), state)

/-- The status that a sequence gives now, and what is left of it. The last one stays. -/
def nextStatus : List Status → Option Status × List Status
  | [] => (none, [])
  | [last] => (some last, [last])
  | first :: rest => (some first, rest)

/-- The reports about some tokens in order; a token without a sequence is left out. -/
def reportsFor : List String → List (String × List Status)
    → List TokenStatus × List (String × List Status)
  | [], statuses => ([], statuses)
  | token :: rest, statuses =>
      match statuses.lookup token with
      | none => reportsFor rest statuses
      | some sequence =>
          let (status, sequence) := nextStatus sequence
          let (reports, statuses) := reportsFor rest (setEntry token sequence statuses)
          ((status.map (⟨token, ·⟩)).toList ++ reports, statuses)

/-- Answers a question about statuses, at the time of the answer. -/
def answerStatusCheck (origin : Origin) (tokens : List String) (state : State)
    : Except Fault (List TokenStatus) × State :=
  let (failure, slot) := Armed.fire state.statusFailure
  let state := { state with statusFailure := slot }
  match failure with
  | some failure => (.error (failure.fault origin), state)
  | none =>
      let (reports, statuses) := reportsFor tokens state.statuses
      (.ok reports, { state with statuses })

/-- Answers a request for the keys. -/
def answerKeySet (origin : Origin) (state : State) : Except Fault Jwks × State :=
  let state := state.recorded .keySet
  if state.keySetFails then (.error (Failure.unavailable.fault origin), state)
  else (.ok (state.keyDocument.getD RehearsalKey.signing.document), state)

/-- Answers an upload of an object. -/
def answerPut (origin : Origin) (url contentType : String) (size : Nat) (state : State)
    : Except Fault Unit × State :=
  let state := state.recorded (.putObject url contentType size)
  let (failure, slot) := Armed.fire state.putFailure
  let state := { state with putFailure := slot }
  match failure with
  | some failure => (.error (failure.fault origin), state)
  | none => (.ok (), state)

/-- An answer that is given at once. -/
private def atOnce {α : Type} (answer : α × State) : Pending State α :=
  .immediate answer.1 answer.2

/-- The authority in memory, at a second of the calendar. -/
def authority (now : Int) : Authority State where
  accept correlation call state :=
    let origin : Origin := ⟨call.endpoint, correlation⟩
    match call with
    | .bulkUpload descriptors => atOnce (answerUploads now origin descriptors state)
    | .download request => atOnce (answerDownloads now origin request state)
    | .uploadCheck tokens =>
        { delay := state.statusDelay
          state := state.recorded (.statusCheck correlation tokens)
          finish := answerStatusCheck origin tokens }
    | .keySet => atOnce (answerKeySet origin state)
    | .objectPut url contentType body =>
        atOnce (answerPut origin url contentType body.length state)

end ObjectGrants.InMemory
