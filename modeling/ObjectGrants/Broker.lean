import ObjectGrants.Dispatch
import ObjectGrants.Gate
import ObjectGrants.Issuance
import ObjectGrants.Key.Store

/-!
The service as its callers see it. It issues upload grants, verifies bound tokens, uploads
objects under a grant, and issues download grants behind the gate.

Input that can be refused without asking the authority is refused before any call is made,
and no grant is handed out whose token has not been verified.
-/

namespace ObjectGrants

/-- How the bound tokens of a service are verified. -/
inductive Verification where
  /-- They are read without a check. -/
  | passThrough
  /-- They are checked with the keys of a store. -/
  | stored (store : KeyStore)

/-- The trust that the present keys give. -/
def Verification.trust : Verification → Trust
  | passThrough => .passThrough
  | stored store => .keys store.set

/-- A service on an authority. -/
structure Broker (σ : Type) where
  authority : Authority σ
  library : TokenLibrary
  verification : Verification
  serviceName : String
  policy : RetryPolicy
  batchMode : BatchMode
  pollInterval : Nat
  pollInterval_pos : 0 < pollInterval
  downloadExpirySecs : UInt64

/-- What is left of a batch of upload requests: the grants in the order of the requests, and
the groups that failed, of which there are none in fail-fast mode. -/
structure UploadBatch where
  issued : List IssuedGrant
  failures : List PartitionFailure
  deriving DecidableEq, Repr

namespace Broker

variable {σ : Type}

/-- The service of an accepted configuration. -/
def new (configuration : Configuration.Accepted) (authority : Authority σ)
    (library : TokenLibrary) (verification : Verification)
    : Broker σ where
  authority := authority
  library := library
  verification := verification
  serviceName := configuration.serviceName
  policy := .ofConfiguration configuration.toConfiguration
  batchMode := configuration.batchMode
  pollInterval := configuration.pollIntervalMs.toNat
  pollInterval_pos := configuration.pollInterval_pos
  downloadExpirySecs := configuration.downloadExpirySecs

/-- Makes the verification that a configuration asks for. Keys that cannot be loaded are a
fault; the check of tokens is left out only where the configuration says so. -/
def verificationFor (configuration : Configuration) (authority : Authority σ) (files : Files)
    (correlation : CorrelationId)
    : Operation σ Verification :=
  match configuration.verificationMode with
  | .published => do pure (.stored (← KeyStore.fetch authority correlation))
  | .file path => Operation.ofResult ((KeyStore.ofFile files path).map .stored)
  | .passThrough => pure .passThrough

/-- Makes the verification that a configuration asks for, then the service. -/
def connect (configuration : Configuration.Accepted) (authority : Authority σ)
    (library : TokenLibrary) (files : Files) (correlation : CorrelationId)
    : Operation σ (Broker σ) := do
  pure (new configuration authority library
    (← verificationFor configuration.toConfiguration authority files correlation))

/-- The gate of a service. -/
def gate (broker : Broker σ) : Gate σ where
  authority := broker.authority
  pollInterval := broker.pollInterval
  pollInterval_pos := broker.pollInterval_pos
  policy := broker.policy

/-- What the dispatch of a batch needs from a service. -/
def setting (broker : Broker σ) (correlation : CorrelationId) : Dispatch.Setting σ where
  authority := broker.authority
  serviceName := broker.serviceName
  policy := broker.policy
  correlation := correlation

/-- The object that a token is bound to at a moment. -/
def verify (broker : Broker σ) (now : Moment) (token : String) : Except Fault ObjectId :=
  broker.verification.trust.verify broker.library now.seconds.toNat token

/-- Verifies a token at the present moment. -/
def verifyToken (broker : Broker σ) (clock : Clock) (token : String) : Operation σ ObjectId :=
  Operation.atTime fun time => broker.verify (clock.moment time) token

/-- Obtains grants for a checked batch, in the batch mode of the service. -/
def requestGrants (broker : Broker σ) (correlation : CorrelationId)
    (batch : List EnrichedRequest)
    : Operation σ BatchOutcome :=
  match broker.batchMode with
  | .failFast => do
      pure { grants := ← Dispatch.requestAll (broker.setting correlation) batch, failures := [] }
  | .partialSuccess => Dispatch.requestPartial (broker.setting correlation) batch

/-- Issues the grants of a batch outcome at a moment, for the requests that are in no
failure. -/
def issueOutcome (broker : Broker σ) (correlation : CorrelationId) (now : Moment)
    (batch : List EnrichedRequest) (outcome : BatchOutcome)
    : Except Fault UploadBatch := do
  let failed := outcome.failures.flatMap (·.identifiers)
  let expected := (batch.map (·.identifier)).filter (!failed.contains ·)
  let grants ← Issuance.reassociate correlation expected outcome.grants
  let issued ← grants.mapM
    (Issuance.issue broker.verification.trust broker.library now.seconds.toNat)
  pure { issued, failures := outcome.failures }

/-- Issues one upload grant for every request of a batch. The tokens of the grants are
verified when the answers are there. -/
def issueUploads (broker : Broker σ) (correlation : CorrelationId) (clock : Clock)
    (category : Category) (requests : List UploadRequest)
    : Operation σ UploadBatch := do
  let batch ← Operation.ofResult (Enrichment.enrich category requests)
  let outcome ← broker.requestGrants correlation batch
  Operation.atTime fun time =>
    broker.issueOutcome correlation (clock.moment time) batch outcome

/-- The first object that occurs again before the end of a list; `seen` holds those before. -/
def firstRepeated? (seen : List ObjectId) : List ObjectId → Option ObjectId
  | [] => none
  | object :: rest =>
      if seen.contains object then some object else firstRepeated? (object :: seen) rest

/-- The distinct objects that a list of bound tokens names at a moment, in its order. -/
def boundObjects (broker : Broker σ) (now : Moment) (tokens : List String)
    : Except Fault (List String) :=
  if tokens.isEmpty then .error (.invalidRequest .noTokens)
  else do
    let objects ← tokens.mapM (broker.verify now)
    match firstRepeated? [] objects with
    | some object => .error (.invalidRequest (.repeatedObject object.text))
    | none => .ok (objects.map (·.text))

/-- The last grant for a token, with its URL chosen. -/
def resolveDownload (correlation : CorrelationId) (grants : List DownloadGrant) (token : String)
    : Except Fault ResolvedDownload :=
  match grants.reverse.find? (·.token == token) with
  | some grant => grant.resolve correlation
  | none => .error (.malformed ⟨.download, correlation⟩ (.missingDownload token))

/-- Requests the downloads of objects that have passed the gate, in their order. -/
def requestDownloads (broker : Broker σ) (correlation : CorrelationId) (objects : List String)
    : Operation σ (List ResolvedDownload) := do
  let request : DownloadRequest :=
    { tokens := objects, expiryInSeconds := broker.downloadExpirySecs }
  let grants ← Operation.ofTimed
    (broker.policy.run (Timed.call broker.authority correlation (.download request)))
  Operation.ofResult (objects.mapM (resolveDownload correlation grants))

/-- Issues one download for every bound token, if all their uploads have succeeded. -/
def issueDownloads (broker : Broker σ) (correlation : CorrelationId) (clock : Clock)
    (tokens : List String)
    : Operation σ (List ResolvedDownload) := do
  let objects ← Operation.atTime fun time => broker.boundObjects (clock.moment time) tokens
  broker.gate.ensureReady correlation objects
  broker.requestDownloads correlation objects

/-- Requests the downloads of objects behind a wait, unless the wait has panicked. -/
def requestBehind (broker : Broker σ) (correlation : CorrelationId) (objects : List String)
    : Except Panic Unit → Operation σ (Except Panic (List ResolvedDownload))
  | .ok () => do pure (.ok (← broker.requestDownloads correlation objects))
  | .error panic => pure (.error panic)

/-- Issues one download for every bound token, and waits for pending uploads before. -/
def issueDownloadsWithin (broker : Broker σ) (correlation : CorrelationId) (clock : Clock)
    (tokens : List String) (timeout : Nat) (cancel : Option Nat)
    : Operation σ (Except Panic (List ResolvedDownload)) := do
  let objects ← Operation.atTime fun time => broker.boundObjects (clock.moment time) tokens
  let waited ← broker.gate.waitUntilReady clock correlation objects timeout cancel
  broker.requestBehind correlation objects waited

/-- Refuses a grant that has expired at a moment. -/
def checkExpiry (now : Moment) (grant : SignedGrant) : Except Fault Unit :=
  if grant.isExpiredAt now then .error (.invalidRequest (.expiredGrant grant.identifier))
  else .ok ()

/-- Uploads an object to the URL of a grant that has not expired when the upload begins. -/
def putObject (broker : Broker σ) (correlation : CorrelationId) (clock : Clock)
    (grant : SignedGrant) (contentType : String) (body : List UInt8)
    : Operation σ Unit := do
  Operation.atTime fun time => checkExpiry (clock.moment time) grant
  Operation.ofTimed (broker.policy.run
    (Timed.call broker.authority correlation (.objectPut grant.signedUrl contentType body)))

/-- Loads the keys again, if tokens are checked with keys. -/
def refreshKeys (broker : Broker σ) (files : Files) (correlation : CorrelationId)
    : Operation σ (Broker σ) :=
  match broker.verification with
  | .passThrough => pure broker
  | .stored store => do
      let store ← store.refresh broker.authority files correlation
      pure { broker with verification := .stored store }

end Broker

end ObjectGrants
