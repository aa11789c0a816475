import ObjectGrants.Broker
import ObjectGrants.CommandLine.Arguments
import ObjectGrants.CommandLine.LocalPath
import ObjectGrants.Json.Layout

/-!
What the command line does: it reads its arguments and the configuration, asks the authority
for what the command needs, and reports the result as JSON or a failure with its causes.

Nothing here touches the world. The files, the variables, the authority, the clock and the
correlation identifiers that have to be made up are given from outside.
-/

namespace ObjectGrants.CommandLine

open Json

/-- Why a command fails. -/
inductive Failure where
  | configuration (cause : ConfigurationFault)
  | connecting (cause : Fault)
  | path (refusal : LocalPath.Refusal)
  | unreadable (path reason : String)
  | fault (cause : Fault)
  /-- The program itself has been stopped. -/
  | panicked (panic : Panic)
  deriving DecidableEq, Repr

namespace Failure

/-- The wording of a failure. -/
def message : Failure → String
  | configuration _ =>
      "Failed to load configuration. Set " ++ Variable.authorityUrl ++ " and related variables"
  | connecting _ => "Failed to initialise grant service"
  | path refusal => refusal.message
  | unreadable file _ => "Failed to read " ++ file
  | fault cause => cause.message
  | panicked panic => panic.message

/-- The wordings of what lies behind a failure. -/
def causes : Failure → List String
  | configuration cause => cause.message :: cause.causes
  | connecting cause => [cause.message]
  | unreadable _ reason => [reason]
  | path _ => []
  | fault _ => []
  | panicked _ => []

/-- The status that a run exits with when a command fails. -/
def exitCode : Failure → Nat
  | panicked _ => 101
  | _ => 1

/-- A text with its further lines indented. -/
def indented (width : Nat) (text : String) : List Char :=
  text.toList.flatMap fun c => if c = '\n' then c :: List.replicate width ' ' else [c]

/-- The numbered lines of several causes. -/
def numbered (n : Nat) : List String → List Char
  | [] => []
  | cause :: rest =>
      let number := (toString n).toList
      List.replicate (5 - number.length) ' ' ++ number ++ ": ".toList ++ indented 7 cause ++ '\n'
        :: numbered (n + 1) rest

/-- A failure as it is reported: its wording, then its causes. Several causes are numbered. A
panic is reported by its wording alone. -/
def report (failure : Failure) : String :=
  let causes := match failure.causes with
    | [] => []
    | [cause] => "\nCaused by:\n    ".toList ++ indented 4 cause ++ ['\n']
    | causes => "\nCaused by:\n".toList ++ numbered 0 causes
  let start := match failure with
    | panicked _ => ""
    | _ => "Error: "
  start ++ failure.message ++ "\n" ++ String.ofList causes

end Failure

/-- How a run of the program ends. -/
inductive Outcome where
  /-- A command has been carried out and reports on it. -/
  | report (value : Value)
  | failed (failure : Failure)
  | help
  /-- The arguments are no command. -/
  | usage

namespace Outcome

/-- The status that a run exits with. -/
def exitCode : Outcome → Nat
  | report _ => 0
  | failed failure => failure.exitCode
  | help => 0
  | usage => 2

/-- What a run prints. -/
def output : Outcome → String
  | report value => value.layout ++ "\n"
  | failed _ => ""
  | help => helpText
  | usage => ""

/-- What a run prints apart from its output. -/
def errors : Outcome → String
  | report _ => ""
  | failed failure => failure.report
  | help => ""
  | usage => helpText

end Outcome

/-- The world of a program run, as far as it matters. -/
structure World where
  files : Files
  environment : List (String × String)
  clock : Clock
  /-- The identifier for the keys that are fetched at the start. -/
  connectionId : CorrelationId
  /-- The identifier for everything else, unless one is given. -/
  requestId : CorrelationId

variable {σ : Type}

/-- A step of a program that may fail. -/
abbrev Step (σ α : Type) := ExceptT Failure (Timed σ Empty) α

/-- An operation of the service as a step. -/
def Step.ofOperation {α : Type} (fail : Fault → Failure) (operation : Operation σ α)
    : Step σ α :=
  ExceptT.mk do pure ((← operation.run).mapError fail)

/-- A known result as a step. -/
def Step.ofResult {α : Type} (result : Except Failure α) : Step σ α :=
  ExceptT.mk (pure result)

/-- A request with the path of its file. -/
abbrev Upload := UploadRequest × String

/-- The requests for some files. -/
def uploadsOf (files : List String) (contentType : Option String) (isPublic : Bool)
    : Except LocalPath.Refusal (List Upload) :=
  files.mapM fun path => (LocalPath.request path contentType isPublic).map (·, path)

/-- Puts the files of issued grants, each to the URL of its own grant, in the order of the
grants. -/
def putFiles (broker : Broker σ) (world : World) (correlation : CorrelationId)
    (uploads : List Upload)
    : List IssuedGrant → Step σ Unit
  | [] => pure ()
  | issued :: rest => do
      match uploads.find? (·.1.identifier == issued.identifier) with
      | none => pure ()
      | some (request, path) =>
          let body ← Step.ofResult ((world.files path).mapError (.unreadable path))
          Step.ofOperation .fault
            (broker.putObject correlation world.clock issued.grant request.contentType body)
      putFiles broker world correlation uploads rest

/-- A report, with the members of all its objects in the order of their names. -/
def reportOf (members : List (String × Value)) : Value :=
  Value.sorted (.object members)

/-- What is reported of an issued grant. -/
def issuedReport (issued : IssuedGrant) : Value :=
  reportOf [("boundToken", encode issued.grant.boundToken), ("expiry", encode issued.grant.expiry),
    ("identifier", encode issued.identifier), ("objectId", encode issued.object),
    ("signedUrl", encode issued.grant.signedUrl)]

/-- What is reported of a group that failed. -/
def failureReport (failure : PartitionFailure) : Value :=
  reportOf [("contentType", encode failure.contentType), ("error", encode failure.fault.message),
    ("identifiers", encode failure.identifiers)]

/-- Requests grants for files, and uploads the files if asked to. -/
def upload (broker : Broker σ) (world : World) (correlation : CorrelationId)
    (category : Category) (uploads : List Upload) (put : Bool)
    : Step σ Value := do
  let batch ← Step.ofOperation .fault
    (broker.issueUploads correlation world.clock category (uploads.map (·.1)))
  if put then putFiles broker world correlation uploads batch.issued
  pure (reportOf [("failures", .array (batch.failures.map failureReport)),
    ("issued", .array (batch.issued.map issuedReport)), ("uploaded", encode put)])

/-- What is told of a category; no configuration is needed for it. -/
def constraintsReport (category : Category) : Value :=
  reportOf [("allowedContentTypes", encode category.contentTypes), ("category", encode category),
    ("metadata", encode category.template.metadata)]

/-- The configuration that the variables give. -/
def configured (world : World) : Step σ Configuration.Accepted :=
  Step.ofResult
    ((Configuration.Accepted.ofLookup (world.environment.lookup ·)).mapError .configuration)

/-- The service over the authority, connected. -/
def connected (authority : Configuration → Authority σ) (library : TokenLibrary)
    (world : World)
    : Step σ (Broker σ) := do
  let configuration ← configured world
  Step.ofOperation .connecting
    (Broker.connect configuration (authority configuration.toConfiguration) library world.files
      world.connectionId)

/-- Carries out a command. The status of uploads is asked of the authority directly, without
connecting the service. -/
def carryOut (authority : Configuration → Authority σ) (library : TokenLibrary)
    (world : World) (correlation : CorrelationId)
    : Command → Step σ Value
  | .constraints category => pure (constraintsReport category)
  | .status tokens => do
      let configuration ← configured world
      let reports : List TokenStatus ← Step.ofOperation .fault (Operation.ofTimed
        (Timed.call (authority configuration.toConfiguration) correlation (.uploadCheck tokens)))
      pure (encode reports)
  | .upload category files contentType isPublic put => do
      let broker ← connected authority library world
      let uploads ← Step.ofResult ((uploadsOf files contentType isPublic).mapError .path)
      upload broker world correlation category uploads put
  | .verify token => do
      let broker ← connected authority library world
      let object ← Step.ofOperation .fault (broker.verifyToken world.clock token)
      pure (reportOf [("objectId", encode object)])
  | .download tokens none => do
      let broker ← connected authority library world
      let downloads ←
        Step.ofOperation .fault (broker.issueDownloads correlation world.clock tokens)
      pure (encode downloads)
  | .download tokens (some seconds) => do
      let broker ← connected authority library world
      let waited ← Step.ofOperation .fault
        (broker.issueDownloadsWithin correlation world.clock tokens (1000 * seconds) none)
      let downloads ← Step.ofResult (waited.mapError .panicked)
      pure (encode downloads)

/-- The paths of the files that a run of the program may read. -/
def filesRead (environment : List (String × String)) (arguments : List String) : List String :=
  let keyFiles := match Configuration.ofLookup (environment.lookup ·) with
    | .ok { verificationMode := .file path, .. } => [path]
    | _ => []
  match Invocation.ofArguments arguments with
  | .ok ⟨_, .upload _ files _ _ true⟩ => keyFiles ++ files
  | .ok _ => keyFiles
  | .error _ => []

/-- Runs the program on some arguments. -/
def run (authority : Configuration → Authority σ) (library : TokenLibrary) (world : World)
    (arguments : List String)
    : Timed σ Empty Outcome :=
  match Invocation.ofArguments arguments with
  | .error .help => pure .help
  | .error .usage => pure .usage
  | .ok invocation => do
      let correlation := (invocation.requestId.map CorrelationId.ofText).getD world.requestId
      match ← (carryOut authority library world correlation invocation.command).run with
      | .ok value => pure (.report value)
      | .error failure => pure (.failed failure)

end ObjectGrants.CommandLine
