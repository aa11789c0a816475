import ObjectGrants.Number.Decimal
import ObjectGrants.Text.Blank
import ObjectGrants.Text.Case
import ObjectGrants.Text.Pieces

/-!
The configuration of a service, read from named variables. A variable that is absent leaves
a default in place; one that is present and cannot be used is a fault, never a default.
-/

namespace ObjectGrants

/-- Where the keys for bound tokens come from. -/
inductive VerificationMode where
  /-- From the authority. -/
  | published
  /-- From a file. -/
  | file (path : String)
  /-- From nowhere: tokens are read without a check. -/
  | passThrough
  deriving DecidableEq, Repr

/-- What becomes of a batch one of whose parts fails. -/
inductive BatchMode where
  /-- The whole batch fails at once. -/
  | failFast
  /-- The other parts are kept. -/
  | partialSuccess
  deriving DecidableEq, Repr

/-- How often and how soon a failed call is repeated. -/
structure RetrySettings where
  maxAttempts : UInt32 := 3
  baseDelayMs : UInt64 := 200
  maxDelayMs : UInt64 := 5000
  deriving DecidableEq, Repr

/-- The configuration of a service. -/
structure Configuration where
  authorityUrl : String
  verificationMode : VerificationMode := .published
  serviceName : String := "grantgate"
  requestTimeoutSecs : UInt64 := 30
  downloadExpirySecs : UInt64 := 10000
  batchMode : BatchMode := .failFast
  retry : RetrySettings := {}
  pollIntervalMs : UInt64 := 1000
  transientCodes : List String := ["SERVICE_UNAVAILABLE", "TOO_MANY_REQUESTS", "REQUEST_TIMEOUT"]
  environment : String := "development"
  deriving DecidableEq, Repr

/-- Why a set of variables is not a configuration. -/
inductive ConfigurationFault where
  | authorityMissing
  | keyPathMissing
  | verificationMode (given : String)
  | batchMode (given : String)
  | number (name given : String) (cause : Number.DecimalFault)
  | authorityNotHttp (url : String)
  | zeroTimeout
  | zeroAttempts
  | zeroPollInterval
  deriving DecidableEq, Repr

namespace Variable

/-! The names of the variables. -/

def authorityUrl : String := "GRANTGATE_AUTHORITY_URL"
def verificationMode : String := "GRANTGATE_VERIFICATION_MODE"
def keyPath : String := "GRANTGATE_JWKS_PATH"
def batchMode : String := "GRANTGATE_BATCH_MODE"
def serviceName : String := "GRANTGATE_SERVICE_NAME"
def requestTimeout : String := "GRANTGATE_REQUEST_TIMEOUT_SECS"
def downloadExpiry : String := "GRANTGATE_DOWNLOAD_EXPIRY_SECS"
def maxAttempts : String := "GRANTGATE_RETRY_MAX_ATTEMPTS"
def baseDelay : String := "GRANTGATE_RETRY_BASE_DELAY_MS"
def maxDelay : String := "GRANTGATE_RETRY_MAX_DELAY_MS"
def pollInterval : String := "GRANTGATE_GATE_POLL_INTERVAL_MS"
def transientCodes : String := "GRANTGATE_TRANSIENT_ERROR_CODES"
def environment : String := "ENVIRONMENT"
def environmentFallback : String := "APP_ENV"

/-- The names of all variables. -/
def all : List String :=
  [authorityUrl, verificationMode, keyPath, batchMode, serviceName, requestTimeout,
    downloadExpiry, maxAttempts, baseDelay, maxDelay, pollInterval, transientCodes, environment,
    environmentFallback]

end Variable

namespace ConfigurationFault

/-- The wording of a fault. -/
def message : ConfigurationFault → String
  | authorityMissing => Variable.authorityUrl ++ " must be set"
  | keyPathMissing =>
      Variable.keyPath ++ " must be set when " ++ Variable.verificationMode ++ "=static"
  | verificationMode given =>
      Variable.verificationMode ++ " must be one of jwks, static, passthrough; got '" ++ given
        ++ "'"
  | batchMode given =>
      Variable.batchMode ++ " must be fail_fast or partial_success; got '" ++ given ++ "'"
  | number name given _ => name ++ " must be a number, got '" ++ given ++ "'"
  | authorityNotHttp url =>
      Variable.authorityUrl ++ " must be an http(s) URL, got '" ++ url ++ "'"
  | zeroTimeout => Variable.requestTimeout ++ " must be greater than 0"
  | zeroAttempts => Variable.maxAttempts ++ " must be at least 1"
  | zeroPollInterval => Variable.pollInterval ++ " must be greater than 0"

/-- The wordings of what lies behind a fault. -/
def causes : ConfigurationFault → List String
  | number _ _ cause => [cause.message]
  | _ => []

end ConfigurationFault

namespace Configuration

/-- A text without the slashes at its end. -/
def trimSlashes (text : String) : String :=
  String.ofList ((text.toList.reverse.dropWhile (· = '/')).reverse)

/-- The configuration for an authority with everything else at its default. -/
def ofUrl (url : String) : Configuration where
  authorityUrl := trimSlashes url

/-- The codes of a list with commas: trimmed, in upper case, without blank ones. -/
def splitCodes (text : String) : List String :=
  let items := Text.pieces (· = ',') text.toList
  (items.map fun item => Text.upper (String.ofList (Text.trimChars item))).filter (· ≠ "")

/-- Whether a text begins with another one. -/
def startsWith (text start : String) : Bool :=
  start.toList.isPrefixOf text.toList

/-- The first thing wrong with the values of a configuration, if anything is. -/
def check (configuration : Configuration) : Except ConfigurationFault Unit :=
  if !startsWith configuration.authorityUrl "http://"
      && !startsWith configuration.authorityUrl "https://" then
    .error (.authorityNotHttp configuration.authorityUrl)
  else if configuration.requestTimeoutSecs = 0 then .error .zeroTimeout
  else if configuration.retry.maxAttempts = 0 then .error .zeroAttempts
  else if configuration.pollIntervalMs = 0 then .error .zeroPollInterval
  else .ok ()

/-- A variable unless it is absent or blank. -/
def unlessBlank (value : Option String) : Option String :=
  value.filter fun text => !Text.isBlankText text

/-- The number that a variable holds, or a default if it is absent. -/
def numberOf (lookup : String → Option String) (name : String) (bound default : Nat)
    : Except ConfigurationFault Nat :=
  match lookup name with
  | none => .ok default
  | some given =>
      match Number.Decimal.read bound (Text.trimChars given.toList) with
      | .ok value => .ok value
      | .error cause => .error (.number name given cause)

/-- The verification mode that the variables choose. -/
def verificationModeOf (lookup : String → Option String)
    : Except ConfigurationFault VerificationMode :=
  match (lookup Variable.verificationMode).map fun text => Text.lower (Text.trim text) with
  | none => .ok .published
  | some mode =>
      if mode = "jwks" then .ok .published
      else if mode = "static" then
        match lookup Variable.keyPath with
        | some path => .ok (.file path)
        | none => .error .keyPathMissing
      else if mode = "passthrough" then .ok .passThrough
      else .error (.verificationMode mode)

/-- The batch mode that the variables choose. -/
def batchModeOf (lookup : String → Option String) : Except ConfigurationFault BatchMode :=
  match (lookup Variable.batchMode).map fun text => Text.lower (Text.trim text) with
  | none => .ok .failFast
  | some mode =>
      if mode = "fail_fast" then .ok .failFast
      else if mode = "partial_success" then .ok .partialSuccess
      else .error (.batchMode mode)

/-- The configuration that variables stand for. Faults are found in the order of this
function. -/
def gather (lookup : String → Option String) : Except ConfigurationFault Configuration := do
  let url ← match unlessBlank (lookup Variable.authorityUrl) with
    | some url => .ok url
    | none => .error .authorityMissing
  let verificationMode ← verificationModeOf lookup
  let batchMode ← batchModeOf lookup
  let base := ofUrl url
  let word (name : String) (default : UInt64) : Except ConfigurationFault UInt64 :=
    (numberOf lookup name UInt64.size default.toNat).map UInt64.ofNat
  let requestTimeoutSecs ← word Variable.requestTimeout base.requestTimeoutSecs
  let downloadExpirySecs ← word Variable.downloadExpiry base.downloadExpirySecs
  let maxAttempts ←
    numberOf lookup Variable.maxAttempts UInt32.size base.retry.maxAttempts.toNat
  let baseDelayMs ← word Variable.baseDelay base.retry.baseDelayMs
  let maxDelayMs ← word Variable.maxDelay base.retry.maxDelayMs
  let pollIntervalMs ← word Variable.pollInterval base.pollIntervalMs
  pure { base with
    verificationMode, batchMode, requestTimeoutSecs, downloadExpirySecs, pollIntervalMs
    serviceName := (unlessBlank (lookup Variable.serviceName)).getD base.serviceName
    retry := { maxAttempts := UInt32.ofNat maxAttempts, baseDelayMs, maxDelayMs }
    transientCodes :=
      ((lookup Variable.transientCodes).map splitCodes).getD base.transientCodes
    environment :=
      ((lookup Variable.environment).or (lookup Variable.environmentFallback)).getD
        base.environment }

/-- Reads a configuration from variables and checks it. -/
def ofLookup (lookup : String → Option String) : Except ConfigurationFault Configuration := do
  let configuration ← gather lookup
  configuration.check
  pure configuration

/-- What has been read has passed the check. -/
theorem check_of_ofLookup {lookup : String → Option String} {configuration : Configuration}
    (read : ofLookup lookup = .ok configuration)
    : configuration.check = .ok () := by
  unfold ofLookup at read
  cases gathered : gather lookup with
  | error fault => simp [gathered, bind, Except.bind] at read
  | ok found =>
      cases checked : found.check with
      | error fault => simp [gathered, checked, bind, Except.bind] at read
      | ok _ =>
          simp only [gathered, checked, bind, Except.bind, pure, Except.pure, Except.ok.injEq]
            at read
          exact read ▸ checked

/-- A configuration that passes the check has a poll interval that is not zero. -/
theorem pollInterval_pos_of_check {configuration : Configuration}
    (passes : configuration.check = .ok ())
    : 0 < configuration.pollIntervalMs.toNat := by
  have given : configuration.pollIntervalMs ≠ 0 := by
    intro zero
    simp only [check, zero, if_true] at passes
    split at passes
    · exact nomatch passes
    · split at passes
      · exact nomatch passes
      · split at passes <;> exact nomatch passes
  exact UInt64.lt_iff_toNat_lt.mp (UInt64.pos_iff_ne_zero.mpr given)

/-- A configuration with which a service can be made: the gate of the service can pause
between its checks. -/
structure Accepted extends Configuration where
  pollInterval_pos : 0 < pollIntervalMs.toNat

/-- Reads a configuration from variables, with what its check tells of the poll interval. -/
def Accepted.ofLookup (lookup : String → Option String)
    : Except ConfigurationFault Accepted :=
  match read : Configuration.ofLookup lookup with
  | .ok configuration => .ok ⟨configuration, pollInterval_pos_of_check (check_of_ofLookup read)⟩
  | .error fault => .error fault

/-- Whether the environment is the productive one. -/
def isProduction (configuration : Configuration) : Bool :=
  let name := Text.lower configuration.environment
  name = "production" || name = "prod"

end Configuration

end ObjectGrants
