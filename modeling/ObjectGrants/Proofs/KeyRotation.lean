import Mathlib.Data.List.Induction
import ObjectGrants.Authority.Script
import ObjectGrants.Proofs.Calls

/-! The keys in use over the life of a service. They are at every moment those of one document,
the last that was loaded completely and with success: a load that fails changes nothing, and
nothing but a load changes anything.
-/

namespace ObjectGrants

variable {σ α β : Type}

-----------------------------------------------------------------------------------------
-- Key sets
-----------------------------------------------------------------------------------------

namespace KeySet

/-- A document is refused exactly if none of its keys is usable. -/
theorem ofJwks_eq_error_iff {document : Jwks}
    : (∃ cause, ofJwks document = .error cause)
      ↔ ∀ key ∈ document.keys, ∃ cause, VerificationKey.ofJwk key = .error cause := by
  have unusable (key : Jwk)
      : (VerificationKey.ofJwk key).toOption = none
        ↔ ∃ cause, VerificationKey.ofJwk key = .error cause := by
    cases VerificationKey.ofJwk key <;> simp [Except.toOption]
  simp only [← unusable, ← List.filterMap_eq_nil_iff]
  unfold ofJwks
  dsimp only
  split
  · next none => simpa using none
  · next some => simpa using some

/-- A set that was made from a document is not empty. -/
theorem keys_ne_nil {document : Jwks} {set : KeySet} (made : ofJwks document = .ok set)
    : set.keys ≠ [] := by
  unfold ofJwks at made
  dsimp only at made
  split at made
  · exact nomatch made
  · next some =>
      obtain rfl := Except.ok.inj made
      simpa using some

end KeySet

-----------------------------------------------------------------------------------------
-- Sources of keys
-----------------------------------------------------------------------------------------

/-- The document that a source gives when keys are loaded from it: the answer of the authority,
or what can be read in the file.
-/
def KeySource.document? (source : KeySource) (authority : Authority σ) (files : Files)
    (correlation : CorrelationId) (state : σ)
    : Option Jwks :=
  match source with
  | .authority => (authority.reply correlation .keySet state).1.toOption
  | .file path => (files path).toOption.bind Json.ofBytes?
  | .fixed => none

/-- A source gives no document, or none of the keys of its document is usable. -/
def KeySource.GivesNoKeys (source : KeySource) (authority : Authority σ) (files : Files)
    (correlation : CorrelationId) (state : σ)
    : Prop :=
  ∀ document,
    source.document? authority files correlation state = some document
    → ∀ key ∈ document.keys, ∃ cause, VerificationKey.ofJwk key = .error cause

/-- A load from a source ends with the whole set of the document that the source gives, or with a
fault where there is none.
-/
inductive KeySource.Loads (source : KeySource) (authority : Authority σ) (files : Files)
    (correlation : CorrelationId) (state : σ)
    : Except Fault KeySet → Prop where
  | loaded {document set}
    (given : source.document? authority files correlation state = some document)
    (made : KeySet.ofJwks document = .ok set)
    : Loads source authority files correlation state (.ok set)
  | failed {fault} (empty : source.GivesNoKeys authority files correlation state)
    : Loads source authority files correlation state (.error fault)

/-- What is made of a document that a source gives, with some fault if it has no usable keys. -/
theorem KeySource.loads_of_document {source : KeySource} {authority : Authority σ}
    {files : Files} {correlation : CorrelationId} {state : σ} {document : Jwks}
    (given : source.document? authority files correlation state = some document)
    (fault : SetupFault → Fault)
    : source.Loads authority files correlation state
        ((KeySet.ofJwks document).mapError fault) := by
  cases made : KeySet.ofJwks document with
  | ok set => exact .loaded given made
  | error cause =>
      refine .failed fun other same => ?_
      obtain rfl := Option.some.inj (given.symm.trans same)
      exact KeySet.ofJwks_eq_error_iff.mp ⟨cause, made⟩

/-- A source without a document fails a load. -/
theorem KeySource.loads_of_none {source : KeySource} {authority : Authority σ} {files : Files}
    {correlation : CorrelationId} {state : σ} {fault : Fault}
    (none : source.document? authority files correlation state = none)
    : source.Loads authority files correlation state (.error fault) :=
  .failed fun _ given => nomatch none.symm.trans given

/-- A load ends with a fault exactly if its source gives no keys. -/
theorem KeySource.Loads.failed_iff {source : KeySource} {authority : Authority σ}
    {files : Files} {correlation : CorrelationId} {state : σ} {result : Except Fault KeySet}
    (loads : source.Loads authority files correlation state result)
    : (∃ fault, result = .error fault)
      ↔ source.GivesNoKeys authority files correlation state := by
  cases loads with
  | loaded given made =>
      refine ⟨fun failed => absurd failed (by simp), fun empty => ?_⟩
      obtain ⟨cause, failed⟩ := KeySet.ofJwks_eq_error_iff.mpr (empty _ given)
      exact nomatch made.symm.trans failed
  | failed empty => exact ⟨fun _ => empty, fun _ => ⟨_, rfl⟩⟩

/-- The source of keys that a mode names. -/
def VerificationMode.source? : VerificationMode → Option KeySource
  | .published => some .authority
  | .file path => some (.file path)
  | .passThrough => none

theorem VerificationMode.source?_eq_none_iff {mode : VerificationMode}
    : mode.source? = none ↔ mode = .passThrough := by
  cases mode <;> simp [source?]

/-- A source that a mode names can be loaded from. -/
theorem VerificationMode.source?_ne_fixed {mode : VerificationMode} {source : KeySource}
    (named : mode.source? = some source)
    : source ≠ .fixed := by
  rintro rfl
  cases mode <;> simp [source?] at named

-----------------------------------------------------------------------------------------
-- Loading keys
-----------------------------------------------------------------------------------------

namespace KeyStore

theorem loadPublished_loads (authority : Authority σ) (files : Files)
    (correlation : CorrelationId) (state : σ)
    : KeySource.authority.Loads authority files correlation state
        ((loadPublished authority correlation).start state).value := by
  unfold loadPublished
  rw [Operation.start_eq, Operation.runAt_bind]
  have heard
      : ((Operation.ofTimed (Timed.call authority correlation .keySet)).runAt 0 state).value
        = (authority.reply correlation .keySet state).1 :=
    rfl
  dsimp only
  rw [heard]
  cases answer : (authority.reply correlation .keySet state).1 with
  | error fault => exact KeySource.loads_of_none (congrArg Except.toOption answer)
  | ok document =>
      have given
          : KeySource.authority.document? authority files correlation state = some document :=
        congrArg Except.toOption answer
      have loads := KeySource.loads_of_document given fun cause =>
        .malformed ⟨.keySet, correlation⟩ (.keys cause)
      dsimp only
      cases made : KeySet.ofJwks document <;>
        · rw [made] at loads
          exact loads

theorem loadFile_loads (authority : Authority σ) (files : Files) (path : String)
    (correlation : CorrelationId) (state : σ)
    : (KeySource.file path).Loads authority files correlation state (loadFile files path) := by
  unfold loadFile
  cases read : files path with
  | error reason =>
      exact KeySource.loads_of_none (by simp [KeySource.document?, read, Except.toOption])
  | ok bytes =>
      dsimp only
      cases parsed : (Json.ofBytes? bytes : Option Jwks) with
      | none =>
          exact KeySource.loads_of_none
            (by simp [KeySource.document?, read, parsed, Except.toOption])
      | some document =>
          exact KeySource.loads_of_document
            (by simp [KeySource.document?, read, parsed, Except.toOption]) .setup

/-- Loading again replaces the set of a store as a whole, or fails. -/
theorem refresh_loads (store : KeyStore) (authority : Authority σ) (files : Files)
    (correlation : CorrelationId) (state : σ) (moving : store.source ≠ .fixed)
    : ∃ result,
        store.source.Loads authority files correlation state result
        ∧ ((store.refresh authority files correlation).start state).value
          = result.map fun set => { store with set } := by
  obtain ⟨source, old⟩ := store
  unfold refresh
  cases source with
  | authority =>
      refine ⟨_, loadPublished_loads authority files correlation state, ?_⟩
      simp only [load, bind_assoc, pure_bind]
      exact Operation.value_map (loadPublished authority correlation) _ state
  | file path =>
      refine ⟨_, loadFile_loads authority files path correlation state, ?_⟩
      simp only [load]
      rw [Operation.ofResult_bind]
      cases loadFile files path <;> rfl
  | fixed => exact absurd rfl moving

end KeyStore

-----------------------------------------------------------------------------------------
-- The life of a service
-----------------------------------------------------------------------------------------

/-- What a service can be asked for. -/
inductive Task where
  | verify (clock : Clock) (token : String)
  | issueUploads (correlation : CorrelationId) (clock : Clock) (category : Category)
    (requests : List UploadRequest)
  | issueDownloads (correlation : CorrelationId) (clock : Clock) (tokens : List String)
  | issueDownloadsWithin (correlation : CorrelationId) (clock : Clock) (tokens : List String)
    (timeout : Nat) (cancel : Option Nat)
  | putObject (correlation : CorrelationId) (clock : Clock) (grant : SignedGrant)
    (contentType : String) (body : List UInt8)
  | refreshKeys (files : Files) (correlation : CorrelationId)

/-- A task, and the state of the authority when it is taken up. Whatever may have happened to the
authority in between, the state need not be the one that the task before has left.
-/
structure Job (σ : Type) where
  task : Task
  state : σ

namespace Broker

/-- Serves a task, and gives the service that goes on with the next one. -/
def serve (broker : Broker σ) : Task → Operation σ (Broker σ)
  | .verify clock token => do
      let _ ← broker.verifyToken clock token
      pure broker
  | .issueUploads correlation clock category requests => do
      let _ ← broker.issueUploads correlation clock category requests
      pure broker
  | .issueDownloads correlation clock tokens => do
      let _ ← broker.issueDownloads correlation clock tokens
      pure broker
  | .issueDownloadsWithin correlation clock tokens timeout cancel => do
      let _ ← broker.issueDownloadsWithin correlation clock tokens timeout cancel
      pure broker
  | .putObject correlation clock grant contentType body => do
      broker.putObject correlation clock grant contentType body
      pure broker
  | .refreshKeys files correlation => broker.refreshKeys files correlation

/-- What becomes of a service by a job. One that fails leaves it as it was. -/
def after (broker : Broker σ) (job : Job σ) : Broker σ :=
  match ((broker.serve job.task).start job.state).value with
  | .ok next => next
  | .error _ => broker

/-- What becomes of a service by some jobs, one behind the other. -/
def afterAll (broker : Broker σ) (jobs : List (Job σ)) : Broker σ :=
  jobs.foldl after broker

/-- What loading the keys again gives in a state of the authority. -/
def refreshed (broker : Broker σ) (files : Files) (correlation : CorrelationId) (state : σ)
    : Except Fault (Broker σ) :=
  ((broker.refreshKeys files correlation).start state).value

theorem afterAll_cons (broker : Broker σ) (job : Job σ) (jobs : List (Job σ))
    : broker.afterAll (job :: jobs) = (broker.after job).afterAll jobs :=
  rfl

theorem afterAll_concat (broker : Broker σ) (jobs : List (Job σ)) (job : Job σ)
    : broker.afterAll (jobs ++ [job]) = (broker.afterAll jobs).after job :=
  List.foldl_concat ..

theorem afterAll_append (broker : Broker σ) (jobs more : List (Job σ))
    : broker.afterAll (jobs ++ more) = (broker.afterAll jobs).afterAll more :=
  List.foldl_append ..

/-- A job that loads the keys leaves the service that the load gives, if it gives one. -/
theorem after_refreshKeys (broker : Broker σ) (files : Files) (correlation : CorrelationId)
    (state : σ)
    : broker.after ⟨.refreshKeys files correlation, state⟩
      = match broker.refreshed files correlation state with
        | .ok next => next
        | .error _ => broker :=
  rfl

/-- Only loading the keys changes a service. -/
theorem after_of_ne (broker : Broker σ) {job : Job σ}
    (other : ∀ files correlation, job.task ≠ .refreshKeys files correlation)
    : broker.after job = broker := by
  have same {α : Type} (operation : Operation σ α)
      (serves : broker.serve job.task = operation >>= fun _ => pure broker)
      : broker.after job = broker := by
    unfold after
    rw [serves, Operation.value_map]
    cases (operation.start job.state).value <;> rfl
  cases task : job.task with
  | verify | issueUploads | issueDownloads | issueDownloadsWithin | putObject =>
      exact same _ (by rw [task, serve])
  | refreshKeys files correlation => exact absurd task (other files correlation)

/-- Loading keys changes nothing but the verification. -/
theorem after_authority (broker : Broker σ) (job : Job σ)
    : (broker.after job).authority = broker.authority := by
  cases task : job.task with
  | refreshKeys files correlation =>
      unfold after
      rw [task, serve]
      unfold refreshKeys
      cases broker.verification with
      | passThrough => rfl
      | stored store =>
          dsimp only
          rw [Operation.value_map]
          cases ((store.refresh broker.authority files correlation).start job.state).value <;>
            rfl
  | verify | issueUploads | issueDownloads | issueDownloadsWithin | putObject =>
      rw [broker.after_of_ne (by simp [task])]

theorem afterAll_authority (broker : Broker σ) (jobs : List (Job σ))
    : (broker.afterAll jobs).authority = broker.authority := by
  induction jobs using List.reverseRecOn with
  | nil => rfl
  | append_singleton jobs job ih => rw [afterAll_concat, after_authority, ih]

/-- A service checks tokens with the usable keys of a document from a source, of which there are
some.
-/
def Uses (broker : Broker σ) (source : KeySource) (document : Jwks) : Prop :=
  ∃ set,
    KeySet.ofJwks document = .ok set
    ∧ set.keys ≠ []
    ∧ broker.verification = .stored ⟨source, set⟩

/-- A service that uses a document loads the next one from the same source. -/
theorem Uses.refreshed_loads {broker : Broker σ} {source : KeySource} {document : Jwks}
    (uses : broker.Uses source document) (moving : source ≠ .fixed) (files : Files)
    (correlation : CorrelationId) (state : σ)
    : ∃ result,
        source.Loads broker.authority files correlation state result
        ∧ broker.refreshed files correlation state
          = result.map fun set => { broker with verification := .stored ⟨source, set⟩ } := by
  obtain ⟨set, _, _, stored⟩ := uses
  obtain ⟨result, loads, value⟩ :=
    KeyStore.refresh_loads ⟨source, set⟩ broker.authority files correlation state moving
  refine ⟨result, loads, ?_⟩
  unfold refreshed refreshKeys
  rw [stored]
  dsimp only
  rw [Operation.value_map, value]
  cases result <;> rfl

/-- The document that a service has loaded last: that of the last job that has loaded the keys with
success, or the first one if there was no such job.
-/
inductive LastLoaded (broker : Broker σ) (source : KeySource) (first : Jwks)
    : List (Job σ) → Jwks → Prop where
  | none : LastLoaded broker source first [] first
  | kept {jobs job document} (before : LastLoaded broker source first jobs document)
    (unloaded
      : ∀ files correlation,
          job.task = .refreshKeys files correlation
          → ∃ fault,
              (broker.afterAll jobs).refreshed files correlation job.state = .error fault)
    : LastLoaded broker source first (jobs ++ [job]) document
  | loaded {jobs files correlation state next document}
    (success : (broker.afterAll jobs).refreshed files correlation state = .ok next)
    (given : source.document? broker.authority files correlation state = some document)
    : LastLoaded broker source first (jobs ++ [⟨.refreshKeys files correlation, state⟩])
        document

/-- A job leaves a service with the last document. Witness: a load gives the whole set of the
document of the source, or leaves the service as it was; no other task changes it.
-/
theorem LastLoaded.after {broker : Broker σ} {source : KeySource} {first document : Jwks}
    {jobs : List (Job σ)} (moving : source ≠ .fixed)
    (last : broker.LastLoaded source first jobs document)
    (uses : (broker.afterAll jobs).Uses source document) (job : Job σ)
    : ∃ next,
        broker.LastLoaded source first (jobs ++ [job]) next
        ∧ ((broker.afterAll jobs).after job).Uses source next := by
  obtain ⟨task, state⟩ := job
  by_cases refreshes : ∃ files correlation, task = .refreshKeys files correlation
  · obtain ⟨files, correlation, rfl⟩ := refreshes
    obtain ⟨result, loads, value⟩ := uses.refreshed_loads moving files correlation state
    rw [after_refreshKeys, value]
    cases loads with
    | @loaded document set given made =>
        rw [afterAll_authority] at given
        exact ⟨document, .loaded value given, set, made, KeySet.keys_ne_nil made, rfl⟩
    | @failed fault _ =>
        refine ⟨document, last.kept fun files correlation same => ⟨fault, ?_⟩, uses⟩
        cases same
        exact value
  · have other (files : Files) (correlation : CorrelationId)
        : task ≠ .refreshKeys files correlation :=
      fun same => refreshes ⟨files, correlation, same⟩
    rw [after_of_ne _ other]
    exact ⟨document, last.kept fun files correlation same => absurd same (other _ _), uses⟩

/-- At every moment of its life a service uses the document that it has loaded last, by induction
on the jobs.
-/
theorem Uses.afterAll {broker : Broker σ} {source : KeySource} {first : Jwks}
    (uses : broker.Uses source first) (moving : source ≠ .fixed) (jobs : List (Job σ))
    : ∃ document,
        broker.LastLoaded source first jobs document
        ∧ (broker.afterAll jobs).Uses source document := by
  induction jobs using List.reverseRecOn with
  | nil => exact ⟨first, .none, uses⟩
  | append_singleton jobs job ih =>
      obtain ⟨document, last, uses⟩ := ih
      rw [afterAll_concat]
      exact last.after moving uses job

-----------------------------------------------------------------------------------------
-- Calls for keys
-----------------------------------------------------------------------------------------

/-- The calls that a service makes for a job. -/
def callsIn (broker : Broker σ) (job : Job σ) : List CallRecord :=
  ((broker.serve job.task).start job.state).calls

/-- Keys are asked for where they are loaded again, and never to verify a token. Witness: every
other task keeps to endpoints of its own.
-/
theorem callsIn_ne_keySet (broker : Broker σ) {job : Job σ}
    (other : ∀ files correlation, job.task ≠ .refreshKeys files correlation)
    : ∀ record ∈ broker.callsIn job, record.call ≠ .keySet := by
  have keeps {α : Type} {operation : Operation σ α} {correlation : CorrelationId}
      {endpoints : List Endpoint}
      (concerns : operation.CallsOnly (CallRecord.Concerns correlation endpoints))
      (elsewhere : .keySet ∉ endpoints)
      (serves : broker.serve job.task = operation >>= fun _ => pure broker)
      : ∀ record ∈ broker.callsIn job, record.call ≠ .keySet := by
    have whole : (broker.serve job.task).CallsOnly _ :=
      serves ▸ concerns.bind fun _ => Operation.callsOnly_ofResult (.ok broker)
    exact fun record member => (whole 0 job.state record member).ne elsewhere
  cases task : job.task with
  | verify clock token =>
      have silent : (broker.verifyToken clock token).CallsOnly (CallRecord.Concerns .nil []) :=
        Operation.callsOnly_atTime _
      exact keeps silent List.not_mem_nil (by rw [task, serve])
  | issueUploads correlation clock category requests =>
      exact keeps (broker.issueUploads_concerns correlation clock category requests) (by decide)
        (by rw [task, serve])
  | issueDownloads correlation clock tokens =>
      exact keeps (broker.issueDownloads_concerns correlation clock tokens) (by decide)
        (by rw [task, serve])
  | issueDownloadsWithin correlation clock tokens timeout cancel =>
      exact keeps (broker.issueDownloadsWithin_concerns correlation clock tokens timeout cancel)
        (by decide) (by rw [task, serve])
  | putObject correlation clock grant contentType body =>
      exact keeps (broker.putObject_concerns correlation clock grant contentType body)
        (by decide) (by rw [task, serve])
  | refreshKeys files correlation => exact absurd task (other files correlation)

-----------------------------------------------------------------------------------------
-- From the connection on
-----------------------------------------------------------------------------------------

/-- A service checks tokens all its life, with the keys of the document that it has loaded last.
A load that fails leaves it as if it had not been tried, and nothing else asks for keys.
-/
structure Keeps (broker : Broker σ) (source : KeySource) (first : Jwks) : Prop where
  inUse
    : ∀ jobs, ∃ document,
        broker.LastLoaded source first jobs document
        ∧ (broker.afterAll jobs).Uses source document
  failed
    : ∀ jobs files correlation state fault more,
        (broker.afterAll jobs).refreshed files correlation state = .error fault
        → broker.afterAll (jobs ++ ⟨.refreshKeys files correlation, state⟩ :: more)
          = broker.afterAll (jobs ++ more)
  silent
    : ∀ jobs job,
        (∀ files correlation, job.task ≠ .refreshKeys files correlation)
        → ∀ record ∈ (broker.afterAll jobs).callsIn job, record.call ≠ .keySet

theorem Uses.keeps {broker : Broker σ} {source : KeySource} {first : Jwks}
    (uses : broker.Uses source first) (moving : source ≠ .fixed)
    : broker.Keeps source first where
  inUse := uses.afterAll moving
  failed jobs files correlation state fault more failure := by
    rw [afterAll_append, afterAll_append, afterAll_cons, after_refreshKeys, failure]
  silent jobs _ other := (broker.afterAll jobs).callsIn_ne_keySet other

/-- A service reads tokens without a check all its life, and asks for no keys when it is told to
load them.
-/
structure PassesThrough (broker : Broker σ) : Prop where
  unchecked : ∀ jobs, (broker.afterAll jobs).verification = .passThrough
  silent
    : ∀ jobs files correlation state,
        (broker.afterAll jobs).callsIn ⟨.refreshKeys files correlation, state⟩ = []

theorem passesThrough {broker : Broker σ} (unchecked : broker.verification = .passThrough)
    : broker.PassesThrough := by
  have stays (job : Job σ) : broker.after job = broker := by
    by_cases refreshes : ∃ files correlation, job.task = .refreshKeys files correlation
    · obtain ⟨files, correlation, task⟩ := refreshes
      unfold after
      rw [task, serve, refreshKeys, unchecked]
      rfl
    · exact after_of_ne _ fun files correlation same => refreshes ⟨files, correlation, same⟩
  have always (jobs : List (Job σ)) : broker.afterAll jobs = broker := by
    induction jobs with
    | nil => rfl
    | cons job rest ih => rw [afterAll_cons, stays, ih]
  constructor
  · intro jobs
    rw [always, unchecked]
  · intro jobs files correlation state
    rw [always, callsIn, serve, refreshKeys, unchecked]
    rfl

/-- A service whose configuration names a source is made of a load from it. -/
theorem connect_loads (configuration : Configuration.Accepted) (authority : Authority σ)
    (library : TokenLibrary) (files : Files) (correlation : CorrelationId) (state : σ)
    {source : KeySource} (named : configuration.verificationMode.source? = some source)
    : ∃ result,
        source.Loads authority files correlation state result
        ∧ ((connect configuration authority library files correlation).start state).value
          = result.map fun set => new configuration authority library (.stored ⟨source, set⟩) := by
  unfold connect verificationFor
  cases mode : configuration.verificationMode with
  | published =>
      obtain rfl := Option.some.inj ((congrArg VerificationMode.source? mode).symm.trans named)
      refine ⟨_, KeyStore.loadPublished_loads authority files correlation state, ?_⟩
      simp only [KeyStore.fetch, bind_assoc, pure_bind]
      exact Operation.value_map (KeyStore.loadPublished authority correlation) _ state
  | file path =>
      obtain rfl := Option.some.inj ((congrArg VerificationMode.source? mode).symm.trans named)
      refine ⟨_, KeyStore.loadFile_loads authority files path correlation state, ?_⟩
      dsimp only [KeyStore.ofFile]
      rw [Operation.ofResult_bind]
      cases KeyStore.loadFile files path <;> rfl
  | passThrough => simp [mode, VerificationMode.source?] at named

theorem connect_passThrough (configuration : Configuration.Accepted) (authority : Authority σ)
    (library : TokenLibrary) (files : Files) (correlation : CorrelationId) (state : σ)
    (mode : configuration.verificationMode = .passThrough)
    : (connect configuration authority library files correlation).start state
      = ⟨.ok (.ok (new configuration authority library .passThrough)), 0, [], state⟩ := by
  unfold connect verificationFor
  rw [mode]
  rfl

/-- What a configuration gives when a service is made of it. Where it names a source of keys,
there is a service exactly if the source gives some, and it keeps to what it has loaded.
Tokens are read without a check only where the configuration says so.
-/
structure ConnectsSafely (configuration : Configuration.Accepted) (authority : Authority σ)
    (files : Files) (correlation : CorrelationId) (state : σ)
    (result : Except Fault (Broker σ))
    : Prop where
  kept
    : ∀ source broker,
        configuration.verificationMode.source? = some source
        → result = .ok broker
        → ∃ document,
            source.document? authority files correlation state = some document
            ∧ broker.Keeps source document
  refused
    : ∀ source,
        configuration.verificationMode.source? = some source
        → ((∃ fault, result = .error fault)
          ↔ source.GivesNoKeys authority files correlation state)
  unchecked
    : ∀ broker,
        result = .ok broker
        → (broker.verification = .passThrough
          ↔ configuration.verificationMode = .passThrough)
  passThrough
    : configuration.verificationMode = .passThrough
      → ∃ broker, result = .ok broker ∧ broker.PassesThrough

/-- What is made of a load from the source that a configuration names is safe. -/
theorem connectsSafely_of_loads {configuration : Configuration.Accepted} {authority : Authority σ}
    {library : TokenLibrary} {files : Files} {correlation : CorrelationId} {state : σ}
    {source : KeySource} {result : Except Fault KeySet}
    (named : configuration.verificationMode.source? = some source)
    (loads : source.Loads authority files correlation state result)
    : ConnectsSafely configuration authority files correlation state
        (result.map fun set => new configuration authority library (.stored ⟨source, set⟩)) := by
  have checked : configuration.verificationMode ≠ .passThrough := fun mode =>
    nomatch named.symm.trans (VerificationMode.source?_eq_none_iff.mpr mode)
  constructor
  · intro other broker same made
    obtain rfl := Option.some.inj (named.symm.trans same)
    cases loads with
    | @loaded document set given complete =>
        obtain rfl := Except.ok.inj made
        have uses
            : (new configuration authority library (.stored ⟨source, set⟩)).Uses source
                document :=
          ⟨set, complete, KeySet.keys_ne_nil complete, rfl⟩
        exact ⟨document, given, uses.keeps (VerificationMode.source?_ne_fixed named)⟩
    | failed empty => exact nomatch made
  · intro other same
    obtain rfl := Option.some.inj (named.symm.trans same)
    rw [← loads.failed_iff]
    cases result <;> simp [Except.map]
  · intro broker made
    cases result with
    | error fault => exact nomatch made
    | ok set =>
        obtain rfl := Except.ok.inj made
        exact iff_of_false (fun none => nomatch none) checked
  · exact fun mode => absurd mode checked

/-- Every key set in use was loaded completely and with success, from the connection on and in
every sequence of jobs, whatever the authority answers and the files hold. Witness: a service
is made of a load from the source that its configuration names, or of none.
-/
theorem connect_safely (configuration : Configuration.Accepted) (authority : Authority σ)
    (library : TokenLibrary) (files : Files) (correlation : CorrelationId) (state : σ)
    : ConnectsSafely configuration authority files correlation state
        ((connect configuration authority library files correlation).start state).value := by
  cases named : configuration.verificationMode.source? with
  | some source =>
      obtain ⟨result, loads, value⟩ :=
        connect_loads configuration authority library files correlation state named
      rw [value]
      exact connectsSafely_of_loads named loads
  | none =>
      have mode := VerificationMode.source?_eq_none_iff.mp named
      rw [connect_passThrough _ _ _ _ _ _ mode]
      constructor
      · exact fun source _ other _ => nomatch named.symm.trans other
      · exact fun source other => nomatch named.symm.trans other
      · intro broker made
        obtain rfl := Except.ok.inj made
        exact ⟨fun _ => mode, fun _ => rfl⟩
      · exact fun _ => ⟨_, rfl, passesThrough rfl⟩

/-- A load that fails leaves the keys, and the next one replaces them. -/
example
    : let publishing (keyId : String) : Script :=
        { keySets :=
            [⟨.ok ⟨[{ keyType := "RSA", keyId, modulus := "AQAB", exponent := "AQAB" }]⟩, 0⟩] }
      let reload (state : Script) : Job Script :=
        ⟨.refreshKeys (fun _ => .error "no file") .nil, state⟩
      let keyIds (broker : Broker Script) : List String :=
        match broker.verification with
        | .passThrough => []
        | .stored store => store.set.keyIds
      ((connect ⟨.ofUrl "http://a", by decide⟩ Script.authority .standard
          (fun _ => .error "no file") .nil).start (publishing "a")).value.map
          (fun broker =>
            (keyIds broker, keyIds (broker.afterAll [reload {}]),
              keyIds (broker.afterAll [reload {}, reload (publishing "b")])))
        = .ok (["a"], ["a"], ["b"]) :=
  rfl

end Broker

end ObjectGrants
