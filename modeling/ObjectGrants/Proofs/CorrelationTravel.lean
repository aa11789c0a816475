import ObjectGrants.Proofs.AnswerClassification
import ObjectGrants.Proofs.Attribution

/-! Correlation identifiers in the operations of a service. An identifier is passed on as it was
given and is never blank, and every fault that arose in a call names that identifier and an
endpoint of the operation, wherever the fault was made.
-/

namespace ObjectGrants

variable {σ α β : Type}

-----------------------------------------------------------------------------------------
-- Results that are computed
-----------------------------------------------------------------------------------------

section

variable {correlation : CorrelationId} {endpoints : List Endpoint}

theorem Accounted.bind {first : Except Fault α} {second : α → Except Fault β}
    {ensures : α → Prop} {last : β → Prop} (head : Accounted correlation endpoints ensures first)
    (tail : ∀ value, ensures value → Accounted correlation endpoints last (second value))
    : Accounted correlation endpoints last (first >>= second) := by
  cases first with
  | error fault => exact head
  | ok value => exact tail value head

theorem Traced.mapM {step : α → Except Fault β}
    (holds : ∀ item, Traced correlation endpoints (step item)) (items : List α)
    : Traced correlation endpoints (items.mapM step) := by
  cases given : items.mapM step with
  | ok results => trivial
  | error fault =>
      obtain ⟨_, item, _, _, _, _, failed⟩ := Traversal.mapM_eq_error_iff.mp given
      have own := holds item
      rwa [failed] at own

theorem UploadRequest.check_traced (category : Category) (request : UploadRequest)
    : Traced correlation endpoints (request.check category) := by
  unfold check
  split
  · exact .of_local rfl
  · split
    · exact .of_local rfl
    · split
      · exact .of_local rfl
      · split
        · exact .of_local rfl
        · split
          · split
            · trivial
            · exact .of_local rfl
          · trivial

/-- Requests that are refused are refused before any call, by induction on them. -/
theorem Enrichment.enrichAfter_traced (category : Category) (seen : List String)
    (requests : List UploadRequest)
    : Traced correlation endpoints (enrichAfter category seen requests) := by
  induction requests generalizing seen with
  | nil => trivial
  | cons request rest ih =>
      refine Accounted.bind (request.check_traced category) fun _ _ => ?_
      split
      · exact .of_local rfl
      · exact (ih _).bind fun _ _ => trivial

theorem Enrichment.enrich_traced (category : Category) (requests : List UploadRequest)
    : Traced correlation endpoints (enrich category requests) := by
  unfold enrich
  split
  · exact .of_local rfl
  · exact enrichAfter_traced category [] requests

/-- A token that is not accepted is none of the faults of calls. -/
theorem Trust.verify_traced (trust : Trust) (library : TokenLibrary) (now : Nat)
    (token : String)
    : Traced correlation endpoints (trust.verify library now token) := by
  unfold verify
  split
  · unfold Token.Claims.binding
    split
    · exact .of_local rfl
    · exact .of_local rfl
    · split
      · exact .of_local rfl
      · trivial
    · trivial
  · exact .of_local rfl

/-- Grants that cannot be matched are blamed on the requests for uploads, by induction on them. -/
theorem Issuance.screen_traced (expected seen : List String) (grants : List SignedGrant)
    : Traced correlation [.bulkUpload] (screen correlation expected seen grants) := by
  induction grants generalizing seen with
  | nil => trivial
  | cons grant rest ih =>
      unfold screen
      split
      · exact .of_origin rfl List.mem_cons_self
      · split
        · exact .of_origin rfl List.mem_cons_self
        · exact ih _

theorem Issuance.collect_traced (expected : List String) (left : List SignedGrant)
    : Traced correlation [.bulkUpload] (collect correlation left expected) := by
  induction expected generalizing left with
  | nil => trivial
  | cons identifier rest ih =>
      unfold collect
      split
      · exact .of_origin rfl List.mem_cons_self
      · exact (ih _).bind fun _ _ => trivial

theorem Issuance.reassociate_traced (expected : List String) (grants : List SignedGrant)
    : Traced correlation [.bulkUpload] (reassociate correlation expected grants) :=
  (screen_traced expected [] grants).bind fun _ _ => collect_traced expected grants

theorem Issuance.issue_traced (trust : Trust) (library : TokenLibrary) (now : Nat)
    (grant : SignedGrant)
    : Traced correlation endpoints (issue trust library now grant) :=
  (trust.verify_traced library now grant.boundToken).bind fun _ _ => trivial

theorem Broker.boundObjects_traced (broker : Broker σ) (now : Moment) (tokens : List String)
    : Traced correlation endpoints (broker.boundObjects now tokens) := by
  unfold boundObjects
  split
  · exact .of_local rfl
  · refine Accounted.bind (Traced.mapM (fun token => ?_) tokens) fun _ _ => ?_
    · exact broker.verification.trust.verify_traced _ _ token
    · split
      · exact .of_local rfl
      · trivial

theorem Broker.resolveDownload_traced (grants : List DownloadGrant) (token : String)
    : Traced correlation [.uploadCheck, .download]
        (resolveDownload correlation grants token) := by
  have among : Endpoint.download ∈ [Endpoint.uploadCheck, .download] := by simp
  unfold resolveDownload
  split
  · unfold DownloadGrant.resolve
    split
    · trivial
    · split
      · trivial
      · exact .of_origin rfl among
  · exact .of_origin rfl among

theorem KeyStore.loadFile_traced (files : Files) (path : String)
    : Traced correlation endpoints (loadFile files path) := by
  unfold loadFile
  split
  · exact .of_local rfl
  · split
    · exact .of_local rfl
    · cases KeySet.ofJwks _ with
      | ok set => trivial
      | error cause => exact .of_local rfl

end

-----------------------------------------------------------------------------------------
-- Operations
-----------------------------------------------------------------------------------------

namespace Operation

/-- From sound states an operation reaches sound states, and it gives a value as ensured or an
attributed fault.
-/
def Keeps (sound : σ → Prop) (correlation : CorrelationId) (endpoints : List Endpoint)
    (ensures : α → Prop) (operation : Operation σ α)
    : Prop :=
  ∀ now state,
    sound state
    → sound (operation.runAt now state).state
      ∧ Accounted correlation endpoints ensures (operation.runAt now state).value

variable {sound : σ → Prop} {correlation : CorrelationId} {endpoints more : List Endpoint}
  {ensures : α → Prop} {last : β → Prop}

theorem keeps_atTime {result : Nat → Except Fault α}
    (holds : ∀ time, Accounted correlation endpoints ensures (result time))
    : (atTime result : Operation σ α).Keeps sound correlation endpoints ensures :=
  fun now _ begins => ⟨begins, holds now⟩

theorem keeps_ofResult {result : Except Fault α}
    (holds : Accounted correlation endpoints ensures result)
    : (ofResult result : Operation σ α).Keeps sound correlation endpoints ensures :=
  keeps_atTime fun _ => holds

theorem keeps_ok (value : α)
    : (ofResult (.ok value) : Operation σ α).Keeps sound correlation endpoints
        fun _ => True :=
  fun _ _ begins => ⟨begins, trivial⟩

theorem keeps_ofTimed {timed : Timed σ Empty (Except Fault α)}
    (keeps : timed.Keeps sound (Accounted correlation endpoints ensures))
    : (ofTimed timed).Keeps sound correlation endpoints ensures := by
  intro now state begins
  obtain ⟨after, holds⟩ := keeps Horizon.never now state begins
  exact ⟨after, holds _ (Ended.outcome_eq _)⟩

theorem Keeps.bind {first : Operation σ α} {following : α → Operation σ β}
    (head : first.Keeps sound correlation endpoints ensures)
    (tail : ∀ value, ensures value → (following value).Keeps sound correlation endpoints last)
    : (first >>= following).Keeps sound correlation endpoints last := by
  intro now state begins
  obtain ⟨between, holds⟩ := head now state begins
  rw [runAt_bind]
  dsimp only
  cases reached : (first.runAt now state).value with
  | error fault =>
      rw [reached] at holds
      exact ⟨between, holds⟩
  | ok value =>
      rw [reached] at holds
      exact tail value holds _ _ between

theorem Keeps.mono {operation : Operation σ α}
    (keeps : operation.Keeps sound correlation endpoints ensures) (subset : endpoints ⊆ more)
    : operation.Keeps sound correlation more ensures := by
  intro now state begins
  obtain ⟨after, holds⟩ := keeps now state begins
  refine ⟨after, ?_⟩
  cases given : (operation.runAt now state).value with
  | ok value => rwa [given] at holds
  | error fault =>
      rw [given] at holds
      exact Fault.Attributed.mono holds subset

/-- An operation makes its calls under a correlation identifier and to some endpoints only, and
every fault that it gives and that arose in a call names both.
-/
structure Traces (sound : σ → Prop) (correlation : CorrelationId) (endpoints : List Endpoint)
    (operation : Operation σ α)
    : Prop where
  calls : operation.CallsOnly (CallRecord.Concerns correlation endpoints)
  faults
    : ∀ now state,
        sound state
        → ∀ fault,
            (operation.runAt now state).value = .error fault
            → fault.Attributed correlation endpoints

theorem Keeps.traces {operation : Operation σ α}
    (keeps : operation.Keeps sound correlation endpoints ensures)
    (calls : operation.CallsOnly (CallRecord.Concerns correlation endpoints))
    : operation.Traces sound correlation endpoints := by
  refine ⟨calls, fun now state begins fault given => ?_⟩
  have holds := (keeps now state begins).2
  rwa [given] at holds

end Operation

/-- The faults in the failures of a batch are those of requests for uploads. -/
def FailuresTraced (correlation : CorrelationId) (failures : List PartitionFailure) : Prop :=
  ∀ failure ∈ failures, failure.fault.Attributed correlation [.bulkUpload]

namespace Dispatch

variable {sound : σ → Prop} {setting : Setting σ}

/-- A dispatch ends with what its lanes, all of them attributed, amount to. -/
theorem operation_keeps (attributes : setting.authority.Attributes sound) (failFast : Bool)
    (batch : List EnrichedRequest) {result : List (Lane σ) → Except Fault α}
    {ensures : α → Prop}
    (holds
      : ∀ lanes : List (Lane σ),
          (∀ lane ∈ lanes, lane.phase.Attributes sound setting.correlation)
          → Accounted setting.correlation [.bulkUpload] ensures (result lanes))
    : (operation setting failFast batch result).Keeps sound setting.correlation [.bulkUpload]
        ensures := by
  by_cases nonempty : batch = []
  · subst nonempty
    exact Operation.keeps_ofResult (Fault.Attributed.of_local rfl)
  · intro now state begins
    rw [operation_runAt setting failFast nonempty]
    obtain ⟨after, lanes⟩ := run_attributed attributes failFast batch begins
    exact ⟨after, holds _ lanes⟩

end Dispatch

namespace KeyStore

/-- Published keys are loaded by one call, and a document that cannot be used is blamed on it. -/
theorem loadPublished_keeps {authority : Authority σ} {sound : σ → Prop}
    (attributes : authority.Attributes sound) (correlation : CorrelationId)
    : (loadPublished authority correlation).Keeps sound correlation [.keySet]
        fun _ => True := by
  refine (Operation.keeps_ofTimed (Timed.keeps_call attributes correlation .keySet)).bind ?_
  intro document _
  cases KeySet.ofJwks document with
  | ok set => exact Operation.keeps_ok set
  | error cause =>
      exact Operation.keeps_ofResult (Fault.Attributed.of_origin rfl List.mem_cons_self)

theorem loadPublished_callsOnly (authority : Authority σ) (correlation : CorrelationId)
    : (loadPublished authority correlation).CallsOnly
        (CallRecord.Concerns correlation [.keySet]) := by
  refine Operation.CallsOnly.bind ?_ fun document => ?_
  · exact Operation.callsOnly_repeated .none authority correlation .keySet List.mem_cons_self
  · cases KeySet.ofJwks document with
    | ok set => exact Operation.callsOnly_ofResult _
    | error cause => exact Operation.callsOnly_ofResult _

theorem load_keeps {authority : Authority σ} {sound : σ → Prop}
    (attributes : authority.Attributes sound) (files : Files) (correlation : CorrelationId)
    (source : KeySource)
    : (load authority files correlation source).Keeps sound correlation [.keySet]
        fun _ => True := by
  cases source with
  | authority =>
      exact (loadPublished_keeps attributes correlation).bind fun set _ =>
        Operation.keeps_ok (some set)
  | file path =>
      refine Operation.keeps_ofResult ?_
      have loaded : Traced correlation [.keySet] (loadFile files path) :=
        loadFile_traced files path
      cases given : loadFile files path with
      | ok set => trivial
      | error fault =>
          rw [given] at loaded
          exact loaded
  | fixed => exact Operation.keeps_ok none

theorem load_callsOnly (authority : Authority σ) (files : Files) (correlation : CorrelationId)
    (source : KeySource)
    : (load authority files correlation source).CallsOnly
        (CallRecord.Concerns correlation [.keySet]) := by
  cases source with
  | authority =>
      exact (loadPublished_callsOnly authority correlation).bind fun _ =>
        Operation.callsOnly_ofResult _
  | file path => exact Operation.callsOnly_ofResult _
  | fixed => exact Operation.callsOnly_ofResult _

theorem refresh_keeps (store : KeyStore) {authority : Authority σ} {sound : σ → Prop}
    (attributes : authority.Attributes sound) (files : Files) (correlation : CorrelationId)
    : (store.refresh authority files correlation).Keeps sound correlation [.keySet]
        fun _ => True := by
  refine (load_keeps attributes files correlation store.source).bind fun loaded _ => ?_
  cases loaded with
  | some set => exact Operation.keeps_ok _
  | none => exact Operation.keeps_ok _

theorem refresh_callsOnly (store : KeyStore) (authority : Authority σ) (files : Files)
    (correlation : CorrelationId)
    : (store.refresh authority files correlation).CallsOnly
        (CallRecord.Concerns correlation [.keySet]) := by
  refine (load_callsOnly authority files correlation store.source).bind fun loaded => ?_
  cases loaded with
  | some set => exact Operation.callsOnly_ofResult _
  | none => exact Operation.callsOnly_ofResult _

end KeyStore

namespace Broker

variable {sound : σ → Prop} {broker : Broker σ}

theorem requestGrants_keeps (attributes : broker.authority.Attributes sound)
    (correlation : CorrelationId) (batch : List EnrichedRequest)
    : (broker.requestGrants correlation batch).Keeps sound correlation [.bulkUpload]
        fun outcome => FailuresTraced correlation outcome.failures := by
  unfold requestGrants
  cases broker.batchMode with
  | failFast =>
      have grants
          : (Dispatch.requestAll (broker.setting correlation) batch).Keeps sound correlation
              [.bulkUpload] fun _ => True := by
        refine Dispatch.operation_keeps attributes true batch fun lanes attributed => ?_
        split
        · next fault first =>
            obtain ⟨lane, member, failed⟩ := List.exists_of_findSome?_eq_some first
            exact Dispatch.Phase.fault?_attributed (attributed lane member) failed
        · trivial
      exact grants.bind fun _ _ => Operation.keeps_ofResult nofun
  | partialSuccess =>
      refine Dispatch.operation_keeps attributes false batch fun lanes attributed => ?_
      intro failure member
      obtain ⟨lane, among, failed⟩ := List.mem_filterMap.mp member
      obtain ⟨fault, given, rfl⟩ := Option.map_eq_some_iff.mp failed
      exact Dispatch.Phase.fault?_attributed (attributed lane among) given

theorem issueOutcome_accounted (correlation : CorrelationId) (now : Moment)
    (batch : List EnrichedRequest) {outcome : BatchOutcome}
    (failures : FailuresTraced correlation outcome.failures)
    : Accounted correlation [.bulkUpload]
        (fun result : UploadBatch => FailuresTraced correlation result.failures)
        (broker.issueOutcome correlation now batch outcome) :=
  (Issuance.reassociate_traced _ outcome.grants).bind fun grants _ =>
    (Traced.mapM (fun grant => Issuance.issue_traced _ _ _ grant) grants).bind fun _ _ =>
      failures

theorem issueUploads_keeps (attributes : broker.authority.Attributes sound)
    (correlation : CorrelationId) (clock : Clock) (category : Category)
    (requests : List UploadRequest)
    : (broker.issueUploads correlation clock category requests).Keeps sound correlation
        [.bulkUpload] fun result => FailuresTraced correlation result.failures :=
  (Operation.keeps_ofResult (Enrichment.enrich_traced category requests)).bind fun batch _ =>
    (requestGrants_keeps attributes correlation batch).bind fun _ failures =>
      Operation.keeps_atTime fun time =>
        issueOutcome_accounted correlation (clock.moment time) batch failures

theorem requestDownloads_keeps (attributes : broker.authority.Attributes sound)
    (correlation : CorrelationId) (objects : List String)
    : (broker.requestDownloads correlation objects).Keeps sound correlation
        [.uploadCheck, .download] fun _ => True := by
  have repeated := broker.policy.run_keeps (ε := Empty) attributes correlation
    (.download { tokens := objects, expiryInSeconds := broker.downloadExpirySecs })
  refine ((Operation.keeps_ofTimed repeated).mono (by simp [Call.endpoint])).bind ?_
  exact fun grants _ => Operation.keeps_ofResult
    (Traced.mapM (fun token => resolveDownload_traced grants token) objects)

theorem requestBehind_keeps (attributes : broker.authority.Attributes sound)
    (correlation : CorrelationId) (objects : List String) (waited : Except Panic Unit)
    : (broker.requestBehind correlation objects waited).Keeps sound correlation
        [.uploadCheck, .download] fun _ => True := by
  cases waited with
  | ok opened =>
      exact (requestDownloads_keeps attributes correlation objects).bind fun downloads _ =>
        Operation.keeps_ok (Except.ok downloads)
  | error panic => exact Operation.keeps_ok (Except.error panic)

/-- Downloads behind a gate are traced if the gate is, and what follows it. -/
theorem downloads_keep (correlation : CorrelationId) (clock : Clock) (tokens : List String)
    {gate : List String → Operation σ α} {follow : List String → α → Operation σ β}
    (keeps : ∀ names, (gate names).Keeps sound correlation [.uploadCheck] fun _ => True)
    (follows
      : ∀ names result,
          (follow names result).Keeps sound correlation [.uploadCheck, .download]
            fun _ => True)
    : (do
        let names ← Operation.atTime fun time => broker.boundObjects (clock.moment time) tokens
        gate names >>= follow names).Keeps sound correlation
        [.uploadCheck, .download] fun _ => True :=
  (Operation.keeps_atTime fun time => broker.boundObjects_traced (clock.moment time) tokens).bind
    fun names _ => ((keeps names).mono (by simp)).bind fun result _ => follows names result

theorem issueDownloads_keeps (attributes : broker.authority.Attributes sound)
    (correlation : CorrelationId) (clock : Clock) (tokens : List String)
    : (broker.issueDownloads correlation clock tokens).Keeps sound correlation
        [.uploadCheck, .download] fun _ => True :=
  downloads_keep correlation clock tokens
    (fun names => Operation.keeps_ofTimed (broker.gate.check_keeps attributes correlation names))
    (fun names _ => requestDownloads_keeps attributes correlation names)

theorem issueDownloadsWithin_keeps (attributes : broker.authority.Attributes sound)
    (correlation : CorrelationId) (clock : Clock) (tokens : List String) (timeout : Nat)
    (cancel : Option Nat)
    : (broker.issueDownloadsWithin correlation clock tokens timeout cancel).Keeps sound
        correlation [.uploadCheck, .download] fun _ => True :=
  downloads_keep correlation clock tokens
    (fun names later state begins =>
      broker.gate.waitUntilReady_keeps attributes clock correlation names timeout cancel later
        state begins)
    (requestBehind_keeps attributes correlation)

theorem checkExpiry_traced {correlation : CorrelationId} {endpoints : List Endpoint}
    (now : Moment) (grant : SignedGrant)
    : Traced correlation endpoints (checkExpiry now grant) := by
  unfold checkExpiry
  split
  · exact .of_local rfl
  · trivial

theorem putObject_keeps (attributes : broker.authority.Attributes sound)
    (correlation : CorrelationId) (clock : Clock) (grant : SignedGrant) (contentType : String)
    (body : List UInt8)
    : (broker.putObject correlation clock grant contentType body).Keeps sound correlation
        [.objectPut] fun _ => True :=
  (Operation.keeps_atTime fun time => checkExpiry_traced (clock.moment time) grant).bind
    fun _ _ => Operation.keeps_ofTimed (broker.policy.run_keeps attributes correlation _)

theorem refreshKeys_traces (attributes : broker.authority.Attributes sound) (files : Files)
    (correlation : CorrelationId)
    : (broker.refreshKeys files correlation).Traces sound correlation [.keySet] := by
  unfold refreshKeys
  cases broker.verification with
  | passThrough => exact (Operation.keeps_ok broker).traces (Operation.callsOnly_ofResult _)
  | stored store =>
      have keeps := (store.refresh_keeps attributes files correlation).bind fun store _ =>
        Operation.keeps_ok { broker with verification := .stored store }
      have calls := (store.refresh_callsOnly broker.authority files correlation).bind fun store =>
        Operation.callsOnly_ofResult (.ok { broker with verification := .stored store })
      exact keeps.traces calls

/-- Every operation of a service traces its calls and faults to a correlation identifier and to
the endpoints that belong to it; so do the faults in the failures of a batch.
-/
structure Traces (broker : Broker σ) (sound : σ → Prop) (correlation : CorrelationId) : Prop where
  uploads
    : ∀ clock category requests,
        (broker.issueUploads correlation clock category requests).Traces sound correlation
          [.bulkUpload]
  failures
    : ∀ clock category requests start state result,
        sound state
        → ((broker.issueUploads correlation clock category requests).runAt start state).value
          = .ok result
        → FailuresTraced correlation result.failures
  downloads
    : ∀ clock tokens,
        (broker.issueDownloads correlation clock tokens).Traces sound correlation
          [.uploadCheck, .download]
  downloadsWithin
    : ∀ clock tokens timeout cancel,
        (broker.issueDownloadsWithin correlation clock tokens timeout cancel).Traces sound
          correlation [.uploadCheck, .download]
  put
    : ∀ clock grant contentType body,
        (broker.putObject correlation clock grant contentType body).Traces sound correlation
          [.objectPut]
  refresh
    : ∀ files, (broker.refreshKeys files correlation).Traces sound correlation [.keySet]

theorem traces (attributes : broker.authority.Attributes sound) (correlation : CorrelationId)
    : broker.Traces sound correlation where
  uploads clock category requests :=
    (issueUploads_keeps attributes correlation clock category requests).traces
      (broker.issueUploads_concerns correlation clock category requests)
  failures clock category requests start state result begins given := by
    have holds :=
      (issueUploads_keeps attributes correlation clock category requests start state begins).2
    rwa [given] at holds
  downloads clock tokens :=
    (issueDownloads_keeps attributes correlation clock tokens).traces
      (broker.issueDownloads_concerns correlation clock tokens)
  downloadsWithin clock tokens timeout cancel :=
    (issueDownloadsWithin_keeps attributes correlation clock tokens timeout cancel).traces
      (broker.issueDownloadsWithin_concerns correlation clock tokens timeout cancel)
  put clock grant contentType body :=
    (putObject_keeps attributes correlation clock grant contentType body).traces
      (broker.putObject_concerns correlation clock grant contentType body)
  refresh files := refreshKeys_traces attributes files correlation

end Broker

-----------------------------------------------------------------------------------------
-- Authorities that name their calls
-----------------------------------------------------------------------------------------

/-- The authority behind HTTP names its calls, whatever its transport does. -/
theorem Http.authority_attributes (library : Http.Library) (base : String)
    (transport : Http.Transport σ)
    : (Http.authority library base transport).Attributes fun _ => True where
  accepted _ _ _ _ := trivial
  answered correlation call state later _ _ := by
    refine ⟨trivial, ?_⟩
    by_cases lacks : Http.LacksUrl call
    · obtain ⟨contentType, body, rfl⟩ := lacks
      exact Fault.Attributed.of_local rfl
    · rw [Http.accept_of_not_lacksUrl lacks]
      split
      · exact Fault.Attributed.of_origin rfl List.mem_cons_self
      · next request built =>
          let exchange := ((transport request state).finish later).1
          change Traced correlation [call.endpoint] (Http.classify library _ call.endpoint exchange)
          have outcome := Http.classify_outcome library correlation call.endpoint exchange
          cases given : Http.classify library correlation call.endpoint exchange with
          | ok reply => trivial
          | error fault => exact .of_origin (outcome.named given) List.mem_cons_self

-----------------------------------------------------------------------------------------
-- Identifiers of inbound headers
-----------------------------------------------------------------------------------------

/-- An identifier stands for an inbound header: it is the header verbatim, with all its white
space, or the all-zero identifier for one that is absent or blank.
-/
structure CorrelationId.StandsFor (header : Option String) (id : CorrelationId) : Prop where
  verbatim : ∀ text, header = some text → Text.isBlankText text = false → id.text = text
  otherwise
    : (∀ text, header = some text → Text.isBlankText text = true)
      → id.text = "00000000-0000-0000-0000-000000000000"
  filled : Text.isBlankText id.text = false

theorem CorrelationId.ofHeader_standsFor (header : Option String)
    : StandsFor header (ofHeader header) := by
  have zero : Text.isBlankText nil.text = false := by decide
  cases header with
  | none => exact ⟨nofun, fun _ => rfl, zero⟩
  | some text =>
      cases blank : Text.isBlankText text with
      | true =>
          have made : ofHeader (some text) = nil := if_pos blank
          rw [made]
          refine ⟨?_, fun _ => rfl, zero⟩
          rintro other ⟨⟩ filled
          exact nomatch blank.symm.trans filled
      | false =>
          have made : ofHeader (some text) = ⟨text⟩ := if_neg (by simp [blank])
          rw [made]
          refine ⟨?_, fun absent => ?_, blank⟩
          · rintro other ⟨⟩ _
            rfl
          · exact nomatch blank.symm.trans (absent text rfl)

/-- The correlation identifier of an inbound header travels unchanged and is never blank. All
calls of an operation are made under it, and so is every call that a fault names, provided that
the authority names its own calls in its faults.
-/
theorem Broker.correlation_travels (header : Option String) {broker : Broker σ}
    {sound : σ → Prop} (attributes : broker.authority.Attributes sound)
    : CorrelationId.StandsFor header (CorrelationId.ofHeader header)
      ∧ broker.Traces sound (CorrelationId.ofHeader header) :=
  ⟨CorrelationId.ofHeader_standsFor header, traces attributes (CorrelationId.ofHeader header)⟩

/-- A service whose authority is out of reach. -/
def Broker.stranded : Broker Unit where
  authority :=
    Http.authority .standard "http://authority.test" fun _ state => .immediate .failed state
  library := .standard
  verification := .passThrough
  serviceName := "uploads"
  policy := .none
  batchMode := .partialSuccess
  pollInterval := 1
  pollInterval_pos := Nat.one_pos
  downloadExpirySecs := 60

theorem Broker.correlation_travels_stranded
    : CorrelationId.StandsFor (some " req-7 ") ⟨" req-7 "⟩
      ∧ stranded.Traces (fun _ => True) ⟨" req-7 "⟩ :=
  have verbatim : CorrelationId.ofHeader (some " req-7 ") = ⟨" req-7 "⟩ := by decide
  verbatim ▸ correlation_travels (some " req-7 ") (Http.authority_attributes _ _ _)

example
    : ((Broker.stranded.putObject ⟨" req-7 "⟩ (.still ⟨0, 0⟩ 0)
          ⟨"a", "http://put.test/a", "t", 1⟩ "text/plain" []).runAt 0 ()).value
      = .error (.unavailable ⟨.objectPut, ⟨" req-7 "⟩⟩ .requestFailed) :=
  rfl

end ObjectGrants
