import ObjectGrants.Proofs.DispatchAnswers
import ObjectGrants.Proofs.UploadCalls

/-! Batches that are granted in full. If the authority answers every call with the grants that
were asked for, in whatever order, and the tokens of these verify, then the whole batch is
issued in the order of its requests, in both batch modes.
-/

namespace ObjectGrants

variable {σ : Type} {sound : σ → Prop} {grant : String → SignedGrant}

/-- An answer to a call gives the grant for each identifier of the call, in some order. -/
def GrantsAll (grant : String → SignedGrant) (descriptors : List UploadDescriptor)
    (answer : Except Fault (List SignedGrant))
    : Prop :=
  ∃ grants,
    answer = .ok grants
    ∧ grants.Perm (descriptors.map fun descriptor => grant descriptor.identifier)

-----------------------------------------------------------------------------------------
-- The dispatch
-----------------------------------------------------------------------------------------

namespace Dispatch

/-- A lane whose call is granted in full does not fail. -/
theorem Phase.Ensures.unfailed {descriptors : List UploadDescriptor} {phase : Phase σ}
    (ensured : phase.Ensures sound (GrantsAll grant descriptors))
    : phase.fault? = none := by
  cases phase with
  | due time left => rfl
  | inFlight time left finish => rfl
  | settled result =>
      obtain ⟨grants, rfl, _⟩ := ensured
      rfl

/-- A lane whose call is granted in full has these grants when nothing is left to do. -/
theorem Lane.grants_perm {setting : Setting σ} {lane : Lane σ}
    (ensured : lane.phase.Ensures sound (GrantsAll grant (lane.descriptors setting)))
    (past : lane.phase.time? = none)
    : lane.grants.Perm (lane.requests.map fun request => grant request.identifier) := by
  unfold Lane.grants
  cases phase : lane.phase with
  | due time left => exact nomatch past.symm.trans (congrArg Phase.time? phase)
  | inFlight time left finish => exact nomatch past.symm.trans (congrArg Phase.time? phase)
  | settled result =>
      rw [phase] at ensured
      obtain ⟨grants, rfl, perm⟩ := ensured
      rwa [Lane.descriptors, List.map_map] at perm

/-- A dispatch whose calls are all granted in full obtains the grants of the whole batch. -/
theorem run_granted (setting : Setting σ)
    (authority : setting.authority.EnsuresUploads setting.correlation sound (GrantsAll grant))
    (failFast : Bool) (batch : List EnrichedRequest) {state : σ} (begins : sound state)
    : let outcome := run setting failFast batch state
      Unfailed outcome.lanes
      ∧ (outcome.lanes.flatMap Lane.grants).Perm
          (batch.map fun request => grant request.identifier)
      ∧ sound outcome.state := by
  obtain ⟨after, ensured⟩ := run_ensured authority failFast batch begins
  have unfailed : Unfailed (run setting failFast batch state).lanes :=
    fun lane member => (ensured lane member).unfailed
  have past : ∀ lane ∈ (run setting failFast batch state).lanes, lane.phase.time? = none :=
    (proceed_settles setting failFast state (Nat.le_refl _)).resolve_right
      fun stopped => stopped.2 unfailed
  refine ⟨unfailed, ?_, after⟩
  calc
    List.Perm ((run setting failFast batch state).lanes.flatMap Lane.grants)
        ((run setting failFast batch state).lanes.flatMap fun lane =>
          lane.requests.map fun request => grant request.identifier) :=
      List.Perm.flatMap_left _ fun lane member =>
        Lane.grants_perm (ensured lane member) (past lane member)
    List.Perm _ (((Partition.ofBatch batch).flatMap (·.2)).map
          fun request => grant request.identifier) := by
      rw [← run_group setting failFast batch state, List.map_flatMap, List.flatMap_map]
      exact List.Perm.refl _
    List.Perm _ (batch.map fun request => grant request.identifier) :=
      (Partition.ofBatch_perm batch).map _

end Dispatch

-----------------------------------------------------------------------------------------
-- Matching
-----------------------------------------------------------------------------------------

namespace Issuance

variable {correlation : CorrelationId} {expected : List String}

/-- The grants for some distinct identifiers are matched with these, in whatever order they come.
-/
theorem reassociate_of_perm (named : ∀ identifier, (grant identifier).identifier = identifier)
    (distinct : expected.Nodup) {grants : List SignedGrant}
    (perm : grants.Perm (expected.map grant))
    : reassociate correlation expected grants = .ok (expected.map grant) := by
  refine reassociate_eq_ok_iff.mpr ⟨distinct, ?_, perm.symm⟩
  rw [List.map_map]
  exact List.map_id'' named expected

end Issuance

-----------------------------------------------------------------------------------------
-- Issuance
-----------------------------------------------------------------------------------------

namespace Broker

variable {broker : Broker σ} {correlation : CorrelationId}

/-- If all calls are granted in full, so is a batch, in both batch modes. -/
theorem requestGrants_granted
    (authority : broker.authority.EnsuresUploads correlation sound (GrantsAll grant))
    (batch : List EnrichedRequest) (nonempty : batch ≠ []) (start : Nat) {state : σ}
    (begins : sound state)
    : let ended := (broker.requestGrants correlation batch).runAt start state
      ∃ grants,
        ended.value = .ok ⟨grants, []⟩
        ∧ grants.Perm (batch.map fun request => grant request.identifier)
        ∧ sound ended.state := by
  have granted (failFast : Bool) :=
    Dispatch.run_granted (broker.setting correlation) authority failFast batch begins
  cases mode : broker.batchMode with
  | failFast =>
      obtain ⟨unfailed, perm, after⟩ := granted true
      rw [requestGrants_of_failFast mode, Operation.runAt_bind_ofResult, Dispatch.requestAll,
        Dispatch.operation_runAt _ _ nonempty]
      have clean := Dispatch.findSome?_fault_eq_none_iff.mpr unfailed
      refine ⟨_, ?_, perm, after⟩
      simp only [Ended.value, clean]
      rfl
  | partialSuccess =>
      obtain ⟨unfailed, perm, after⟩ := granted false
      rw [requestGrants_of_partialSuccess mode, Dispatch.requestPartial,
        Dispatch.operation_runAt _ _ nonempty]
      have silent := Dispatch.filterMap_failure?_eq_nil_iff.mpr unfailed
      refine ⟨_, ?_, perm, after⟩
      simp only [Ended.value, silent]

/-- What is issued of requests by the grants and the objects for their identifiers. -/
def issuedFor (grant : String → SignedGrant) (object : String → ObjectId)
    (requests : List UploadRequest)
    : List IssuedGrant :=
  requests.map fun request =>
    ⟨request.identifier, grant request.identifier, object request.identifier⟩

/-- Grants for all requests of a batch are issued in the order of the requests. -/
theorem issueOutcome_granted (named : ∀ identifier, (grant identifier).identifier = identifier)
    {now : Moment} {category : Category} {requests : List UploadRequest}
    (distinct : (requests.map (·.identifier)).Nodup) {grants : List SignedGrant}
    (perm : grants.Perm (requests.map fun request => grant request.identifier))
    {object : String → ObjectId}
    (verified
      : ∀ request ∈ requests,
          broker.verify now (grant request.identifier).boundToken
            = .ok (object request.identifier))
    : broker.issueOutcome correlation now (requests.map (·.enriched category)) ⟨grants, []⟩
      = .ok ⟨issuedFor grant object requests, []⟩ := by
  have matched
      : Issuance.reassociate correlation (requests.map (·.identifier)) grants
        = .ok ((requests.map (·.identifier)).map grant) := by
    refine Issuance.reassociate_of_perm named distinct ?_
    simpa [Function.comp_def] using perm
  have issued
      : ((requests.map (·.identifier)).map grant).mapM
          (Issuance.issue broker.verification.trust broker.library now.seconds.toNat)
        = .ok (issuedFor grant object requests) := by
    rw [issuedFor, Traversal.mapM_eq_ok_iff, List.map_map, List.forall₂_map_left_iff,
      List.forall₂_map_right_iff, List.forall₂_same]
    intro request member
    refine Traversal.bind_eq_ok_iff.mpr ⟨_, verified request member, ?_⟩
    simp [named]
    rfl
  refine Traversal.bind_eq_ok_iff.mpr ⟨_, ?_, Traversal.bind_eq_ok_iff.mpr ⟨_, issued, rfl⟩⟩
  simpa [Function.comp_def] using matched

/-- If all calls are granted in full and the tokens verify at the end of the run, a batch that
passes the checks is issued as a whole, in the order of its requests.
-/
theorem issueUploads_granted
    (authority : broker.authority.EnsuresUploads correlation sound (GrantsAll grant))
    (named : ∀ identifier, (grant identifier).identifier = identifier) {clock : Clock}
    {category : Category} {requests : List UploadRequest} {batch : List EnrichedRequest}
    (checked : Enrichment.enrich category requests = .ok batch) {object : String → ObjectId}
    (start : Nat) {state : σ} (begins : sound state)
    : let ended := (broker.issueUploads correlation clock category requests).runAt start state
      (∀ request ∈ requests,
        broker.verify (clock.moment (start + ended.elapsed)) (grant request.identifier).boundToken
          = .ok (object request.identifier))
      → ended.value = .ok ⟨issuedFor grant object requests, []⟩ ∧ sound ended.state := by
  obtain ⟨nonempty, _, distinct, rfl⟩ := Enrichment.enrich_eq_ok_iff.mp checked
  obtain ⟨grants, obtained, perm, after⟩ :=
    requestGrants_granted authority (requests.map (·.enriched category))
      (by simpa using nonempty) start begins
  have run :=
    broker.issueUploads_of_enriched broker.batchMode correlation clock checked start state
  rw [show broker.inMode broker.batchMode = broker from rfl] at run
  rw [run]
  intro ended verified
  refine ⟨?_, after⟩
  rw [List.map_map] at perm
  change ((broker.requestGrants correlation _).runAt start state).value.bind _ = _
  rw [obtained]
  exact issueOutcome_granted named distinct perm verified

end Broker

end ObjectGrants
