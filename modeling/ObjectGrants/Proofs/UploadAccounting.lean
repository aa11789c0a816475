import Mathlib.Data.List.Flatten
import ObjectGrants.Authority.Script
import ObjectGrants.Broker
import ObjectGrants.Proofs.DispatchConversation
import ObjectGrants.Proofs.Enrichment
import ObjectGrants.Proofs.GrantMatching

/-! What becomes of the requests of an upload batch. Whatever the authority answers, each
request ends in exactly one place: with a grant of its own or in the failure of its group.
-/

namespace ObjectGrants

-----------------------------------------------------------------------------------------
-- Grants matched with requests
-----------------------------------------------------------------------------------------

namespace Issuance

/-- Matched grants carry the expected identifiers in their order, and none is made up. -/
theorem reassociate_ok {correlation : CorrelationId} {expected : List String}
    {grants matched : List SignedGrant}
    (given : reassociate correlation expected grants = .ok matched)
    : matched.map (·.identifier) = expected ∧ ∀ grant ∈ matched, grant ∈ grants := by
  obtain ⟨_, named, perm⟩ := reassociate_eq_ok_iff.mp given
  exact ⟨named, fun _ => perm.mem_iff.mp⟩

/-- An issued grant is the grant itself under its identifier, with the object that its token
is bound to.
-/
theorem issue_ok {trust : Trust} {library : TokenLibrary} {now : Nat} {grant : SignedGrant}
    {entry : IssuedGrant} (issued : issue trust library now grant = .ok entry)
    : entry.identifier = grant.identifier
      ∧ entry.grant = grant
      ∧ trust.verify library now grant.boundToken = .ok entry.object := by
  obtain ⟨object, verified, same⟩ := Traversal.bind_eq_ok_iff.mp issued
  obtain rfl := Except.ok.inj same
  exact ⟨rfl, rfl, verified⟩

end Issuance

-----------------------------------------------------------------------------------------
-- Accounts of a batch
-----------------------------------------------------------------------------------------

/-- The identifiers of some requests, in their order. -/
def UploadRequest.identifiers (requests : List UploadRequest) : List String :=
  requests.map (·.identifier)

/-- The identifiers of the requests that are in a failure. -/
def UploadBatch.failed (batch : UploadBatch) : List String :=
  batch.failures.flatMap (·.identifiers)

/-- A batch accounts for its requests: each of them is issued or failed, and that once. The
failures are whole groups by content type, no two of one type and in ascending order, and
the rest is issued in the order of the requests.
-/
structure UploadBatch.Accounts (batch : UploadBatch) (requests : List UploadRequest)
    : Prop where
  distinct : (UploadRequest.identifiers requests).Nodup
  once
    : (batch.issued.map (·.identifier) ++ batch.failed).Perm
        (UploadRequest.identifiers requests)
  issued
    : batch.issued.map (·.identifier)
      = (UploadRequest.identifiers requests).filter (· ∉ batch.failed)
  groups
    : ∀ failure ∈ batch.failures,
        failure.identifiers ≠ []
        ∧ failure.identifiers
          = UploadRequest.identifiers (requests.filter (·.contentType == failure.contentType))
  ascending
    : batch.failures.Pairwise fun first second => first.contentType < second.contentType

/-- The groups of an enriched batch, as identifiers of the requests that it was made of. -/
theorem Partition.identifiers_ofBatch (category : Category) (requests : List UploadRequest)
    : ∃ contentTypes : List String,
        contentTypes.Pairwise (· < ·)
        ∧ (∀ contentType ∈ contentTypes,
            ∃ request ∈ requests, request.contentType = contentType)
        ∧ identifiers (ofBatch (requests.map (·.enriched category)))
          = contentTypes.map fun contentType =>
              (contentType,
                UploadRequest.identifiers
                  (requests.filter (·.contentType == contentType))) := by
  obtain ⟨contentTypes, ascending, present, groups_eq⟩ :=
    ofBatch_divides (requests.map (·.enriched category))
  refine ⟨contentTypes, ascending, ?_, ?_⟩
  · intro contentType member
    obtain ⟨enriched, among, same⟩ := (present contentType).mp member
    obtain ⟨request, given, rfl⟩ := List.mem_map.mp among
    exact ⟨request, given, by simpa using same⟩
  · rw [groups_eq]
    unfold identifiers
    rw [List.map_map]
    refine List.map_congr_left fun contentType _ => ?_
    simp [group, EnrichedRequest.ofType, UploadRequest.identifiers, List.filter_map,
      Function.comp_def]

/-- The groups of a batch name its requests, each as often as it is in the batch. -/
theorem Partition.identifiers_perm (batch : List EnrichedRequest)
    : ((identifiers (ofBatch batch)).flatMap (·.2)).Perm (batch.map (·.identifier)) := by
  have named : (identifiers (ofBatch batch)).flatMap (·.2)
      = ((ofBatch batch).flatMap (·.2)).map (·.identifier) := by
    rw [identifiers, List.flatMap_map, List.map_flatMap]
  rw [named]
  exact (ofBatch_perm batch).map _

/-- What is in a duplicate-free list and outside a part of it makes up the list with that part.
-/
theorem filter_append_perm_of_subset {all part : List String} (distinct : all.Nodup)
    (once : part.Nodup) (subset : ∀ name ∈ part, name ∈ all)
    : (all.filter (· ∉ part) ++ part).Perm all := by
  have inside : part.Perm (all.filter (· ∈ part)) := by
    refine (List.perm_ext_iff_of_nodup once (distinct.filter _)).mpr fun name => ?_
    simpa using subset name
  have split := List.filter_append_perm (· ∈ part) all
  simp only [← decide_not] at split
  exact (inside.append_left _).trans (List.perm_append_comm.trans split)

/-- A batch accounts for its requests if its failures name groups of the enriched requests and
the rest of them is issued in order.
-/
theorem UploadBatch.accounts_of_sublist {batch : UploadBatch} {category : Category}
    {requests : List UploadRequest} (distinct : (UploadRequest.identifiers requests).Nodup)
    (failures
      : (batch.failures.map PartitionFailure.group).Sublist
          (Partition.identifiers (Partition.ofBatch (requests.map (·.enriched category)))))
    (issued
      : batch.issued.map (·.identifier)
        = (UploadRequest.identifiers requests).filter (· ∉ batch.failed))
    : batch.Accounts requests := by
  have named : ((Partition.identifiers
      (Partition.ofBatch (requests.map (·.enriched category)))).flatMap (·.2)).Perm
      (UploadRequest.identifiers requests) := by
    have named := Partition.identifiers_perm (requests.map (·.enriched category))
    rwa [List.map_map] at named
  -- The failed identifiers are a part of those of all groups, in their order.
  have failed := failures.flatMap (·.2)
  rw [List.flatMap_map] at failed
  change batch.failed.Sublist _ at failed
  obtain ⟨contentTypes, ascending, present, identifiers_eq⟩ :=
    Partition.identifiers_ofBatch category requests
  have sorted : (Partition.identifiers
      (Partition.ofBatch (requests.map (·.enriched category)))).Pairwise
        fun first second => first.1 < second.1 := by
    rw [identifiers_eq]
    exact List.pairwise_map.mpr ascending
  constructor
  · exact distinct
  · rw [issued]
    exact filter_append_perm_of_subset distinct ((named.nodup_iff.mpr distinct).sublist failed)
      fun name member => named.mem_iff.mp (failed.subset member)
  · exact issued
  · intro failure member
    have among := failures.subset (List.mem_map_of_mem member)
    rw [identifiers_eq] at among
    obtain ⟨contentType, known, same⟩ := List.mem_map.mp among
    obtain ⟨rfl, same⟩ := Prod.mk.inj same
    obtain ⟨request, given, own⟩ := present _ known
    refine ⟨?_, same.symm⟩
    rw [← same]
    have grouped : request ∈ requests.filter (·.contentType == failure.contentType) :=
      List.mem_filter.mpr ⟨given, beq_iff_eq.mpr own⟩
    exact List.ne_nil_of_mem (List.mem_map_of_mem grouped)
  · exact (List.pairwise_map.mp (sorted.sublist failures)).imp id

-----------------------------------------------------------------------------------------
-- Issuance of uploads
-----------------------------------------------------------------------------------------

namespace Broker

variable {σ : Type}

/-- An outcome that can be issued gives its own grants to the requests that are in no failure,
in their order, and each token is verified.
-/
theorem issueOutcome_ok {broker : Broker σ} {correlation : CorrelationId} {now : Moment}
    {batch : List EnrichedRequest} {outcome : BatchOutcome} {result : UploadBatch}
    (issued : broker.issueOutcome correlation now batch outcome = .ok result)
    : result.failures = outcome.failures
      ∧ result.issued.map (·.identifier)
        = (batch.map (·.identifier)).filter (· ∉ result.failed)
      ∧ ∀ entry ∈ result.issued,
          entry.grant ∈ outcome.grants
          ∧ entry.grant.identifier = entry.identifier
          ∧ broker.verify now entry.grant.boundToken = .ok entry.object := by
  obtain ⟨grants, matched, rest⟩ := Traversal.bind_eq_ok_iff.mp issued
  obtain ⟨entries, verified, same⟩ := Traversal.bind_eq_ok_iff.mp rest
  obtain rfl := Except.ok.inj same
  obtain ⟨expected, own⟩ := Issuance.reassociate_ok matched
  have pairs := Traversal.mapM_eq_ok_iff.mp verified
  have identifiers :=
    Traversal.map_eq_map (pairs.imp fun _ _ issued => (Issuance.issue_ok issued).1)
  refine ⟨rfl, ?_, ?_⟩
  · rw [identifiers, expected]
    simp only [UploadBatch.failed, List.contains_eq_mem]
    exact List.filter_congr fun _ _ => (decide_not ..).symm
  · intro entry member
    obtain ⟨grant, among, issued⟩ := Traversal.exists_partner pairs.flip member
    obtain ⟨named, rfl, object⟩ := Issuance.issue_ok issued
    exact ⟨own _ among, named.symm, object⟩

/-- A service that stops at failures requests the grants of a whole batch or none. -/
theorem requestGrants_of_failFast {broker : Broker σ} (mode : broker.batchMode = .failFast)
    (correlation : CorrelationId) (batch : List EnrichedRequest)
    : broker.requestGrants correlation batch
      = Dispatch.requestAll (broker.setting correlation) batch >>= fun grants =>
          Operation.ofResult (.ok { grants, failures := [] }) := by
  rw [requestGrants, mode]
  rfl

/-- A service that keeps what succeeds requests the grants of each group. -/
theorem requestGrants_of_partialSuccess {broker : Broker σ}
    (mode : broker.batchMode = .partialSuccess) (correlation : CorrelationId)
    (batch : List EnrichedRequest)
    : broker.requestGrants correlation batch
      = Dispatch.requestPartial (broker.setting correlation) batch := by
  rw [requestGrants, mode]

/-- The grants of a checked batch are obtained in a conversation about the calls of the run,
and the failures name groups of the batch; there are none in fail-fast mode.
-/
theorem requestGrants_converses {broker : Broker σ} {correlation : CorrelationId}
    {batch : List EnrichedRequest} {now : Nat} {state : σ} {outcome : BatchOutcome}
    (given : ((broker.requestGrants correlation batch).runAt now state).value = .ok outcome)
    : ∃ events remaining,
        Conversation broker.authority now [] state events
          (now + ((broker.requestGrants correlation batch).runAt now state).elapsed) remaining
          ((broker.requestGrants correlation batch).runAt now state).state
        ∧ events.filterMap Event.asked?
          = ((broker.requestGrants correlation batch).runAt now state).calls
        ∧ (∀ grant ∈ outcome.grants, grant.Given correlation events)
        ∧ (outcome.failures.map PartitionFailure.group).Sublist
            (Partition.identifiers (Partition.ofBatch batch))
        ∧ (broker.batchMode = .failFast → outcome.failures = []) := by
  cases mode : broker.batchMode with
  | partialSuccess =>
      rw [requestGrants_of_partialSuccess mode] at given ⊢
      obtain ⟨lanes, events, remaining, found, groups, conversation, calls, heard⟩ :=
        Dispatch.operation_converses given
      obtain rfl := Except.ok.inj found
      refine ⟨events, remaining, conversation, calls, heard, ?_, nofun⟩
      rw [← groups]
      exact Dispatch.failures_sublist lanes
  | failFast =>
      rw [requestGrants_of_failFast mode, Operation.runAt_bind_ofResult] at given ⊢
      obtain ⟨grants, obtained, rfl⟩ := Traversal.map_eq_ok_iff.mp given
      obtain ⟨lanes, events, remaining, found, _, conversation, calls, heard⟩ :=
        Dispatch.operation_converses obtained
      split at found
      · exact nomatch found
      · obtain rfl := Except.ok.inj found
        exact ⟨events, remaining, conversation, calls, heard, List.nil_sublist _, fun _ => rfl⟩

/-- Issuance accounts for every request exactly once, whatever the authority answers, in
whatever order the groups are answered and whichever of them fail. In fail-fast mode all
requests are issued. Each grant that is issued was given in this very run, in an answer to one
of its calls, for the request that it is issued to and with a token that verifies at the end
of the run.
-/
theorem uploads_accounted (broker : Broker σ) (correlation : CorrelationId) (clock : Clock)
    (category : Category) (requests : List UploadRequest) (start : Nat) (state : σ)
    (result : UploadBatch)
    (issued
      : ((broker.issueUploads correlation clock category requests).runAt start state).value
        = .ok result)
    : let ended := (broker.issueUploads correlation clock category requests).runAt start state
      result.Accounts requests
      ∧ (broker.batchMode = .failFast
        → result.failures = []
          ∧ result.issued.map (·.identifier) = UploadRequest.identifiers requests)
      ∧ ∃ events remaining,
          Conversation broker.authority start [] state events (start + ended.elapsed) remaining
            ended.state
          ∧ events.filterMap Event.asked? = ended.calls
          ∧ ∀ entry ∈ result.issued,
              entry.grant.Given correlation events
              ∧ entry.grant.identifier = entry.identifier
              ∧ broker.verify (clock.moment (start + ended.elapsed)) entry.grant.boundToken
                = .ok entry.object := by
  intro ended
  unfold ended
  unfold issueUploads at issued ⊢
  rw [Operation.ofResult_bind] at issued ⊢
  cases checked : Enrichment.enrich category requests with
  | error fault =>
      rw [checked] at issued
      exact nomatch issued
  | ok batch =>
      obtain ⟨_, _, distinct, rfl⟩ := Enrichment.enrich_eq_ok_iff.mp checked
      rw [checked] at issued
      dsimp only at issued ⊢
      rw [Operation.runAt_bind_atTime] at issued ⊢
      obtain ⟨outcome, obtained, issued⟩ := Traversal.bind_eq_ok_iff.mp issued
      obtain ⟨events, remaining, conversation, calls, heard, groups, failFast⟩ :=
        requestGrants_converses obtained
      obtain ⟨failures, identifiers, entries⟩ := issueOutcome_ok issued
      rw [← failures] at groups failFast
      rw [List.map_map] at identifiers
      have accounts : result.Accounts requests :=
        UploadBatch.accounts_of_sublist distinct groups identifiers
      refine ⟨accounts, ?_, events, remaining, conversation, calls, ?_⟩
      · intro mode
        refine ⟨failFast mode, ?_⟩
        rw [accounts.issued]
        simp [UploadBatch.failed, failFast mode]
      · intro entry member
        obtain ⟨among, named, verified⟩ := entries entry member
        exact ⟨heard _ among, named, verified⟩

/-- A service that keeps the groups that succeed, on a rehearsed authority. -/
def rehearsed : Broker Script where
  authority := Script.authority
  library := .standard
  verification := .passThrough
  serviceName := "uploads"
  policy := .none
  batchMode := .partialSuccess
  pollInterval := 1
  pollInterval_pos := Nat.one_pos
  downloadExpirySecs := 60

/-- A grant whose token binds the object `o`. -/
def rehearsedGrant : SignedGrant :=
  ⟨"a", "https://put/a", "eyJhbGciOiJSUzI1NiJ9.eyJ0b2tlbiI6Im8ifQ.", 0⟩

/-- Two requests, the second of which the authority has a grant for. -/
def rehearsedRequests : List UploadRequest :=
  [⟨"b", "b.jpg", ContentType.jpeg, false, none⟩, ⟨"a", "a.png", ContentType.png, false, none⟩]

/-- One of them is issued its grant, the other one is in the failure of its group. -/
def rehearsedBatch : UploadBatch where
  issued := [⟨"a", rehearsedGrant, ⟨"o"⟩⟩]
  failures :=
    [⟨ContentType.jpeg, ["b"], .unavailable ⟨.bulkUpload, .nil⟩ (.stated "unscripted")⟩]

/-- Of two requests one is issued and one fails, and both are accounted for. -/
theorem uploads_accounted_one_group_failed
    : let clock := Clock.still ⟨0, 0⟩ 0
      ((rehearsed.issueUploads .nil clock .image rehearsedRequests).runAt 0
          { uploads := [(ContentType.png, [{ answer := .ok [rehearsedGrant] }])] }).value
        = .ok rehearsedBatch
      ∧ rehearsedBatch.Accounts rehearsedRequests :=
  let clock := Clock.still ⟨0, 0⟩ 0
  have issued
      : ((rehearsed.issueUploads .nil clock .image rehearsedRequests).runAt 0
          { uploads := [(ContentType.png, [{ answer := .ok [rehearsedGrant] }])] }).value
        = .ok rehearsedBatch :=
    rfl
  ⟨issued, (uploads_accounted rehearsed .nil clock .image rehearsedRequests 0 _ _ issued).1⟩

end Broker

end ObjectGrants
