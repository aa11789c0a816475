import ObjectGrants.Proofs.BatchModes
import ObjectGrants.Proofs.DispatchOrder

/-! Issuance for the same requests in two orders. Grants are matched with requests by their
identifiers, so where an authority answers in turn the order of the requests decides the order
of what is issued, and nothing else.
-/

namespace ObjectGrants

-----------------------------------------------------------------------------------------
-- Checks and matches in two orders
-----------------------------------------------------------------------------------------

/-- Requests that pass do so in every order. -/
theorem Enrichment.enrich_perm {category : Category} {requests others : List UploadRequest}
    (perm : requests.Perm others) {batch : List EnrichedRequest}
    (checked : enrich category requests = .ok batch)
    : ∃ batch', enrich category others = .ok batch' ∧ batch.Perm batch' := by
  obtain ⟨nonempty, pass, distinct, rfl⟩ := enrich_eq_ok_iff.mp checked
  refine ⟨others.map (·.enriched category), enrich_eq_ok_iff.mpr ⟨?_, ?_, ?_, rfl⟩, perm.map _⟩
  · exact fun none => nonempty (List.perm_nil.mp (none ▸ perm))
  · exact fun request member => pass request (perm.mem_iff.mpr member)
  · exact (perm.map _).nodup_iff.mp distinct

namespace Issuance

/-- Grants that can be matched can be matched in every order, and they are the same grants. -/
theorem reassociate_perm {correlation : CorrelationId} {expected others : List String}
    (perm : expected.Perm others) {grants matched : List SignedGrant}
    (given : reassociate correlation expected grants = .ok matched)
    : ∃ matched',
        reassociate correlation others grants = .ok matched' ∧ matched.Perm matched' := by
  obtain ⟨once, rfl, same⟩ := reassociate_eq_ok_iff.mp given
  obtain ⟨matched', named, same'⟩ := exists_matched perm
  exact ⟨matched', reassociate_eq_ok_iff.mpr ⟨perm.nodup_iff.mp once, named, same'.trans same⟩,
    same'.symm⟩

end Issuance

-----------------------------------------------------------------------------------------
-- Outcomes in two orders
-----------------------------------------------------------------------------------------

/-- A part of a list in its order is what the list has of the same part in another order. -/
theorem filter_eq_filter_mem {α : Type} [DecidableEq α] {all part : List α} {keep : α → Bool}
    (perm : part.Perm (all.filter keep))
    : all.filter keep = all.filter (· ∈ part) := by
  refine List.filter_congr fun name member => ?_
  simp only [perm.mem_iff, List.mem_filter, member, true_and, Bool.decide_eq_true]

/-- Failures that are alike name the same identifiers. -/
theorem PartitionFailure.Alike.named {failures others : List PartitionFailure}
    (alike : List.Forall₂ PartitionFailure.Alike failures others)
    : (failures.flatMap (·.identifiers)).Perm (others.flatMap (·.identifiers)) := by
  induction alike with
  | nil => exact .nil
  | cons first _ ih => exact first.identifiers.append ih

/-- A batch is another one for requests in some order: what is issued is the same, in that order,
and the failures are the same but for the order of their identifiers.
-/
structure UploadBatch.Reorders (batch other : UploadBatch) (requests : List UploadRequest)
    : Prop where
  issued : batch.issued.Perm other.issued
  order
    : batch.issued.map (·.identifier)
      = (UploadRequest.identifiers requests).filter (· ∈ other.issued.map (·.identifier))
  failures : List.Forall₂ PartitionFailure.Alike other.failures batch.failures

namespace Broker

variable {σ : Type} {broker : Broker σ} {correlation : CorrelationId}

/-- What can be issued in one order can be issued in every order. -/
theorem issueOutcome_reorders {now : Moment} {category : Category}
    {requests others : List UploadRequest} (perm : requests.Perm others)
    {outcome other : BatchOutcome} (alike : outcome.Alike other) {result : UploadBatch}
    (issued
      : broker.issueOutcome correlation now (requests.map (·.enriched category)) outcome
        = .ok result)
    : ∃ result',
        broker.issueOutcome correlation now (others.map (·.enriched category)) other
          = .ok result'
        ∧ result'.Reorders result others := by
  obtain ⟨grants, matched, rest⟩ := Traversal.bind_eq_ok_iff.mp issued
  obtain ⟨entries, verified, same⟩ := Traversal.bind_eq_ok_iff.mp rest
  obtain rfl := Except.ok.inj same
  have expected
      : (((requests.map (·.enriched category)).map (·.identifier)).filter
          (!(outcome.failures.flatMap (·.identifiers)).contains ·)).Perm
        (((others.map (·.enriched category)).map (·.identifier)).filter
          (!(other.failures.flatMap (·.identifiers)).contains ·)) := by
    simp only [List.contains_eq_mem, (PartitionFailure.Alike.named alike.failures).mem_iff]
    exact ((perm.map _).map _).filter _
  obtain ⟨grants', matched', kept⟩ := Issuance.reassociate_perm expected (alike.grants ▸ matched)
  obtain ⟨entries', verified', same⟩ := Traversal.mapM_perm kept verified
  have issued' : broker.issueOutcome correlation now (others.map (·.enriched category)) other
      = .ok ⟨entries', other.failures⟩ :=
    Traversal.bind_eq_ok_iff.mpr
      ⟨grants', matched', Traversal.bind_eq_ok_iff.mpr ⟨entries', verified', rfl⟩⟩
  obtain ⟨_, order, _⟩ := issueOutcome_ok issued'
  rw [List.map_map] at order
  refine ⟨_, issued', same.symm, order.trans (filter_eq_filter_mem ?_), alike.failures⟩
  exact order ▸ same.map _

/-- Grants are requested alike for a batch in two orders. -/
theorem requestGrants_alike {answers : String → Nat → UploadAnswer} {state : σ}
    (inTurn : broker.authority.AnswersInTurn correlation answers state)
    {batch other : List EnrichedRequest} (perm : batch.Perm other) (nonempty : batch ≠ [])
    (start : Nat)
    : EndsAlike BatchOutcome.Alike ((broker.requestGrants correlation batch).runAt start state)
        ((broker.requestGrants correlation other).runAt start state) := by
  have served
      : (broker.setting correlation).authority.AnswersInTurn
          (broker.setting correlation).correlation answers state :=
    inTurn
  cases mode : broker.batchMode with
  | partialSuccess =>
      have same := requestGrants_of_partialSuccess mode correlation
      rw [same, same]
      exact Dispatch.requestPartial_alike served perm nonempty start
  | failFast =>
      have same := requestGrants_of_failFast mode correlation
      obtain ⟨elapsed, calls, ends⟩ := Dispatch.requestAll_alike served perm nonempty start
      rw [same, same, Operation.runAt_bind_ofResult, Operation.runAt_bind_ofResult]
      refine ⟨elapsed, calls, ?_⟩
      rcases ends with ⟨fault, failed, failed'⟩ | ⟨grants, _, given, given', rfl⟩
      · rw [failed, failed']
        exact .inl ⟨fault, rfl, rfl⟩
      · rw [given, given']
        exact .inr ⟨_, _, rfl, rfl, rfl, .nil⟩

/-- Requests in two orders are either refused in both, before any call, or issued in both, each in
its order, from the grants that are requested for them.
-/
theorem issueUploads_orders (broker : Broker σ) (correlation : CorrelationId) (clock : Clock)
    (category : Category) {requests others : List UploadRequest} (perm : requests.Perm others)
    (start : Nat) (state : σ)
    : let ended (requests : List UploadRequest) :=
        (broker.issueUploads correlation clock category requests).runAt start state
      let refused (fault : Fault) : Ended σ Empty (Except Fault UploadBatch) :=
        (Operation.ofResult (.error fault)).runAt start state
      let issued (requests : List UploadRequest) :=
        let batch := requests.map (·.enriched category)
        broker.issuedFrom correlation clock start batch
          ((broker.requestGrants correlation batch).runAt start state)
      (∃ fault fault', ended requests = refused fault ∧ ended others = refused fault')
      ∨ (requests ≠ [] ∧ ended requests = issued requests ∧ ended others = issued others) := by
  intro ended refused issued
  have rejected {requests : List UploadRequest} {fault : Fault}
      (checked : Enrichment.enrich category requests = .error fault)
      : ended requests = refused fault := by
    simp only [ended, broker.issueUploads_of_refused correlation clock checked, refused]
  have accepted {requests : List UploadRequest} {batch : List EnrichedRequest}
      (checked : Enrichment.enrich category requests = .ok batch)
      : ended requests = issued requests := by
    obtain ⟨_, _, _, rfl⟩ := Enrichment.enrich_eq_ok_iff.mp checked
    exact broker.issueUploads_of_enriched broker.batchMode correlation clock checked start state
  cases checked : Enrichment.enrich category requests with
  | ok batch =>
      obtain ⟨batch', checked', _⟩ := Enrichment.enrich_perm perm checked
      obtain ⟨nonempty, _⟩ := Enrichment.enrich_eq_ok_iff.mp checked
      exact .inr ⟨nonempty, accepted checked, accepted checked'⟩
  | error fault =>
      cases checked' : Enrichment.enrich category others with
      | ok batch' =>
          obtain ⟨batch, passed, _⟩ := Enrichment.enrich_perm perm.symm checked'
          cases checked.symm.trans passed
      | error fault' => exact .inl ⟨fault, fault', rejected checked, rejected checked'⟩

/-- Where an authority answers in turn, requests in two orders take as long and make the same
calls, and what is issued in one order is issued in the other.
-/
theorem issueUploads_alike {answers : String → Nat → UploadAnswer} {state : σ}
    (inTurn : broker.authority.AnswersInTurn correlation answers state) (clock : Clock)
    (category : Category) {requests others : List UploadRequest} (perm : requests.Perm others)
    (start : Nat)
    : let ended := (broker.issueUploads correlation clock category requests).runAt start state
      let ended' := (broker.issueUploads correlation clock category others).runAt start state
      ended.elapsed = ended'.elapsed
      ∧ AlikeLogs ended.calls ended'.calls
      ∧ ∀ result,
          ended.value = .ok result
          → ∃ result', ended'.value = .ok result' ∧ result'.Reorders result others := by
  rcases broker.issueUploads_orders correlation clock category perm start state with
    ⟨fault, fault', refused, refused'⟩ | ⟨nonempty, issued, issued'⟩
  · dsimp only at refused refused' ⊢
    rw [refused, refused']
    exact ⟨rfl, .nil, nofun⟩
  · have batches : (requests.map (·.enriched category)).Perm (others.map (·.enriched category)) :=
      perm.map _
    have alike := requestGrants_alike inTurn batches (by simpa using nonempty) start
    dsimp only at issued issued' ⊢
    rw [issued, issued']
    refine ⟨alike.elapsed, alike.calls, fun result given => ?_⟩
    obtain ⟨outcome, obtained, entries⟩ := Traversal.bind_eq_ok_iff.mp given
    rcases alike.value with ⟨fault, failed, _⟩ | ⟨_, other, own, obtained', same⟩
    · exact nomatch failed.symm.trans obtained
    · obtain rfl := Except.ok.inj (own.symm.trans obtained)
      obtain ⟨result', entries', reorders⟩ := issueOutcome_reorders perm same entries
      -- the grants of both orders are judged at the same moment
      rw [alike.elapsed] at entries'
      exact ⟨result', Traversal.bind_eq_ok_iff.mpr ⟨other, obtained', entries'⟩, reorders⟩

/-- The order of requests does not matter to issuance. Where an authority answers requests for
uploads by their content type and number only, uploads are issued in one order exactly if they
are in every other. Then the same grants and objects are issued to the same identifiers, in the
order of the requests, and the failures are the same but for the order of their identifiers. In
any case all takes as long and the calls are the same, at the same times, but for the order of
their descriptors.
-/
theorem issueUploads_reorders (broker : Broker σ) (correlation : CorrelationId)
    {answers : String → Nat → UploadAnswer} {state : σ}
    (inTurn : broker.authority.AnswersInTurn correlation answers state) (clock : Clock)
    (category : Category) {requests others : List UploadRequest} (perm : requests.Perm others)
    (start : Nat)
    : let ended := (broker.issueUploads correlation clock category requests).runAt start state
      let ended' := (broker.issueUploads correlation clock category others).runAt start state
      ((∃ result', ended'.value = .ok result') ↔ ∃ result, ended.value = .ok result)
      ∧ (∀ result result',
          ended.value = .ok result
          → ended'.value = .ok result'
          → result'.Reorders result others)
      ∧ ended'.elapsed = ended.elapsed
      ∧ AlikeLogs ended.calls ended'.calls := by
  intro ended ended'
  obtain ⟨elapsed, calls, onwards⟩ := issueUploads_alike inTurn clock category perm start
  obtain ⟨_, _, backwards⟩ := issueUploads_alike inTurn clock category perm.symm start
  refine ⟨⟨?_, ?_⟩, ?_, elapsed.symm, calls⟩
  · rintro ⟨result', given'⟩
    obtain ⟨result, given, _⟩ := backwards result' given'
    exact ⟨result, given⟩
  · rintro ⟨result, given⟩
    obtain ⟨result', given', _⟩ := onwards result given
    exact ⟨result', given'⟩
  · intro result result' given given'
    obtain ⟨found, issued', reorders⟩ := onwards result given
    exact Except.ok.inj (given'.symm.trans issued') ▸ reorders

/-- A grant for another request of the same content type. -/
def secondGrant : SignedGrant :=
  { rehearsedGrant with identifier := "c", signedUrl := "https://put/c" }

/-- An authority with grants for one of two content types. -/
def rehearsedGrants : Script where
  uploads := [(ContentType.png, [{ answer := .ok [rehearsedGrant, secondGrant] }])]

/-- Two requests of either content type. -/
def pairedRequests : List UploadRequest :=
  ⟨"c", "c.png", ContentType.png, false, none⟩ :: rehearsedRequests
    ++ [⟨"d", "d.jpg", ContentType.jpeg, false, none⟩]

/-- What becomes of them, in the orders of the identifiers that are issued and that fail. -/
def pairedBatch (issued : List SignedGrant) (failed : List String) : UploadBatch where
  issued := issued.map fun grant => ⟨grant.identifier, grant, ⟨"o"⟩⟩
  failures :=
    [⟨ContentType.jpeg, failed, .unavailable ⟨.bulkUpload, .nil⟩ (.stated "unscripted")⟩]

/-- Backwards the requests are issued the same grants backwards, and fail backwards. -/
theorem issueUploads_reorders_backwards
    : rehearsed.authority.AnswersInTurn .nil (rehearsedGrants.uploadAnswers .nil) rehearsedGrants
      ∧ pairedRequests.Perm pairedRequests.reverse
      ∧ ((rehearsed.issueUploads .nil (.still ⟨0, 0⟩ 0) .image pairedRequests).runAt 0
          rehearsedGrants).value
        = .ok (pairedBatch [secondGrant, rehearsedGrant] ["b", "d"])
      ∧ ((rehearsed.issueUploads .nil (.still ⟨0, 0⟩ 0) .image pairedRequests.reverse).runAt 0
          rehearsedGrants).value
        = .ok (pairedBatch [rehearsedGrant, secondGrant] ["d", "b"])
      ∧ (pairedBatch [rehearsedGrant, secondGrant] ["d", "b"]).Reorders
          (pairedBatch [secondGrant, rehearsedGrant] ["b", "d"]) pairedRequests.reverse := by
  have inTurn := Script.authority_answersInTurn .nil rehearsedGrants
  have perm := (List.reverse_perm pairedRequests).symm
  have same := issueUploads_reorders rehearsed .nil inTurn (.still ⟨0, 0⟩ 0) .image perm 0
  exact ⟨inTurn, perm, rfl, rfl, same.2.1 _ _ rfl rfl⟩

end Broker

end ObjectGrants
