import Mathlib.Data.List.Perm.Basic
import ObjectGrants.Enrichment
import ObjectGrants.Proofs.Traversal

/-! Checked batches and their division by content type. A batch that passes the checks has its
requests in order and no identifier twice. Its division has one group for each of its content
types, in ascending order, and nothing is lost, repeated or reordered within a group.
-/

namespace ObjectGrants

-----------------------------------------------------------------------------------------
-- Batches that pass
-----------------------------------------------------------------------------------------

/-- The limits of a request are made for its own content type, whatever their category. -/
@[simp]
theorem UploadRequest.enriched_contentType (category : Category) (request : UploadRequest)
    : (request.enriched category).contentType = request.contentType := by
  cases category <;> rfl

@[simp]
theorem UploadRequest.enriched_identifier (category : Category) (request : UploadRequest)
    : (request.enriched category).identifier = request.identifier :=
  rfl

/-- Requests pass behind those with the identifiers `seen` exactly if each passes on its own
and no identifier is there already, and then they keep their order. Witness: induction on the
requests; the identifier of each is seen by all behind it.
-/
theorem Enrichment.enrichAfter_eq_ok_iff {category : Category} {seen : List String}
    {requests : List UploadRequest} {batch : List EnrichedRequest}
    : enrichAfter category seen requests = .ok batch
      ↔ (∀ request ∈ requests, request.check category = .ok ())
        ∧ (∀ request ∈ requests, request.identifier ∉ seen)
        ∧ (requests.map (·.identifier)).Nodup
        ∧ batch = requests.map (·.enriched category) := by
  induction requests generalizing seen batch with
  | nil => simp [enrichAfter, eq_comm]
  | cons request rest ih =>
      rw [enrichAfter, Traversal.bind_eq_ok_iff]
      by_cases repeated : request.identifier ∈ seen
      · simp [repeated]
      · simp only [List.contains_iff_mem, repeated, if_false, Traversal.bind_eq_ok_iff, ih]
        constructor
        · intro holds
          obtain ⟨_, passes, following, ⟨pass, unseen, distinct, rfl⟩, same⟩ := holds
          obtain rfl := Except.ok.inj same
          refine ⟨List.forall_mem_cons.mpr ⟨passes, pass⟩,
            List.forall_mem_cons.mpr ⟨repeated, ?_⟩, List.nodup_cons.mpr ⟨?_, distinct⟩, rfl⟩
          · exact fun other member seen => unseen other member (List.mem_cons_of_mem _ seen)
          · intro member
            obtain ⟨other, member, same⟩ := List.mem_map.mp member
            exact unseen other member (same ▸ List.mem_cons_self)
        · intro holds
          obtain ⟨pass, unseen, distinct, rfl⟩ := holds
          obtain ⟨fresh, distinct⟩ := List.nodup_cons.mp distinct
          refine ⟨(), pass request List.mem_cons_self, rest.map (·.enriched category),
            ⟨fun other member => pass other (List.mem_cons_of_mem _ member), ?_, distinct,
              rfl⟩, rfl⟩
          intro other member known
          rcases List.mem_cons.mp known with same | seen
          · exact fresh (List.mem_map.mpr ⟨other, member, same⟩)
          · exact unseen other (List.mem_cons_of_mem _ member) seen

/-- What a batch passes with: at least one request, each of them sound, none named twice. -/
theorem Enrichment.enrich_eq_ok_iff {category : Category} {requests : List UploadRequest}
    {batch : List EnrichedRequest}
    : enrich category requests = .ok batch
      ↔ requests ≠ []
        ∧ (∀ request ∈ requests, request.check category = .ok ())
        ∧ (requests.map (·.identifier)).Nodup
        ∧ batch = requests.map (·.enriched category) := by
  unfold enrich
  cases requests with
  | nil => simp
  | cons request rest => simp [enrichAfter_eq_ok_iff]

-----------------------------------------------------------------------------------------
-- Groups of a batch
-----------------------------------------------------------------------------------------

/-- The requests of a batch for one content type, in the order of the batch. -/
def EnrichedRequest.ofType (contentType : String) (batch : List EnrichedRequest)
    : List EnrichedRequest :=
  batch.filter (·.contentType == contentType)

namespace Partition

/-- The group of a batch for a content type. -/
def group (batch : List EnrichedRequest) (contentType : String)
    : String × List EnrichedRequest :=
  (contentType, EnrichedRequest.ofType contentType batch)

/-- `contentTypes` are those of a batch, each of them once and in ascending order, and the
groups are those of the batch for them.
-/
structure Divides (batch : List EnrichedRequest) (contentTypes : List String)
    (groups : Partition)
    : Prop where
  ascending : contentTypes.Pairwise (· < ·)
  present
    : ∀ contentType,
        contentType ∈ contentTypes ↔ ∃ request ∈ batch, request.contentType = contentType
  groups_eq : groups = contentTypes.map (group batch)

theorem group_append_own (batch : List EnrichedRequest) (request : EnrichedRequest)
    : group (batch ++ [request]) request.contentType
      = (request.contentType,
          EnrichedRequest.ofType request.contentType batch ++ [request]) := by
  simp [group, EnrichedRequest.ofType]

theorem group_append_other {batch : List EnrichedRequest} {request : EnrichedRequest}
    {contentType : String} (other : request.contentType ≠ contentType)
    : group (batch ++ [request]) contentType = group batch contentType := by
  simp [group, EnrichedRequest.ofType, other]

/-- The content types of a batch with that of one more request, in ascending order. -/
def withType (contentType : String) : List String → List String
  | [] => [contentType]
  | first :: rest =>
      if contentType < first then contentType :: first :: rest
      else if contentType = first then first :: rest
      else first :: withType contentType rest

/-- The content types are those that were there and the one of the request. -/
theorem mem_withType {added contentType : String} {contentTypes : List String}
    : contentType ∈ withType added contentTypes
      ↔ contentType = added ∨ contentType ∈ contentTypes := by
  induction contentTypes with
  | nil => simp [withType]
  | cons first rest ih =>
      unfold withType
      split
      · simp
      · split
        · next own => simp [own]
        · simp only [List.mem_cons, ih]
          tauto

/-- A content type that is neither before another nor the same is behind it. -/
theorem behind_of_not_lt {added first : String} (before : ¬ added < first)
    (own : added ≠ first)
    : first < added :=
  String.not_le.mp fun reverse => own (String.le_antisymm reverse (String.not_lt.mp before))

/-- The content types stay in ascending order, each of them once, by induction on them. -/
theorem withType_ascending {added : String} {contentTypes : List String}
    (ascending : contentTypes.Pairwise (· < ·))
    : (withType added contentTypes).Pairwise (· < ·) := by
  induction contentTypes with
  | nil => simp [withType]
  | cons first rest ih =>
      obtain ⟨least, ordered⟩ := List.pairwise_cons.mp ascending
      unfold withType
      split
      · next before =>
          refine List.pairwise_cons.mpr ⟨?_, ascending⟩
          intro contentType member
          rcases List.mem_cons.mp member with same | later
          · exact same ▸ before
          · exact String.lt_trans before (least _ later)
      · next before =>
          split
          · exact ascending
          · next own =>
              refine List.pairwise_cons.mpr ⟨?_, ih ordered⟩
              intro contentType member
              rcases mem_withType.mp member with same | later
              · exact same ▸ behind_of_not_lt before own
              · exact least _ later

/-- The groups stay those of the batch when a request is added to both. Witness: induction on
the content types; `fresh` says that a content type without a place has no requests yet.
-/
theorem add_groups {batch : List EnrichedRequest} {request : EnrichedRequest}
    {contentTypes : List String} (ascending : contentTypes.Pairwise (· < ·))
    (fresh
      : request.contentType ∉ contentTypes
        → EnrichedRequest.ofType request.contentType batch = [])
    : add request (contentTypes.map (group batch))
      = (withType request.contentType contentTypes).map (group (batch ++ [request])) := by
  induction contentTypes with
  | nil => simp [add, withType, group_append_own, fresh (by simp)]
  | cons first rest ih =>
      obtain ⟨least, ordered⟩ := List.pairwise_cons.mp ascending
      have others (unlike : ∀ contentType ∈ rest, request.contentType ≠ contentType)
          : rest.map (group (batch ++ [request])) = rest.map (group batch) :=
        List.map_congr_left fun contentType member => group_append_other (unlike _ member)
      simp only [List.map_cons, group, add, withType]
      split
      · next before =>
          have unlike (contentType : String) (member : contentType ∈ first :: rest)
              : request.contentType ≠ contentType := by
            intro same
            rcases List.mem_cons.mp member with own | later
            · exact String.lt_irrefl _ (own ▸ same ▸ before)
            · exact String.lt_irrefl _ (same ▸ String.lt_trans before (least _ later))
          rw [List.map_cons, List.map_cons, group_append_own,
            group_append_other (unlike first (by simp)),
            others fun contentType member => unlike _ (by simp [member]),
            fresh fun member => unlike _ member rfl]
          rfl
      · split
        · next own =>
            subst own
            rw [List.map_cons, group_append_own,
              others fun contentType member same => String.lt_irrefl _ (same ▸ least _ member)]
        · next own =>
            rw [List.map_cons, group_append_other own]
            exact congrArg _ (ih ordered fun absent =>
              fresh fun member => (List.mem_cons.mp member).elim own absent)

/-- The division of a batch stays one when a request is added to both. -/
theorem Divides.add {batch : List EnrichedRequest} {contentTypes : List String}
    {groups : Partition} (divides : Divides batch contentTypes groups)
    (request : EnrichedRequest)
    : ∃ more, Divides (batch ++ [request]) more (Partition.add request groups) := by
  obtain ⟨ascending, present, rfl⟩ := divides
  have fresh (absent : request.contentType ∉ contentTypes)
      : EnrichedRequest.ofType request.contentType batch = [] := by
    refine List.filter_eq_nil_iff.mpr fun other member same => ?_
    exact absent ((present _).mpr ⟨other, member, eq_of_beq same⟩)
  refine ⟨withType request.contentType contentTypes, withType_ascending ascending,
    fun contentType => ?_, add_groups ascending fresh⟩
  rw [mem_withType, present]
  simp only [List.mem_append, List.mem_singleton, or_and_right, exists_or, exists_eq_left]
  exact or_comm.trans (or_congr_right eq_comm)

/-- A batch is divided into the groups of its content types, by induction on the requests that
are still to be added.
-/
theorem ofBatch_divides (batch : List EnrichedRequest)
    : ∃ contentTypes, Divides batch contentTypes (ofBatch batch) := by
  have onwards (rest done : List EnrichedRequest) (contentTypes : List String)
      (groups : Partition) (divides : Divides done contentTypes groups)
      : ∃ more,
          Divides (done ++ rest) more
            (rest.foldl (fun groups request => add request groups) groups) := by
    induction rest generalizing done contentTypes groups with
    | nil => exact ⟨contentTypes, by simpa using divides⟩
    | cons request rest ih =>
        obtain ⟨more, divides⟩ := divides.add request
        simpa using ih (done ++ [request]) more _ divides
  exact onwards batch [] [] [] ⟨List.Pairwise.nil, by simp, rfl⟩

/-- The content types of a batch are the keys of its groups. -/
theorem ofBatch_keys (batch : List EnrichedRequest)
    : Divides batch ((ofBatch batch).map (·.1)) (ofBatch batch) := by
  obtain ⟨contentTypes, divides⟩ := ofBatch_divides batch
  have same : (ofBatch batch).map (·.1) = contentTypes := by
    rw [divides.groups_eq, List.map_map]
    exact List.map_id contentTypes
  exact same ▸ divides

/-- Adding a request to the groups adds that request and nothing else, by induction on them. -/
theorem add_perm (request : EnrichedRequest) (groups : Partition)
    : ((add request groups).flatMap (·.2)).Perm (request :: groups.flatMap (·.2)) := by
  induction groups with
  | nil => exact List.Perm.refl _
  | cons first rest ih =>
      obtain ⟨contentType, requests⟩ := first
      simp only [add]
      split
      · exact List.Perm.refl _
      · split
        · simp
        · exact (ih.append_left requests).trans List.perm_middle

/-- The groups hold the requests of the batch, each as often as it is in the batch. -/
theorem ofBatch_perm (batch : List EnrichedRequest)
    : ((ofBatch batch).flatMap (·.2)).Perm batch := by
  have onwards (groups : Partition)
      : ((batch.foldl (fun groups request => add request groups) groups).flatMap (·.2)).Perm
          (groups.flatMap (·.2) ++ batch) := by
    induction batch generalizing groups with
    | nil => simp
    | cons request rest ih =>
        calc
          List.Perm _ ((add request groups).flatMap (·.2) ++ rest) := ih (add request groups)
          List.Perm _ ((request :: groups.flatMap (·.2)) ++ rest) :=
            (add_perm request groups).append_right rest
          List.Perm _ (groups.flatMap (·.2) ++ request :: rest) := List.perm_middle.symm
  exact onwards []

end Partition

end ObjectGrants
