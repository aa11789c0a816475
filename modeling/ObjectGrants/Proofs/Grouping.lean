import Mathlib.Data.List.Sort
import ObjectGrants.Proofs.ByteOrder
import ObjectGrants.Proofs.Enrichment

/-! Groups of a batch on their own. A batch determines its groups, and the order of the batch
decides nothing but the order within each of them. The groups one behind the other are a batch
again, with the same groups.
-/

namespace ObjectGrants

/-- The order of a batch does not change which requests there are for a content type. -/
theorem EnrichedRequest.ofType_perm {batch other : List EnrichedRequest}
    (perm : batch.Perm other) (key : String)
    : (ofType key batch).Perm (ofType key other) :=
  perm.filter _

/-- Of the requests for one content type all are for that one and none for another. -/
theorem EnrichedRequest.ofType_ofType (key contentType : String) (batch : List EnrichedRequest)
    : ofType key (ofType contentType batch)
      = if contentType = key then ofType key batch else [] := by
  unfold ofType
  rw [List.filter_filter]
  split
  · next same =>
      subst same
      simp only [Bool.and_self]
  · next other =>
      refine List.filter_eq_nil_iff.mpr fun request _ both => other ?_
      obtain ⟨own, foreign⟩ := Bool.and_eq_true_iff.mp both
      exact (eq_of_beq foreign).symm.trans (eq_of_beq own)

namespace Partition

-----------------------------------------------------------------------------------------
-- Divisions are determined
-----------------------------------------------------------------------------------------

/-- Batches with requests for the same content types are divided by the same content types. -/
theorem Divides.keys_eq {batch other : List EnrichedRequest} {keys keys' : List String}
    {groups groups' : Partition} (divides : Divides batch keys groups)
    (divides' : Divides other keys' groups')
    (same : ∀ request, request ∈ batch ↔ request ∈ other)
    : keys = keys' := by
  refine divides.ascending.eq_of_mem_iff divides'.ascending fun key => ?_
  rw [divides.present, divides'.present]
  exact exists_congr fun request => and_congr_left' (same request)

/-- The order of a batch does not change its content types. -/
theorem keys_eq_of_perm {batch other : List EnrichedRequest} (perm : batch.Perm other)
    : (ofBatch batch).map (·.1) = (ofBatch other).map (·.1) :=
  (ofBatch_keys batch).keys_eq (ofBatch_keys other) fun _ => perm.mem_iff

/-- A batch has no groups but those it is divided into. -/
theorem Divides.eq_ofBatch {batch : List EnrichedRequest} {keys : List String}
    {groups : Partition} (divides : Divides batch keys groups)
    : groups = ofBatch batch := by
  have same := divides.keys_eq (ofBatch_keys batch) fun _ => Iff.rfl
  rw [divides.groups_eq, same, ← (ofBatch_keys batch).groups_eq]

/-- Of groups one behind the other, the requests for one of their content types are those of its
group. Witness: induction on the content types; each has one group at most.
-/
theorem ofType_flatMap_group (batch : List EnrichedRequest) (key : String)
    {keys : List String} (distinct : keys.Nodup)
    : EnrichedRequest.ofType key ((keys.map (group batch)).flatMap (·.2))
      = if key ∈ keys then EnrichedRequest.ofType key batch else [] := by
  induction keys with
  | nil => rfl
  | cons first rest ih =>
      obtain ⟨fresh, distinct⟩ := List.nodup_cons.mp distinct
      have parts
          : EnrichedRequest.ofType key (((first :: rest).map (group batch)).flatMap (·.2))
            = EnrichedRequest.ofType key (EnrichedRequest.ofType first batch)
              ++ EnrichedRequest.ofType key ((rest.map (group batch)).flatMap (·.2)) :=
        List.filter_append ..
      rw [parts, ih distinct, EnrichedRequest.ofType_ofType]
      by_cases own : first = key
      · subst own
        simp [fresh]
      · simp [own, Ne.symm own]

/-- The groups of a batch are also those of the batch that they make up one behind the other. -/
theorem divides_flatMap (batch : List EnrichedRequest)
    : Divides ((ofBatch batch).flatMap (·.2)) ((ofBatch batch).map (·.1)) (ofBatch batch) := by
  obtain ⟨ascending, present, groups_eq⟩ := ofBatch_keys batch
  have distinct : ((ofBatch batch).map (·.1)).Nodup := ascending.imp ne_of_lt
  refine ⟨ascending, fun key => ?_, ?_⟩
  · rw [present]
    exact exists_congr fun request => and_congr_left' (ofBatch_perm batch).mem_iff.symm
  · refine groups_eq.trans (List.map_congr_left fun key member => ?_)
    have own := ofType_flatMap_group batch key distinct
    rw [if_pos member, ← groups_eq] at own
    exact congrArg (key, ·) own.symm

-----------------------------------------------------------------------------------------
-- Groups of every batch
-----------------------------------------------------------------------------------------

/-- A batch is grouped by content type: the content types are those of its requests, each of them
once and in the order of their bytes, and the group of each is what the batch has for it, in the
order of the batch.
-/
structure Groups (batch : List EnrichedRequest) (groups : Partition) : Prop where
  ascending
    : groups.Pairwise fun first second => Text.Utf8.encode first.1 < Text.Utf8.encode second.1
  present
    : ∀ contentType,
        (∃ group ∈ groups, group.1 = contentType)
        ↔ ∃ request ∈ batch, request.contentType = contentType
  nonempty : ∀ group ∈ groups, group.2 ≠ []
  own : ∀ group ∈ groups, group.2 = batch.filter (·.contentType == group.1)
  once : (groups.flatMap (·.2)).Perm batch

/-- Two divisions have the same content types, and the same requests for each of them. -/
abbrev Reordered (groups others : Partition) : Prop :=
  List.Forall₂ (fun group other => group.1 = other.1 ∧ group.2.Perm other.2) groups others

theorem ofBatch_groups (batch : List EnrichedRequest) : Groups batch (ofBatch batch) := by
  obtain ⟨ascending, present, groups_eq⟩ := ofBatch_keys batch
  have grouped : ∀ group ∈ ofBatch batch,
      group.2 = batch.filter (·.contentType == group.1) := by
    rw [groups_eq]
    intro group member
    obtain ⟨key, _, rfl⟩ := List.mem_map.mp member
    rfl
  refine ⟨?_, fun key => ?_, fun group member empty => ?_, grouped, ofBatch_perm batch⟩
  · exact (List.pairwise_map.mp ascending).imp Text.Utf8.encode_lt_encode
  · rw [← present, List.mem_map]
  · obtain ⟨request, among, own⟩ := (present _).mp (List.mem_map_of_mem member)
    have absent := List.filter_eq_nil_iff.mp ((grouped group member).symm.trans empty)
    exact absent request among (beq_iff_eq.mpr own)

/-- Batches with the same requests in two orders have the same groups in two orders. -/
theorem ofBatch_reordered {batch other : List EnrichedRequest} (perm : batch.Perm other)
    : Reordered (ofBatch batch) (ofBatch other) := by
  rw [(ofBatch_keys batch).groups_eq, (ofBatch_keys other).groups_eq, keys_eq_of_perm perm,
    Reordered, List.forall₂_map_left_iff, List.forall₂_map_right_iff, List.forall₂_same]
  exact fun key _ => ⟨rfl, EnrichedRequest.ofType_perm perm key⟩

/-- Division by content type is a grouping that keeps the order within each group and loses or
repeats nothing. A batch in another order has the same content types, with each group in another
order, and the groups of a batch one behind the other are divided into the same groups again.
-/
theorem ofBatch_stable (batch : List EnrichedRequest)
    : Groups batch (ofBatch batch)
      ∧ (∀ other, batch.Perm other → Reordered (ofBatch batch) (ofBatch other))
      ∧ ofBatch ((ofBatch batch).flatMap (·.2)) = ofBatch batch :=
  ⟨ofBatch_groups batch, fun _ perm => ofBatch_reordered perm,
    (divides_flatMap batch).eq_ofBatch.symm⟩

end Partition

end ObjectGrants
