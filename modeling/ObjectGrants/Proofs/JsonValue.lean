import ObjectGrants.Proofs.Traversal
import ObjectGrants.Proofs.WireRoundTrip

/-! Values that reading gives back unchanged. The passage from a document to a value bounds the
nesting and puts the members of every object in the order of their names; a value that is
ordered already and does not nest too deep passes as it is.
-/

namespace ObjectGrants.Json

open ObjectGrants.Json.Tree (embed embedItems embedMembers)

-----------------------------------------------------------------------------------------
-- Members in order
-----------------------------------------------------------------------------------------

/-- Members whose names ascend, so that no name is repeated. -/
def Ascending {α : Type} (members : List (String × α)) : Prop :=
  members.Pairwise fun early late => early.1 < late.1

/-- A member whose name is greater than all others takes the last place. -/
theorem Members.insert_of_greatest {α : Type} {name : String} {members : List (String × α)}
    (greatest : ∀ member ∈ members, member.1 < name) (value : α)
    : Members.insert name value members = members ++ [(name, value)] := by
  induction members with
  | nil => rfl
  | cons first members ih =>
      have below : first.1 < name := greatest first List.mem_cons_self
      have other : name ≠ first.1 := fun same => String.lt_irrefl name (same ▸ below)
      rw [Members.insert, if_neg (String.lt_asymm below), if_neg other,
        ih fun member later => greatest member (List.mem_cons_of_mem first later),
        List.cons_append]

/-- Members that ascend are in order, by induction on those that are not yet in place. -/
theorem Members.sorted_of_ascending {α : Type} {members : List (String × α)}
    (ascending : Ascending members)
    : Members.sorted members = members := by
  have place (done rest : List (String × α)) (ascending : Ascending (done ++ rest))
      : rest.foldl (fun done member => Members.insert member.1 member.2 done) done
        = done ++ rest := by
    induction rest generalizing done with
    | nil => rw [List.foldl_nil, List.append_nil]
    | cons member rest ih =>
        have greatest : ∀ other ∈ done, other.1 < member.1 := fun other before =>
          (List.pairwise_append.mp ascending).2.2 other before member List.mem_cons_self
        rw [List.foldl_cons, Members.insert_of_greatest greatest, ih _ (by simpa using ascending),
          List.append_assoc, List.singleton_append]
  exact place [] members ascending

/-- Of members that ascend, a name is given what it is found with. -/
theorem Record.given_of_ascending {members : List (String × Value)}
    (ascending : Ascending members) (name : String)
    : Record.given [name] (embedMembers members)
      = ((members.lookup name).map embed).toList := by
  induction members with
  | nil => rfl
  | cons member members ih =>
      obtain ⟨first, value⟩ := member
      obtain ⟨least, ascending⟩ := List.pairwise_cons.mp ascending
      have rest := ih ascending
      by_cases same : name = first
      · subst same
        have absent : members.lookup name = none := by
          rw [List.lookup_eq_none_iff]
          intro member later
          have above : name < member.1 := least member later
          exact bne_iff_ne.mpr fun same => String.lt_irrefl name (same ▸ above)
        simp [rest, absent]
      · simp [rest, Ne.symm same, List.lookup_cons, beq_eq_false_iff_ne.mpr same]

-----------------------------------------------------------------------------------------
-- Values in order
-----------------------------------------------------------------------------------------

/-- Values whose arrays and objects nest at most `depth` deep and whose objects are in order. -/
inductive Canonical : Nat → Value → Prop
  | null {depth : Nat} : Canonical depth .null
  | bool {depth : Nat} (value : Bool) : Canonical depth (.bool value)
  | number {depth : Nat} (value : Number) : Canonical depth (.number value)
  | string {depth : Nat} (text : String) : Canonical depth (.string text)
  | array {depth : Nat} {items : List Value} (within : ∀ item ∈ items, Canonical depth item)
    : Canonical (depth + 1) (.array items)
  | object {depth : Nat} {members : List (String × Value)} (ascending : Ascending members)
    (within : ∀ member ∈ members, Canonical depth member.2)
    : Canonical (depth + 1) (.object members)

theorem Canonical.ascending {depth : Nat} {members : List (String × Value)}
    (canonical : Canonical depth (.object members))
    : Ascending members := by
  cases canonical with
  | object ascending _ => exact ascending

theorem embedMembers_eq_map (members : List (String × Value))
    : (embedMembers members : List (String × Document))
      = members.map fun member => (member.1, embed member.2) := by
  induction members with
  | nil => rfl
  | cons member members ih =>
      rw [embedMembers, ih, List.map_cons]

/-- Reading gives a value back that is in order and does not nest too deep. Witness: induction
on the value; its items and members are read one by one, and its members need no sorting.
-/
theorem Canonical.valueWithin_embed {depth : Nat} {value : Value}
    (canonical : Canonical depth value)
    : Document.valueWithin depth (embed value) = some value := by
  induction canonical with
  | null => simp [embed, Document.valueWithin]
  | bool value => simp [embed, Document.valueWithin]
  | number value => simp [embed, Document.valueWithin]
  | string text => simp [embed, Document.valueWithin]
  | array _ ih =>
      rw [embed, embedItems_eq_map, Document.valueWithin, Traversal.mapM_map_eq_some ih,
        Option.map_some]
  | @object depth members ascending _ ih =>
      have read
          : (embedMembers members).mapM (fun member =>
              (Document.valueWithin depth member.2).map (member.1, ·))
            = some members := by
        rw [embedMembers_eq_map]
        exact Traversal.mapM_map_eq_some fun member among => by rw [ih member among]; rfl
      rw [embed, Document.valueWithin]
      change Option.bind ((embedMembers members).mapM _) _ = _
      rw [read, Option.bind_some, Members.sorted_of_ascending ascending]
      rfl

end ObjectGrants.Json
