import Mathlib.Data.List.Find
import Mathlib.Data.List.Nodup
import Mathlib.Data.List.Perm.Basic

/-! The last entry of a list with a name. A search from the back finds it, and it is the same in
lists that tell the same: entries with other names do not count, and the order counts only where
a name is repeated.
-/

namespace ObjectGrants

variable {α : Type} {key : α → String} {entries others : List α} {name : String} {entry : α}

/-- `entry` is named `name`, and no entry behind it is. -/
def LastEntry (key : α → String) (entries : List α) (name : String) (entry : α) : Prop :=
  ∃ early late,
    entries = early ++ entry :: late
    ∧ key entry = name
    ∧ ∀ later ∈ late, key later ≠ name

namespace LastEntry

/-- The search from the back finds the last entry, by the first match in the reversed list. -/
theorem find?_reverse_eq_some_iff
    : entries.reverse.find? (key · == name) = some entry ↔ LastEntry key entries name entry := by
  unfold LastEntry
  rw [List.find?_eq_some_iff_append]
  constructor
  · intro holds
    obtain ⟨same, late, early, split, other⟩ := holds
    refine ⟨early.reverse, late.reverse, ?_, eq_of_beq same, ?_⟩
    · rw [← List.reverse_reverse entries, split]
      simp
    · intro later member
      simpa using other later (List.mem_reverse.mp member)
  · intro holds
    obtain ⟨early, late, rfl, same, other⟩ := holds
    refine ⟨beq_iff_eq.mpr same, late.reverse, early.reverse, by simp, ?_⟩
    intro later member
    simpa using other later (List.mem_reverse.mp member)

/-- Nothing is found exactly if no entry has the name. -/
theorem find?_reverse_eq_none_iff
    : entries.reverse.find? (key · == name) = none ↔ ∀ entry ∈ entries, key entry ≠ name := by
  simp

theorem mem (last : LastEntry key entries name entry) : entry ∈ entries := by
  obtain ⟨early, late, rfl, _, _⟩ := last
  simp

theorem named (last : LastEntry key entries name entry) : key entry = name := by
  obtain ⟨_, _, _, same, _⟩ := last
  exact same

/-- A name that some entry has has a last one. -/
theorem exists_of_mem (member : entry ∈ entries)
    : ∃ last, LastEntry key entries (key entry) last := by
  simp only [← find?_reverse_eq_some_iff, ← Option.isSome_iff_exists]
  rw [Option.isSome_iff_ne_none, Ne, find?_reverse_eq_none_iff]
  intro absent
  exact absent entry member rfl

/-- Where no name is repeated, every entry is the last one with its name. -/
theorem iff_of_nodup (distinct : (entries.map key).Nodup)
    : LastEntry key entries name entry ↔ entry ∈ entries ∧ key entry = name := by
  constructor
  · intro last
    exact ⟨last.mem, last.named⟩
  · intro holds
    obtain ⟨member, rfl⟩ := holds
    obtain ⟨other, last⟩ : ∃ last, LastEntry key entries (key entry) last :=
      exists_of_mem member
    have same := List.inj_on_of_nodup_map distinct last.mem member last.named
    exact same ▸ last

end LastEntry

/-- Two lists tell the same about `names`: they differ in entries with other names only, or in the
order of entries of which no two have one name.
-/
inductive TellsSame (key : α → String) (names : List String) (entries others : List α) : Prop
  | foreign (same : entries.filter (key · ∈ names) = others.filter (key · ∈ names))
  | reordered (perm : entries.Perm others) (distinct : (entries.map key).Nodup)

namespace TellsSame

variable {names : List String}

/-- Entries with other names are passed over by the search. -/
theorem find?_reverse_filter (member : name ∈ names)
    : (entries.filter (key · ∈ names)).reverse.find? (key · == name)
      = entries.reverse.find? (key · == name) := by
  rw [← List.filter_reverse, List.find?_filter]
  refine List.find?_congr fun entry _ => ?_
  by_cases same : key entry = name
  · simp [same, member]
  · simp [same]

/-- Lists that tell the same have the same last entry with each of the names. -/
theorem find?_reverse_eq (tells : TellsSame key names entries others) (member : name ∈ names)
    : entries.reverse.find? (key · == name) = others.reverse.find? (key · == name) := by
  cases tells with
  | foreign same => rw [← find?_reverse_filter member, same, find?_reverse_filter member]
  | reordered perm distinct =>
      apply Option.ext
      intro entry
      rw [LastEntry.find?_reverse_eq_some_iff, LastEntry.find?_reverse_eq_some_iff,
        LastEntry.iff_of_nodup distinct,
        LastEntry.iff_of_nodup ((perm.map key).nodup_iff.mp distinct), perm.mem_iff]

end TellsSame

end ObjectGrants
