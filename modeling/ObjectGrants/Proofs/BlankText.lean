import Mathlib.Data.List.DropRight
import Mathlib.Data.List.TakeWhile
import ObjectGrants.Text.Blank

/-! Blank texts, and what trimming leaves of others: the part between the white space at their two
ends, which is not blank.
-/

namespace ObjectGrants.Text

/-- Trimming leaves nothing exactly of characters that are all blank. -/
theorem trimChars_eq_nil_iff (cs : List Char) : trimChars cs = [] ↔ ∀ c ∈ cs, isBlank c := by
  rw [trimChars, List.reverse_eq_nil_iff, List.dropWhile_eq_nil_iff]
  constructor
  · intro blank c member
    cases rest : cs.dropWhile isBlank with
    | nil => exact List.dropWhile_eq_nil_iff.mp rest c member
    | cons first _ =>
        -- The first character that is kept at the front is not blank.
        have head := List.head?_dropWhile_not isBlank cs
        rw [rest] at blank head
        have passes := blank first (by simp)
        simp [passes] at head
  · intro blank c member
    exact blank c ((List.dropWhile_sublist isBlank).subset (List.mem_reverse.mp member))

/-- A text is blank exactly if nothing is left of it when it is trimmed. -/
theorem isBlankText_iff_trim (text : String) : isBlankText text = true ↔ trim text = "" := by
  rw [isBlankText, List.all_eq_true, ← trimChars_eq_nil_iff, trim]
  exact (String.ofList_eq_empty_iff).symm

/-- A text that begins with one that is not blank is not blank. -/
theorem isBlankText_append {front : String} (filled : isBlankText front = false)
    (rest : String)
    : isBlankText (front ++ rest) = false := by
  unfold isBlankText at filled ⊢
  rw [String.toList_append, List.all_append, filled, Bool.false_and]

/-- `inner` is a text without the white space at its two ends. -/
structure Trims (text inner : String) : Prop where
  split
    : ∃ left right,
        text.toList = left ++ inner.toList ++ right
        ∧ (∀ c ∈ left, isBlank c)
        ∧ ∀ c ∈ right, isBlank c
  first : ∀ c ∈ inner.toList.head?, isBlank c = false
  last : ∀ c ∈ inner.toList.getLast?, isBlank c = false

/-- Trimming takes the white space from both ends. Witness: what is dropped in front and behind is
what is taken there, and what remains begins and ends with a character that is not.
-/
theorem trims_trim (text : String) : Trims text (trim text) := by
  let kept := text.toList.dropWhile isBlank
  have inner : (trim text).toList = kept.rdropWhile isBlank := String.toList_ofList
  refine ⟨⟨text.toList.takeWhile isBlank, kept.rtakeWhile isBlank, ?_, ?_, ?_⟩, ?_, ?_⟩
  · rw [inner, List.append_assoc, List.rdropWhile_append_rtakeWhile,
      List.takeWhile_append_dropWhile]
  · exact fun c => List.mem_takeWhile_imp
  · exact fun c => List.mem_rtakeWhile_imp
  · intro c first
    -- What is left begins as `kept` does, from which nothing was dropped but at the back.
    obtain ⟨rest, whole⟩ := List.rdropWhile_prefix isBlank kept
    have front : kept.head? = some c := by
      rw [← whole, ← inner, List.head?_append, Option.mem_def.mp first, Option.some_or]
    have head := List.head?_dropWhile_not isBlank text.toList
    rw [show (text.toList.dropWhile isBlank).head? = some c from front] at head
    simpa using head
  · intro c last
    rw [inner] at last
    obtain ⟨front, same⟩ := List.getLast?_eq_some_iff.mp last
    have nonempty : kept.rdropWhile isBlank ≠ [] := by simp [same]
    simpa [same] using List.rdropWhile_last_not isBlank kept nonempty

/-- Trimming leaves something that is not blank of every text that is not. -/
theorem isBlankText_trim {text : String} (filled : isBlankText text = false)
    : isBlankText (trim text) = false := by
  obtain ⟨left, right, split, before, behind⟩ := (trims_trim text).split
  rw [← Bool.not_eq_true, isBlankText, List.all_eq_true] at filled ⊢
  intro blank
  apply filled
  intro c member
  rw [split, List.mem_append, List.mem_append] at member
  rcases member with (front | middle) | back
  · exact before c front
  · exact blank c middle
  · exact behind c back

end ObjectGrants.Text
