import Mathlib.Data.List.Basic
import Mathlib.Data.Nat.Bitwise
import ObjectGrants.Text.Case

/-! Upper-casing a text and disregarding its letter case.

Upper-casing changes no character that it produces, so it can be repeated without effect, and
texts that differ in the case of ASCII letters alone have one upper-case form. The other way
round this fails: beyond the ASCII letters only a character that is its own upper-case form
survives.
-/

namespace ObjectGrants.Text

open CaseTable

-----------------------------------------------------------------------------------------
-- The table of upper-case forms
-----------------------------------------------------------------------------------------

/-- The code points of a run, in order. -/
def CaseTable.Shift.codes (shift : Shift) : List Nat :=
  List.range' shift.first ((shift.last - shift.first) / shift.step + 1) shift.step

theorem CaseTable.Shift.mem_codes {shift : Shift} {code : Nat}
    (covered : shift.covers code = true)
    : code ∈ shift.codes := by
  simp only [Shift.covers, Bool.and_eq_true, decide_eq_true_eq, beq_iff_eq] at covered
  obtain ⟨⟨above, below⟩, whole⟩ := covered
  refine List.mem_range'.mpr ⟨(code - shift.first) / shift.step, ?_, ?_⟩
  · exact Nat.lt_succ_of_le (Nat.div_le_div_right (Nat.sub_le_sub_right below shift.first))
  · rw [Nat.mul_div_cancel' (Nat.dvd_of_mod_eq_zero whole), Nat.add_sub_cancel' above]

/-- The code points of the characters that upper-casing changes. -/
def upperSources : List Nat :=
  upperExpansions.map Prod.fst ++ upperShifts.flatMap Shift.codes

/-- The code points that upper-casing puts in their place. -/
def upperTargets : List Nat :=
  upperExpansions.flatMap Prod.snd
    ++ upperShifts.flatMap fun shift =>
        shift.codes.map fun code : Nat => (code + shift.delta).toNat

/-- A set of numbers as the bits of one number. -/
def bitsOf (codes : List Nat) : Nat :=
  codes.foldr (fun code rest => rest ||| 2 ^ code) 0

theorem testBit_bitsOf (codes : List Nat) (code : Nat)
    : (bitsOf codes).testBit code = true ↔ code ∈ codes := by
  induction codes with
  | nil => simp [bitsOf]
  | cons first rest ih =>
      simp only [bitsOf, List.foldr_cons] at ih ⊢
      rw [Nat.testBit_or, Bool.or_eq_true, ih, Nat.testBit_two_pow, decide_eq_true_eq,
        List.mem_cons, or_comm, eq_comm]

/-- Sets without a common bit have no common member. -/
theorem not_mem_of_bitsOf {left right : List Nat}
    (apart : bitsOf left &&& bitsOf right = 0) {code : Nat} (member : code ∈ left)
    : code ∉ right := by
  intro other
  have both := congrArg (·.testBit code) apart
  simp [Nat.testBit_and, (testBit_bitsOf _ _).mpr member, (testBit_bitsOf _ _).mpr other]
    at both

/-- What upper-casing puts in place of a character it leaves alone. Each set is one number
here, because a search for every single target in the table takes too long.
-/
theorem upperTargets_apart {code : Nat} (target : code ∈ 0 :: upperTargets)
    : code ∉ upperSources :=
  not_mem_of_bitsOf (by decide +kernel) target

theorem upperExpansions_ne_nil : ∀ entry ∈ upperExpansions, entry.2 ≠ [] := by
  decide +kernel

/-- All entries but the first run are about characters beyond ASCII. -/
theorem upperTable_beyond_ascii
    : ∀ code ∈ upperExpansions.map Prod.fst ++ upperShifts.tail.map Shift.first, 128 ≤ code := by
  decide +kernel

-----------------------------------------------------------------------------------------
-- Single characters
-----------------------------------------------------------------------------------------

/-- What becomes of a character: nothing, or it is one of those that change and so are none of
those that take its place.
-/
theorem upperForm_cases (c : Char)
    : upperForm c = [c]
      ∨ ∃ codes ≠ [], upperForm c = codes.map Char.ofNat
        ∧ ∀ code ∈ codes, code ∈ upperTargets := by
  rw [upperForm_eq]
  split
  case h_1 codes found =>
    obtain ⟨before, behind, same, -⟩ := List.lookup_eq_some_iff.mp found
    have member : (c.toNat, codes) ∈ upperExpansions := by simp [same]
    refine .inr ⟨codes, ?_, rfl, fun code inside => ?_⟩
    · exact upperExpansions_ne_nil _ member
    · exact List.mem_append_left _ (List.mem_flatMap.mpr ⟨_, member, inside⟩)
  case h_2 =>
    split
    case h_1 shift found =>
      refine .inr ⟨[(c.toNat + shift.delta).toNat], List.cons_ne_nil _ _, rfl, ?_⟩
      intro code inside
      obtain rfl := List.mem_singleton.mp inside
      have covered : shift.covers c.toNat = true := by simpa using List.find?_some found
      have target := List.mem_map_of_mem (f := fun code : Nat => (code + shift.delta).toNat)
        (Shift.mem_codes covered)
      exact List.mem_append_right _
        (List.mem_flatMap.mpr ⟨shift, List.mem_of_find?_eq_some found, target⟩)
    case h_2 => exact .inl rfl

/-- A character that is not in the table is its own upper-case form. -/
theorem upperForm_of_not_source {c : Char} (absent : c.toNat ∉ upperSources)
    : upperForm c = [c] := by
  have unlisted : upperExpansions.lookup c.toNat = none :=
    List.lookup_eq_none_iff.mpr fun entry member => bne_iff_ne.mpr fun same =>
      absent (List.mem_append_left _ (List.mem_map.mpr ⟨entry, member, same.symm⟩))
  have uncovered : upperShifts.find? (·.covers c.toNat) = none :=
    List.find?_eq_none.mpr fun shift member covered =>
      absent (List.mem_append_right _
        (List.mem_flatMap.mpr ⟨shift, member, Shift.mem_codes covered⟩))
  rw [upperForm_eq, unlisted, uncovered]

/-- A number that is no code point stands for the character zero. -/
theorem toNat_ofNat (code : Nat)
    : (Char.ofNat code).toNat = code ∨ (Char.ofNat code).toNat = 0 := by
  by_cases valid : code.isValidChar
  · rw [Char.ofNat, dif_pos valid]
    exact .inl rfl
  · rw [Char.ofNat, dif_neg valid]
    exact .inr rfl

/-- Upper-casing leaves alone what it produces. -/
theorem upperForm_upperForm {c d : Char} (produced : d ∈ upperForm c) : upperForm d = [d] := by
  rcases upperForm_cases c with same | ⟨codes, -, changed, targets⟩
  · rw [same] at produced
    exact List.mem_singleton.mp produced ▸ same
  · rw [changed] at produced
    obtain ⟨code, inside, rfl⟩ := List.mem_map.mp produced
    refine upperForm_of_not_source (upperTargets_apart ?_)
    rcases toNat_ofNat code with valid | zero
    · rw [valid]
      exact List.mem_cons_of_mem _ (targets code inside)
    · rw [zero]
      exact List.mem_cons_self

theorem upperForm_ne_nil (c : Char) : upperForm c ≠ [] := by
  rcases upperForm_cases c with same | ⟨codes, some, changed, -⟩
  · exact same ▸ List.cons_ne_nil c []
  · exact changed ▸ mt List.map_eq_nil_iff.mp some

/-- What holds of the characters with the first 128 numbers holds of every ASCII character. -/
theorem of_ascii (property : Char → Prop) (all : ∀ code < 128, property (Char.ofNat code))
    {c : Char} (ascii : c.toNat < 128)
    : property c := by
  have given := all c.toNat ascii
  rwa [Char.ofNat_toNat] at given

/-- Of the ASCII characters upper-casing changes the twenty-six letters only. Witness: the first
run of the table is these letters; all others and all expansions begin later.
-/
theorem upperForm_ascii {c : Char} (ascii : c.toNat < 128) : upperForm c = [c.toUpper] := by
  have unlisted : upperExpansions.lookup c.toNat = none :=
    List.lookup_eq_none_iff.mpr fun entry member => bne_iff_ne.mpr fun same => by
      have beyond := upperTable_beyond_ascii entry.1
        (List.mem_append_left _ (List.mem_map_of_mem member))
      omega
  have uncovered : upperShifts.tail.find? (·.covers c.toNat) = none :=
    List.find?_eq_none.mpr fun shift member covered => by
      have beyond := upperTable_beyond_ascii shift.first
        (List.mem_append_right _ (List.mem_map_of_mem member))
      simp only [Shift.covers, Bool.and_eq_true, decide_eq_true_eq] at covered
      omega
  have whole : upperShifts = ⟨0x61, 0x7A, 1, -32⟩ :: upperShifts.tail := rfl
  have letters : ∀ code < 128,
      (match (⟨0x61, 0x7A, 1, -32⟩ : Shift).covers code with
        | true => Char.ofNat ((code : Nat) + (-32 : Int)).toNat
        | false => Char.ofNat code)
      = (Char.ofNat code).toUpper := by
    decide
  have changed := letters c.toNat ascii
  rw [Char.ofNat_toNat] at changed
  rw [upperForm_eq, unlisted, whole, List.find?_cons, uncovered, ← changed]
  cases (⟨0x61, 0x7A, 1, -32⟩ : Shift).covers c.toNat <;> rfl

theorem toLower_of_not_ascii {c : Char} (beyond : 128 ≤ c.toNat) : c.toLower = c := by
  refine dif_neg fun letter => ?_
  have below : c.toNat ≤ 90 := UInt32.le_iff_toNat_le.mp letter.2
  omega

theorem toNat_toLower {c : Char} (ascii : c.toNat < 128) : c.toLower.toNat < 128 :=
  of_ascii (fun c => c.toLower.toNat < 128) (by decide) ascii

/-- Upper-casing disregards the case of ASCII letters. -/
theorem upperForm_toLower (c : Char) : upperForm c.toLower = upperForm c := by
  by_cases ascii : c.toNat < 128
  · rw [upperForm_ascii ascii, upperForm_ascii (toNat_toLower ascii)]
    exact of_ascii (fun c => [c.toLower.toUpper] = [c.toUpper]) (by decide) ascii
  · rw [toLower_of_not_ascii (Nat.le_of_not_lt ascii)]

/-- A character that only its letter case, if anything, tells from its upper-case form, where
letter case is that of the ASCII letters.
-/
def Steady (c : Char) : Prop := c.toNat < 128 ∨ upperForm c = [c]

instance : DecidablePred Steady := fun c =>
  inferInstanceAs (Decidable (c.toNat < 128 ∨ upperForm c = [c]))

theorem steady_iff (c : Char) : Steady c ↔ (upperForm c).map Char.toLower = [c.toLower] := by
  by_cases ascii : c.toNat < 128
  · rw [upperForm_ascii ascii]
    exact ⟨fun _ => of_ascii (fun c => [c.toUpper.toLower] = [c.toLower]) (by decide)
      ascii, fun _ => .inl ascii⟩
  · have beyond := Nat.le_of_not_lt ascii
    rw [toLower_of_not_ascii beyond]
    constructor
    · intro steady
      rw [steady.resolve_left ascii, List.map_singleton, toLower_of_not_ascii beyond]
    · intro same
      obtain ⟨d, only, lowered⟩ := List.map_eq_singleton_iff.mp same
      -- An ASCII letter cannot be the lower-case form of a character beyond ASCII.
      have outside : ¬d.toNat < 128 := fun inside =>
        ascii (lowered ▸ toNat_toLower inside)
      rw [toLower_of_not_ascii (Nat.le_of_not_lt outside)] at lowered
      exact .inr (lowered ▸ only)

-----------------------------------------------------------------------------------------
-- Whole texts
-----------------------------------------------------------------------------------------

theorem upper_upper (text : String) : upper (upper text) = upper text := by
  apply String.toList_inj.mp
  rw [toList_upper, toList_upper, List.flatMap_assoc]
  congr 1
  funext c
  calc (upperForm c).flatMap upperForm
      = (upperForm c).flatMap fun d => [d] :=
        List.flatMap_congr fun d produced => upperForm_upperForm produced
    _ = upperForm c := List.flatMap_singleton' _

/-- Texts that differ in the case of ASCII letters alone have the same upper-case form. -/
theorem upper_congr {left right : String} (same : sameLetters left right = true)
    : upper left = upper right := by
  have lowered : left.toList.map Char.toLower = right.toList.map Char.toLower := by
    have same := beq_iff_eq.mp same
    simpa [asciiLower] using congrArg String.toList same
  have onLowered (cs : List Char)
      : cs.flatMap upperForm = (cs.map Char.toLower).flatMap upperForm := by
    simp [List.flatMap_map, upperForm_toLower]
  apply String.toList_inj.mp
  rw [toList_upper, toList_upper, onLowered, lowered, ← onLowered]

theorem upper_eq_empty_iff {text : String} : upper text = "" ↔ text = "" := by
  rw [← String.toList_eq_nil_iff, toList_upper, List.flatMap_eq_nil_iff,
    ← String.toList_eq_nil_iff, List.eq_nil_iff_forall_not_mem]
  exact forall₂_congr fun c _ => iff_false_intro (upperForm_ne_nil c)

theorem length_le_flatMap_upperForm (cs : List Char)
    : cs.length ≤ (cs.flatMap upperForm).length := by
  induction cs with
  | nil => exact Nat.le_refl 0
  | cons c rest ih =>
      have some := List.length_pos_iff.mpr (upperForm_ne_nil c)
      rw [List.flatMap_cons, List.length_append, List.length_cons]
      omega

/-- Upper-casing a list changes nothing but the case of ASCII letters exactly if each character
allows it. Witness: no character vanishes, so none can become several; list induction.
-/
theorem map_toLower_flatMap_iff (cs : List Char)
    : (cs.flatMap upperForm).map Char.toLower = cs.map Char.toLower ↔ ∀ c ∈ cs, Steady c := by
  induction cs with
  | nil => simp
  | cons c rest ih =>
      rw [List.forall_mem_cons, ← ih, steady_iff, List.flatMap_cons, List.map_append,
        List.map_cons]
      constructor
      · intro same
        have lengths := congrArg List.length same
        have some := List.length_pos_iff.mpr (upperForm_ne_nil c)
        have kept := length_le_flatMap_upperForm rest
        simp only [List.length_append, List.length_map, List.length_cons] at lengths
        refine List.append_inj same ?_
        rw [List.length_map, List.length_singleton]
        omega
      · intro both
        rw [both.1, both.2, List.singleton_append]

/-- A text survives upper-casing, up to the case of ASCII letters, exactly if its characters
beyond ASCII are their own upper-case forms.
-/
theorem sameLetters_upper_iff (text : String)
    : sameLetters (upper text) text = true ↔ ∀ c ∈ text.toList, Steady c := by
  rw [← map_toLower_flatMap_iff, ← toList_upper, sameLetters, beq_iff_eq, asciiLower, asciiLower,
    String.ofList_inj]

end ObjectGrants.Text
