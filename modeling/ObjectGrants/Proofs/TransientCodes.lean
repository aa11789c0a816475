import ObjectGrants.Proofs.ConfigurationAcceptance
import ObjectGrants.Proofs.LetterCase
import ObjectGrants.Retry

/-! The codes that are configured as transient, against the refusals that are repeated.

A list of codes is read in upper case, with all letters of Unicode, and a code of the authority
is compared with it without regard to the case of ASCII letters. So a refusal is repeated exactly
if its code has the upper-case form of a listed one and, beyond ASCII, no letter in lower case.
-/

namespace ObjectGrants

-----------------------------------------------------------------------------------------
-- Lists with commas
-----------------------------------------------------------------------------------------

theorem Text.pieces_eq_splitOn (comma : Char) (cs : List Char)
    : Text.pieces (· = comma) cs = cs.splitOn comma := by
  induction cs with
  | nil => rfl
  | cons c rest ih =>
      rw [Text.pieces, ih, List.splitOn_cons_eq_if_modifyHead]
      by_cases divides : c = comma
      · simp [divides]
      · have some := List.splitOn_ne_nil comma rest
        cases pieces : rest.splitOn comma with
        | nil => exact absurd pieces some
        | cons piece others => simp [divides]

theorem Text.not_mem_pieces (comma : Char) (cs : List Char)
    : ∀ piece ∈ Text.pieces (· = comma) cs, comma ∉ piece := by
  induction cs with
  | nil => simp [Text.pieces]
  | cons c rest ih =>
      rw [Text.pieces]
      by_cases divides : c = comma
      · simpa [divides] using ih
      · cases pieces : Text.pieces (· = comma) rest with
        | nil => simpa [divides] using Ne.symm divides
        | cons piece others =>
            rw [pieces, List.forall_mem_cons] at ih
            simpa [divides, Ne.symm divides] using ih

namespace Configuration

/-- A text with commas lists an item: what stands between two commas, or a comma and an end,
without the white space around it, unless nothing is left.
-/
def Lists (text item : String) : Prop :=
  ∃ pieces : List String,
    text = ",".intercalate pieces
    ∧ (∀ piece ∈ pieces, ',' ∉ piece.toList)
    ∧ (∃ piece ∈ pieces, item = Text.trim piece)
    ∧ item ≠ ""

/-- The pieces that a text is divided into are those it is put together from. -/
theorem mem_pieces_iff {text : String} {piece : List Char}
    : piece ∈ Text.pieces (· = ',') text.toList
      ↔ ∃ pieces : List String,
          text = ",".intercalate pieces
          ∧ (∀ other ∈ pieces, ',' ∉ other.toList)
          ∧ String.ofList piece ∈ pieces := by
  constructor
  · intro member
    refine ⟨(Text.pieces (· = ',') text.toList).map String.ofList, ?_, ?_,
      List.mem_map_of_mem member⟩
    · apply String.toList_inj.mp
      rw [String.toList_intercalate, List.map_map, Text.pieces_eq_splitOn]
      simp [Function.comp_def, List.intercalate_splitOn]
    · intro other found
      obtain ⟨cs, member, rfl⟩ := List.mem_map.mp found
      rw [String.toList_ofList]
      exact Text.not_mem_pieces ',' _ cs member
  · rintro ⟨pieces, rfl, apart, member⟩
    have parts : ∀ cs ∈ pieces.map String.toList, ',' ∉ cs := by simpa using apart
    have some : pieces.map String.toList ≠ [] := by
      exact List.ne_nil_of_mem (List.mem_map_of_mem member)
    rw [Text.pieces_eq_splitOn, String.toList_intercalate]
    have divided := List.splitOn_intercalate ',' parts some
    rw [show ",".toList = [','] from rfl, divided]
    exact List.mem_map.mpr ⟨_, member, String.toList_ofList⟩

/-- The codes of a list are the upper-case forms of its items. -/
theorem mem_splitCodes_iff {text code : String}
    : code ∈ splitCodes text ↔ ∃ item, Lists text item ∧ code = Text.upper item := by
  simp only [splitCodes, List.mem_filter, List.mem_map, decide_eq_true_eq, mem_pieces_iff]
  constructor
  · intro holds
    obtain ⟨⟨piece, ⟨pieces, whole, apart, member⟩, rfl⟩, filled⟩ := holds
    refine ⟨String.ofList (Text.trimChars piece),
      ⟨pieces, whole, apart, ⟨_, member, ?_⟩, ?_⟩, rfl⟩
    · rw [Text.trim, String.toList_ofList]
    · exact mt Text.upper_eq_empty_iff.mpr filled
  · intro holds
    obtain ⟨_, ⟨pieces, whole, apart, ⟨piece, member, rfl⟩, filled⟩, rfl⟩ := holds
    refine ⟨⟨piece.toList, ⟨pieces, whole, apart, ?_⟩, rfl⟩, mt Text.upper_eq_empty_iff.mp filled⟩
    rwa [String.ofList_toList]

-----------------------------------------------------------------------------------------
-- Refusals that are repeated
-----------------------------------------------------------------------------------------

/-- A refusal is repeated under a list exactly if its code is that of an item but for letter case,
and no letter of it beyond ASCII is changed by upper-casing.
-/
theorem isRetryable_splitCodes_iff (text : String) (origin : Origin) (code message : String)
    (httpStatus : Option Nat)
    : (Fault.rejected origin code message httpStatus).isRetryable (splitCodes text) = true
      ↔ (∃ item, Lists text item ∧ Text.upper code = Text.upper item)
        ∧ ∀ c ∈ code.toList, Text.Steady c := by
  simp only [Fault.isRetryable, List.any_eq_true, mem_splitCodes_iff]
  constructor
  · intro holds
    obtain ⟨_, ⟨item, listed, rfl⟩, same⟩ := holds
    have forms : Text.upper item = Text.upper code :=
      (Text.upper_upper item).symm.trans (Text.upper_congr same)
    rw [forms] at same
    exact ⟨⟨item, listed, forms.symm⟩, (Text.sameLetters_upper_iff code).mp same⟩
  · intro holds
    obtain ⟨⟨item, listed, forms⟩, steady⟩ := holds
    exact ⟨_, ⟨item, listed, forms⟩, (Text.sameLetters_upper_iff code).mpr steady⟩

/-- The codes of an accepted configuration are those of its variable. -/
theorem transientCodes_of_ofLookup {lookup : String → Option String}
    {configuration : Configuration} {text : String}
    (accepted : ofLookup lookup = .ok configuration)
    (given : lookup Variable.transientCodes = some text)
    : configuration.transientCodes = splitCodes text := by
  have ⟨_, named, _⟩ := ofLookup_eq_ok_iff.mp accepted
  rw [named.transientCodes, given, Option.map_some, Option.getD_some]

/-- A refusal with a code that the variable lists is repeated exactly if upper-casing changes no
letter of the code beyond ASCII, and no refusal is repeated unless its code is a listed one but
for letter case.
-/
theorem transientCodes_honoured_iff {lookup : String → Option String}
    {configuration : Configuration} {text : String}
    (accepted : ofLookup lookup = .ok configuration)
    (given : lookup Variable.transientCodes = some text) (origin : Origin)
    (code message : String) (httpStatus : Option Nat)
    : (Lists text code
        → ((Fault.rejected origin code message httpStatus).isRetryable
              configuration.transientCodes = true
            ↔ ∀ c ∈ code.toList, Text.Steady c))
      ∧ ((Fault.rejected origin code message httpStatus).isRetryable
            configuration.transientCodes = true
          → ∃ item, Lists text item ∧ Text.upper code = Text.upper item) := by
  rw [transientCodes_of_ofLookup accepted given, isRetryable_splitCodes_iff]
  exact ⟨fun listed => and_iff_right ⟨code, listed, rfl⟩, And.left⟩

/-- Variables that list two codes in lower case, of which one begins beyond ASCII. -/
def loadVariables : String → Option String :=
  ([(Variable.authorityUrl, "http://authority.test"),
    (Variable.verificationMode, "passthrough"),
    (Variable.transientCodes, "busy, überlast")].lookup ·)

/-- The configuration that they stand for. -/
def loadConfiguration : Configuration where
  authorityUrl := "http://authority.test"
  verificationMode := .passThrough
  transientCodes := ["BUSY", "ÜBERLAST"]

theorem ofLookup_loadVariables : ofLookup loadVariables = .ok loadConfiguration := by
  decide +kernel

theorem lists_loadVariables {item : String} (member : item ∈ ["busy", "überlast"])
    : Lists "busy, überlast" item := by
  refine ⟨["busy", " überlast"], by decide, by decide, ?_, ?_⟩
  · revert item
    decide
  · rintro rfl
    exact absurd member (by decide)

theorem transientCodes_honoured_iff_busy
    : ofLookup loadVariables = .ok loadConfiguration
      ∧ loadVariables Variable.transientCodes = some "busy, überlast"
      ∧ (Fault.rejected ⟨.objectPut, .nil⟩ "busy" "" none).isRetryable
          loadConfiguration.transientCodes = true :=
  ⟨ofLookup_loadVariables, rfl,
    ((transientCodes_honoured_iff ofLookup_loadVariables rfl ⟨.objectPut, .nil⟩ "busy" "" none).1
      (lists_loadVariables (by decide))).mpr
      ((Text.sameLetters_upper_iff "busy").mp (by decide))⟩

/-- A listed code whose refusals are never repeated: its upper-case form is listed in its place,
and the comparison does not take the two for one.
-/
theorem isRetryable_misses_listed_umlaut
    : ∃ lookup configuration text code,
        ofLookup lookup = .ok configuration
        ∧ lookup Variable.transientCodes = some text
        ∧ Lists text code
        ∧ (Fault.rejected ⟨.objectPut, .nil⟩ code "busy" (some 429)).isRetryable
            configuration.transientCodes = false :=
  ⟨loadVariables, loadConfiguration, "busy, überlast", "überlast", ofLookup_loadVariables, rfl,
    lists_loadVariables (by decide), by decide⟩

end Configuration

end ObjectGrants
