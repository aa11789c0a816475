import ObjectGrants.Text.CaseTable

/-!
Changes of letter case: the full mappings of the Unicode database, and the narrow ones that
know the twenty-six ASCII letters only.

The full lower-case form has one rule that looks beyond the character: a capital sigma at
the end of a word becomes the final form.
-/

namespace ObjectGrants.Text

open CaseTable

private def inRanges (ranges : List (Nat × Nat)) (c : Char) : Bool :=
  ranges.any fun (first, last) => first ≤ c.toNat && c.toNat ≤ last

private def shifted (shifts : List Shift) (c : Char) : Char :=
  match shifts.find? (·.covers c.toNat) with
  | some shift => Char.ofNat (c.toNat + shift.delta).toNat
  | none => c

private def expanded (expansions : List (Nat × List Nat)) (shifts : List Shift) (c : Char)
    : List Char :=
  match expansions.lookup c.toNat with
  | some codes => codes.map Char.ofNat
  | none => [shifted shifts c]

/-- Whether the nearest character that is not skipped is a letter with case. -/
def meetsCased (cs : List Char) : Bool :=
  match cs.dropWhile (inRanges skippedRanges) with
  | c :: _ => inRanges casedRanges c
  | [] => false

/-- Lower-cases the characters of a word; `before` holds those already passed, nearest first. -/
def lowerFrom (before : List Char) : List Char → List Char
  | [] => []
  | c :: rest =>
      let form :=
        if c = 'Σ' then
          [if meetsCased before && !meetsCased rest then 'ς' else 'σ']
        else expanded lowerExpansions lowerShifts c
      form ++ lowerFrom (c :: before) rest

/-- The full lower-case form of a text. -/
def lower (text : String) : String :=
  String.ofList (lowerFrom [] text.toList)

/-- The full upper-case form of a text. -/
def upper (text : String) : String :=
  String.ofList (text.toList.flatMap (expanded upperExpansions upperShifts))

/-- The full upper-case form of a character. -/
def upperForm (c : Char) : List Char := expanded upperExpansions upperShifts c

theorem upperForm_eq (c : Char)
    : upperForm c
      = match upperExpansions.lookup c.toNat with
        | some codes => codes.map Char.ofNat
        | none =>
            match upperShifts.find? (·.covers c.toNat) with
            | some shift => [Char.ofNat (c.toNat + shift.delta).toNat]
            | none => [c] := by
  unfold upperForm expanded shifted
  split
  · rfl
  · split <;> rfl

theorem toList_upper (text : String) : (upper text).toList = text.toList.flatMap upperForm :=
  String.toList_ofList

/-- The upper-case form of a text whose ASCII letters alone change. -/
def asciiUpper (text : String) : String :=
  String.ofList (text.toList.map Char.toUpper)

/-- The lower-case form of a text whose ASCII letters alone change. -/
def asciiLower (text : String) : String :=
  String.ofList (text.toList.map Char.toLower)

/-- Whether two texts are the same once the case of ASCII letters is disregarded. -/
def sameLetters (left right : String) : Bool :=
  asciiLower left == asciiLower right

end ObjectGrants.Text
