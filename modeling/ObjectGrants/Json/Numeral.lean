import ObjectGrants.Json.Tree

/-!
Numerals of JSON texts: their grammar, and the number that one stands for.

A numeral with neither fraction nor exponent is an integer if 64 bits hold it. Every other
numeral is read in double precision from a 64-bit significand: the digits that fit are
taken, each integer digit left over multiplies by ten, and each fraction digit left over
counts for nothing. The significand and the power of ten are rounded separately.
-/

namespace ObjectGrants.Json

open ObjectGrants.Number

/-- The parts of a numeral: its sign, its integer digits, its fraction digits, and the sign
and digits of its exponent. -/
structure Numeral where
  negative : Bool
  whole : List Nat
  fraction : Option (List Nat)
  exponent : Option (Bool × List Nat)
  deriving DecidableEq, Repr

namespace Numeral

/-- The value of a decimal digit. -/
def digit? (c : Char) : Option Nat :=
  if '0' ≤ c ∧ c ≤ '9' then some (c.toNat - '0'.toNat) else none

/-- The digits at the head of a text, and what follows them. -/
def spanDigits : List Char → List Nat × List Char
  | [] => ([], [])
  | c :: rest =>
      match digit? c with
      | some d => ((spanDigits rest).1.cons d, (spanDigits rest).2)
      | none => ([], c :: rest)

/-- The exponent at the end of a numeral: nothing, or a mark, an optional sign and digits. -/
def exponentOf? : List Char → Option (Option (Bool × List Nat))
  | [] => some none
  | mark :: rest =>
      if mark = 'e' ∨ mark = 'E' then
        let (negative, rest) := match rest with
          | '+' :: rest => (false, rest)
          | '-' :: rest => (true, rest)
          | rest => (false, rest)
        match spanDigits rest with
        | (digits, []) => if digits.isEmpty then none else some (some (negative, digits))
        | (_, _ :: _) => none
      else none

/-- Reads a whole text as a numeral. No superfluous zero leads, and digits stand on both
sides of the point. -/
def ofChars? (cs : List Char) : Option Numeral := do
  let (negative, cs) := match cs with
    | '-' :: rest => (true, rest)
    | rest => (false, rest)
  let (whole, rest) := spanDigits cs
  guard (whole.length = 1 ∨ (1 < whole.length ∧ whole.head? ≠ some 0))
  let (fraction, rest) ← match rest with
    | '.' :: rest =>
        let (digits, rest) := spanDigits rest
        if digits.isEmpty then none else some (some digits, rest)
    | rest => some (none, rest)
  let exponent ← exponentOf? rest
  pure ⟨negative, whole, fraction, exponent⟩

/-- The number that a sequence of decimal digits writes. -/
def ofDigits (digits : List Nat) : Nat :=
  digits.foldl (fun value d => 10 * value + d) 0

/-- Appends digits to a significand as long as 64 bits hold it; gives back the rest. -/
def absorb : Nat → List Nat → Nat × List Nat
  | significand, [] => (significand, [])
  | significand, d :: rest =>
      if 10 * significand + d < UInt64.size then absorb (10 * significand + d) rest
      else (significand, d :: rest)

/-- The double that a numeral with fraction or exponent, or with many digits, stands for. -/
def double? (numeral : Numeral) : Option Binary64 :=
  let (significand, dropped) := absorb 0 numeral.whole
  let fraction := numeral.fraction.getD []
  let (significand, ignored) := absorb significand fraction
  let written : Int := match numeral.exponent with
    | some (true, digits) => -(ofDigits digits : Int)
    | some (false, digits) => ofDigits digits
    | none => 0
  let shift : Int := dropped.length - (fraction.length - ignored.length : Nat) + written
  ((Magnitude.nearest significand 1).scaleByTen shift).map (⟨numeral.negative, ·⟩)

/-- The number a numeral stands for; none if it is beyond double precision. A negative zero
is a double, since integers have no sign at zero. -/
def number? (numeral : Numeral) : Option Number :=
  let value := ofDigits numeral.whole
  let plain := numeral.fraction.isNone && numeral.exponent.isNone
  if plain && !numeral.negative && value < UInt64.size then some (.integer value)
  else if plain && numeral.negative && 0 < value && value ≤ Nat.pow 2 63 then
    some (.integer (-value))
  else numeral.double?.map .double

end Numeral

end ObjectGrants.Json
