/-!
Decimal numerals of bounded numbers, as they stand in variables and arguments: ASCII digits
behind one optional plus sign. Leading zeros are allowed.
-/

namespace ObjectGrants.Number

/-- Why a text is no numeral of a number below the bound. -/
inductive DecimalFault where
  | empty
  | notDigits
  | tooLarge
  deriving DecidableEq, Repr

def DecimalFault.message : DecimalFault → String
  | empty => "cannot parse integer from empty string"
  | notDigits => "invalid digit found in string"
  | tooLarge => "number too large to fit in target type"

namespace Decimal

/-- Reads digits behind a number already read. The first character that is no digit, or that
makes the number too large, decides the fault. -/
def readBehind (bound value : Nat) : List Char → Except DecimalFault Nat
  | [] => .ok value
  | c :: rest =>
      if '0' ≤ c ∧ c ≤ '9' then
        let next := 10 * value + (c.toNat - '0'.toNat)
        if next < bound then readBehind bound next rest else .error .tooLarge
      else .error .notDigits

/-- The number below `bound` that a text writes. -/
def read (bound : Nat) : List Char → Except DecimalFault Nat
  | [] => .error .empty
  | ['+'] => .error .notDigits
  | '+' :: digits => readBehind bound 0 digits
  | digits => readBehind bound 0 digits

end Decimal

end ObjectGrants.Number
