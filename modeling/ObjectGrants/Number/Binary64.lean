/-!
Finite binary floating-point numbers of double precision, exactly: a sign, a significand
below 2 ^ 53 and a power of two. Rounding goes to the nearest such number and, half-way
between two, to the one with the even significand.

A number is written with the fewest decimal digits that read back as the same number,
`shortest`, laid out by `Binary64.text`.
-/

namespace ObjectGrants.Number

/-- The quotient of two numbers rounded to the nearest integer, a half to the even one. -/
def roundQuotient (numerator denominator : Nat) : Nat :=
  let whole := numerator / denominator
  let twice := 2 * (numerator % denominator)
  if twice < denominator then whole
  else if denominator < twice then whole + 1
  else if whole % 2 = 0 then whole
  else whole + 1

/-- The number `significand * 2 ^ exponent`. -/
structure Magnitude where
  significand : Nat
  exponent : Int
  deriving DecidableEq, Repr

namespace Magnitude

/-- The least exponent, that of the numbers closest to zero. -/
def leastExponent : Int := -1074

/-- The greatest exponent of a finite number. -/
def greatestExponent : Int := 971

def zero : Magnitude := ⟨0, leastExponent⟩

/-- The numerator of the number as a fraction whose denominator is a power of two. -/
def numerator (m : Magnitude) : Nat :=
  m.significand * Nat.pow 2 m.exponent.toNat

def denominator (m : Magnitude) : Nat :=
  Nat.pow 2 (-m.exponent).toNat

/-- The nearest number to a positive fraction. Its exponent may exceed the greatest one. -/
def nearest (numerator denominator : Nat) : Magnitude :=
  if numerator = 0 then zero
  else
    let shifted (e : Int) : Nat × Nat :=
      (numerator * Nat.pow 2 (-e).toNat, denominator * Nat.pow 2 e.toNat)
    let guess := max ((numerator.log2 : Int) - denominator.log2 - 53) leastExponent
    let (n, d) := shifted guess
    let exponent := if n / d < Nat.pow 2 53 then guess else guess + 1
    let (n, d) := shifted exponent
    let rounded := roundQuotient n d
    if rounded = Nat.pow 2 53 then ⟨Nat.pow 2 52, exponent + 1⟩ else ⟨rounded, exponent⟩

/-- Whether the number is too large to be finite. -/
def isInfinite (m : Magnitude) : Bool :=
  greatestExponent < m.exponent

def mul (a b : Magnitude) : Magnitude :=
  nearest (a.numerator * b.numerator) (a.denominator * b.denominator)

def div (a b : Magnitude) : Magnitude :=
  nearest (a.numerator * b.denominator) (a.denominator * b.numerator)

/-- The number nearest to a power of ten. -/
def powerOfTen (exponent : Nat) : Magnitude :=
  nearest (Nat.pow 10 exponent) 1

/-- A number times a power of ten, rounded at every step: one multiplication or division
where the power of ten is itself a finite number, and otherwise divisions by 10 ^ 308 until
it is. There is no result when the product is not finite. -/
def scaleByTen (m : Magnitude) (exponent : Int) : Option Magnitude :=
  if exponent.natAbs ≤ 308 then
    if 0 ≤ exponent then
      let product := m.mul (powerOfTen exponent.toNat)
      if product.isInfinite then none else some product
    else some (m.div (powerOfTen exponent.natAbs))
  else if m.significand = 0 then some m
  else if 0 ≤ exponent then none
  else scaleByTen (m.div (powerOfTen 308)) (exponent + 308)
termination_by exponent.natAbs

/-- The nearest integer, a half going up. -/
def round (m : Magnitude) : Nat :=
  (2 * m.numerator + m.denominator) / (2 * m.denominator)

/-- The exponent of the leading decimal digit of a number that is not zero. -/
private def decimalExponent (m : Magnitude) : Int :=
  (Nat.toDigits 10 (m.numerator * Nat.pow 10 400 / m.denominator)).length - 401

/-- Among the decimals with one last place, the nearest to the number that reads back as it.
The decimals that do are those between the halves of the gaps to its neighbours, ends
included when the significand is even. -/
private def decimalAt (m : Magnitude) (place : Int) : Option Nat :=
  let unit := Nat.pow 2 (m.exponent - 2).toNat * Nat.pow 10 (-place).toNat
  let step := Nat.pow 2 (2 - m.exponent).toNat * Nat.pow 10 place.toNat
  let narrow := m.significand = Nat.pow 2 52 ∧ leastExponent < m.exponent
  let middle := 4 * m.significand * unit
  let low := (4 * m.significand - (if narrow then 1 else 2)) * unit
  let high := (4 * m.significand + 2) * unit
  let readsBack (digits : Nat) : Bool :=
    if m.significand % 2 = 0 then low ≤ digits * step && digits * step ≤ high
    else low < digits * step && digits * step < high
  let below := middle / step
  match readsBack below, readsBack (below + 1) with
  | true, false => some below
  | false, true => some (below + 1)
  | false, false => none
  | true, true => some (roundQuotient middle step)

/-- The shortest decimal that reads back as a number that is not zero: its digits as one
integer, and the power of ten that they count. A number just below a power of ten may round
up to it, which the coarsest grid shows as ten. -/
def shortest (m : Magnitude) : Nat × Int :=
  let leading := m.decimalExponent
  let found := (List.range 17).findSome? fun (places : Nat) =>
    let place := leading - places
    (m.decimalAt place).map (·, place)
  match found with
  | some (10, place) => (1, place + 1)
  | some decimal => decimal
  | none => (0, 0)

end Magnitude

/-- A finite number of double precision. Zero has a sign. -/
structure Binary64 where
  negative : Bool
  magnitude : Magnitude
  deriving DecidableEq, Repr

namespace Binary64

/-- The sign, digits, point and exponent of a number: decimal notation from 1e-5 up to but
excluding 1e16, and one digit before the point with a signed exponent elsewhere. -/
def text (x : Binary64) : String :=
  let sign := if x.negative then "-" else ""
  if x.magnitude.significand = 0 then sign ++ "0.0"
  else
    let (digits, place) := x.magnitude.shortest
    let shown := toString digits
    let leading : Int := shown.length - 1 + place
    let zeros (n : Int) : String := String.ofList (List.replicate n.toNat '0')
    if -5 ≤ leading ∧ leading < 16 then
      if 0 ≤ place then sign ++ shown ++ zeros place ++ ".0"
      else if 0 ≤ leading then
        let split := leading.toNat + 1
        sign ++ String.ofList (shown.toList.take split) ++ "."
          ++ String.ofList (shown.toList.drop split)
      else sign ++ "0." ++ zeros (-leading - 1) ++ shown
    else
      let fraction := shown.toList.drop 1
      let point := if fraction.isEmpty then "" else "."
      let mark := if leading < 0 then "e-" else "e+"
      sign ++ String.ofList (shown.toList.take 1) ++ point ++ String.ofList fraction ++ mark
        ++ toString leading.natAbs

end Binary64

end ObjectGrants.Number
