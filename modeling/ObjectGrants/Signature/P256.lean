import ObjectGrants.Digest.Sha2
import ObjectGrants.Signature.Modular

/-!
Signatures of the elliptic curve P-256 over SHA-256 digests. A signature is 64 bytes, two
numbers of 32 bytes each.
-/

namespace ObjectGrants.Signature.P256

open Digest.Sha2

/-- The prime of the field: the curve is y² = x³ - 3x + b over it. -/
def fieldPrime : Nat := Nat.pow 2 256 - Nat.pow 2 224 + Nat.pow 2 192 + Nat.pow 2 96 - 1

/-- The coefficient b of the curve. -/
def coefficient : Nat := 0x5ac635d8aa3a93e7b3ebbd55769886bc651d06b0cc53b0f63bce3c3e27d2604b

/-- The number of points on the curve, a prime. -/
def order : Nat := 0xffffffff00000000ffffffffffffffffbce6faada7179e84f3b9cac2fc632551

/-- A point of the curve in projective form: (x, y, z) stands for (x / z², y / z³), and for
the point at infinity when z is zero. -/
structure Point where
  x : Nat
  y : Nat
  z : Nat
  deriving DecidableEq, Repr

namespace Point

def infinity : Point := ⟨1, 1, 0⟩

/-- The point that generates all others. -/
def generator : Point where
  x := 0x6b17d1f2e12c4247f8bce6e563a440f277037d812deb33a0f4a13945d898c296
  y := 0x4fe342e2fe1a7f9b8ee7eb4a7c0f9e162bce33576b315ececbb6406837bf51f5
  z := 1

/-- The difference of two numbers in the field. -/
def difference (a b : Nat) : Nat :=
  (a + (fieldPrime - b % fieldPrime)) % fieldPrime

/-- The sum of a point with itself. -/
def double (p : Point) : Point :=
  let zz := p.z * p.z % fieldPrime
  let yy := p.y * p.y % fieldPrime
  let s := 4 * p.x * yy % fieldPrime
  let m := 3 * (difference p.x zz * (p.x + zz) % fieldPrime) % fieldPrime
  let x := difference (m * m) (2 * s)
  ⟨x, difference (m * difference s x) (8 * (yy * yy % fieldPrime)), 2 * p.y * p.z % fieldPrime⟩

/-- The sum of two points. -/
def add (p q : Point) : Point :=
  if p.z = 0 then q
  else if q.z = 0 then p
  else
    let pzz := p.z * p.z % fieldPrime
    let qzz := q.z * q.z % fieldPrime
    let u := p.x * qzz % fieldPrime
    let s := p.y * qzz * q.z % fieldPrime
    let h := difference (q.x * pzz) u
    let r := difference (q.y * pzz * p.z) s
    if h = 0 then
      if r = 0 then p.double else infinity
    else
      let hh := h * h % fieldPrime
      let hhh := h * hh % fieldPrime
      let v := u * hh % fieldPrime
      let x := difference (r * r) (hhh + 2 * v)
      ⟨x, difference (r * difference v x) (s * hhh), p.z * q.z * h % fieldPrime⟩

/-- A multiple of a point by a factor of at most `bits` bits. -/
def timesWithin (p : Point) (bits factor : Nat) : Point :=
  match bits with
  | 0 => infinity
  | bits + 1 =>
      let rest := p.double.timesWithin bits (factor / 2)
      if factor % 2 = 0 then rest else p.add rest

/-- The first coordinate of a point that is not at infinity. -/
def affineX (p : Point) : Nat :=
  p.x * inverseModulo (p.z * p.z) fieldPrime % fieldPrime

end Point

/-- The point that a key of 64 bytes names, if it lies on the curve. -/
def point? (key : List UInt8) : Option Point :=
  let x := bigEndian (key.take 32)
  let y := bigEndian (key.drop 32)
  if key.length = 64 ∧ x < fieldPrime ∧ y < fieldPrime
      ∧ y * y % fieldPrime
        = (x * x * x + (fieldPrime - 3) * x + coefficient) % fieldPrime then
    some ⟨x, y, 1⟩
  else none

/-- Whether a signature is that of a message under a key of 64 bytes. -/
def verify (key message signature : List UInt8) : Bool :=
  match point? key with
  | none => false
  | some q =>
      let r := bigEndian (signature.take 32)
      let s := bigEndian (signature.drop 32)
      if signature.length = 64 ∧ 0 < r ∧ r < order ∧ 0 < s ∧ s < order then
        let inverse := inverseModulo s order
        let fromMessage := bigEndian (sha256 message) * inverse % order
        let fromKey := r * inverse % order
        let sum := (Point.generator.timesWithin 256 fromMessage).add (q.timesWithin 256 fromKey)
        sum.z != 0 && sum.affineX % order == r
      else false

end ObjectGrants.Signature.P256
