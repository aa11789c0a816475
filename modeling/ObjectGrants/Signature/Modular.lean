/-!
Arithmetic modulo a number.
-/

namespace ObjectGrants.Signature

/-- Raises the base to an exponent of at most `bits` bits, reduced modulo `modulus` at every
step: the exponent is halved, and an odd one takes the base out once. -/
def powerWithin : Nat → Nat → Nat → Nat → Nat
  | 0, _, _, modulus => 1 % modulus
  | bits + 1, base, exponent, modulus =>
      let rest := powerWithin bits (base * base % modulus) (exponent / 2) modulus
      if exponent % 2 = 0 then rest else base * rest % modulus

/-- The power of a base modulo a number. -/
def powerModulo (base exponent modulus : Nat) : Nat :=
  powerWithin (exponent.log2 + 1) (base % modulus) exponent modulus

/-- The inverse of a number modulo a prime. -/
def inverseModulo (n prime : Nat) : Nat :=
  powerModulo n (prime - 2) prime

end ObjectGrants.Signature
