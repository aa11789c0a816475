/-!
Base64 with the alphabet for URLs and without padding. Reading is strict: bits that no byte
uses have to be zero.
-/

namespace ObjectGrants.Encoding.Base64Url

/-- The letter of a number below 64. -/
def letter (n : Nat) : Char :=
  if n < 26 then Char.ofNat ('A'.toNat + n)
  else if n < 52 then Char.ofNat ('a'.toNat + (n - 26))
  else if n < 62 then Char.ofNat ('0'.toNat + (n - 52))
  else if n = 62 then '-'
  else '_'

/-- The number of a letter. -/
def index? (c : Char) : Option Nat :=
  if 'A' ≤ c ∧ c ≤ 'Z' then some (c.toNat - 'A'.toNat)
  else if 'a' ≤ c ∧ c ≤ 'z' then some (c.toNat - 'a'.toNat + 26)
  else if '0' ≤ c ∧ c ≤ '9' then some (c.toNat - '0'.toNat + 52)
  else if c = '-' then some 62
  else if c = '_' then some 63
  else none

/-- The letters for a sequence of bytes: four for every three, and one more than the bytes
for those at the end. -/
def letters : List UInt8 → List Char
  | a :: b :: c :: rest =>
      let bits := a.toNat * 65536 + b.toNat * 256 + c.toNat
      letter (bits / 262144) :: letter (bits / 4096 % 64) :: letter (bits / 64 % 64)
        :: letter (bits % 64) :: letters rest
  | [a, b] =>
      let bits := a.toNat * 1024 + b.toNat * 4
      [letter (bits / 4096), letter (bits / 64 % 64), letter (bits % 64)]
  | [a] => [letter (a.toNat / 4), letter (a.toNat * 16 % 64)]
  | [] => []

/-- The bytes for a sequence of six-bit numbers. -/
def bytes? : List Nat → Option (List UInt8)
  | a :: b :: c :: d :: rest =>
      let bits := a * 262144 + b * 4096 + c * 64 + d
      (bytes? rest).map fun following =>
        UInt8.ofNat (bits / 65536) :: UInt8.ofNat (bits / 256) :: UInt8.ofNat bits :: following
  | [a, b, c] =>
      let bits := a * 4096 + b * 64 + c
      if bits % 4 = 0 then some [UInt8.ofNat (bits / 1024), UInt8.ofNat (bits / 4)] else none
  | [a, b] =>
      let bits := a * 64 + b
      if bits % 16 = 0 then some [UInt8.ofNat (bits / 16)] else none
  | [_] => none
  | [] => some []

def encode (bytes : List UInt8) : String :=
  String.ofList (letters bytes)

def decode? (text : List Char) : Option (List UInt8) :=
  (text.mapM index?).bind bytes?

end ObjectGrants.Encoding.Base64Url
