/-!
UTF-8 with its errors kept in place. Reading a sequence of bytes gives the characters in
order, and one `none` for every longest run of bytes that begins a character but cannot end
it, or cannot begin one.
-/

namespace ObjectGrants.Text.Utf8

/-- A character that has begun: the range its next byte must lie in, how many more follow
that one, and the bits read so far. -/
structure Partial where
  least : Nat
  greatest : Nat
  more : Nat
  bits : Nat
  deriving DecidableEq, Repr

/-- What the first byte of a character says. -/
inductive Lead where
  | whole (c : Char)
  | begun (rest : Partial)
  | stray
  deriving DecidableEq, Repr

/-- Classifies a byte that stands where a character begins. Overlong forms, surrogates and
code points above U+10FFFF are excluded by the range of the second byte. -/
def lead (byte : Nat) : Lead :=
  if byte < 0x80 then .whole (Char.ofNat byte)
  else if byte < 0xC2 then .stray
  else if byte < 0xE0 then .begun ⟨0x80, 0xBF, 0, byte - 0xC0⟩
  else if byte < 0xF0 then
    .begun ⟨if byte = 0xE0 then 0xA0 else 0x80, if byte = 0xED then 0x9F else 0xBF, 1,
      byte - 0xE0⟩
  else if byte < 0xF5 then
    .begun ⟨if byte = 0xF0 then 0x90 else 0x80, if byte = 0xF4 then 0x8F else 0xBF, 2,
      byte - 0xF0⟩
  else .stray

/-- Reads bytes from inside a character, or from between two when there is none. -/
def scanFrom : Option Partial → List UInt8 → List (Option Char)
  | none, [] => []
  | some _, [] => [none]
  | none, byte :: rest =>
      match lead byte.toNat with
      | .whole c => some c :: scanFrom none rest
      | .begun p => scanFrom (some p) rest
      | .stray => none :: scanFrom none rest
  | some p, byte :: rest =>
      if p.least ≤ byte.toNat ∧ byte.toNat ≤ p.greatest then
        let bits := p.bits * 64 + (byte.toNat - 0x80)
        match p.more with
        | 0 => some (Char.ofNat bits) :: scanFrom none rest
        | more + 1 => scanFrom (some ⟨0x80, 0xBF, more, bits⟩) rest
      else
        match lead byte.toNat with
        | .whole c => none :: some c :: scanFrom none rest
        | .begun q => none :: scanFrom (some q) rest
        | .stray => none :: none :: scanFrom none rest

/-- The characters of a sequence of bytes, with `none` for what is not UTF-8. -/
def scan (bytes : List UInt8) : List (Option Char) :=
  scanFrom none bytes

/-- The character shown for bytes that are not UTF-8. -/
def replacement : Char := '\uFFFD'

/-- The text of a sequence of bytes, where the replacement character stands for each error. -/
def lossy (bytes : List UInt8) : String :=
  String.ofList ((scan bytes).map (·.getD replacement))

/-- The text of a sequence of bytes, if all of it is UTF-8. -/
def decode? (bytes : List UInt8) : Option String :=
  ((scan bytes).mapM id).map String.ofList

/-- The bytes of a text. -/
def encode (text : String) : List UInt8 :=
  text.toUTF8.data.toList

end ObjectGrants.Text.Utf8
