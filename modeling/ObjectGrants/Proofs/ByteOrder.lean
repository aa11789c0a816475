import Mathlib.Data.String.Basic
import ObjectGrants.Proofs.Utf8Text

/-! Texts are in the order of their bytes. A character with a greater code point has a greater first
byte or, with the same number of bytes, greater digits in base 64; so the first character in which
two texts differ decides between their bytes as well.
-/

namespace ObjectGrants.Text.Utf8

-----------------------------------------------------------------------------------------
-- Bytes as digits
-----------------------------------------------------------------------------------------

/-- A number in base 64 before a rest: its digits but for the first as bytes behind the first one,
and what is left of it as the first byte.
-/
def digits (first : Nat) : (more n : Nat) → (rest : List UInt8) → List UInt8
  | 0, n, rest => UInt8.ofNat (n + first) :: rest
  | more + 1, n, rest => digits first more (n / 64) (UInt8.ofNat (n % 64 + 128) :: rest)

/-- What is added to the first byte of a character, and how many bytes follow it. -/
def size (n : Nat) : Nat × Nat :=
  if n ≤ 127 then (0, 0) else if n ≤ 2047 then (192, 1) else if n ≤ 65535 then (224, 2)
  else (240, 3)

/-- The bytes of a character are the digits of its code point. -/
theorem encodeChar_digits (c : Char) (rest : List UInt8)
    : String.utf8EncodeChar c ++ rest
      = digits (size c.toNat).1 (size c.toNat).2 c.toNat rest := by
  have valid : c.toNat < 0xD800 ∨ (0xDFFF < c.toNat ∧ c.toNat < 0x110000) := c.valid
  rw [utf8EncodeChar_eq]
  generalize c.toNat = n at *
  unfold size
  split
  · rfl
  split
  · rw [show n / 64 % 32 = n / 64 by omega]
    rfl
  split
  · rw [show n / 4096 % 16 = n / 64 / 64 by omega]
    rfl
  · rw [show n / 262144 % 8 = n / 64 / 64 / 64 by omega,
      show n / 4096 % 64 = n / 64 / 64 % 64 by omega]
    rfl

/-- The first of the bytes is the number without its lower digits. -/
theorem digits_eq_cons (first more n : Nat) (rest : List UInt8)
    : ∃ tail, digits first more n rest = UInt8.ofNat (n / 64 ^ more + first) :: tail := by
  induction more generalizing n rest with
  | zero => exact ⟨rest, by simp [digits]⟩
  | succ more ih =>
      obtain ⟨tail, same⟩ := ih (n / 64) (UInt8.ofNat (n % 64 + 128) :: rest)
      exact ⟨tail, by rw [digits, same, Nat.div_div_eq_div_mul, ← Nat.pow_succ']⟩

theorem ofNat_lt_ofNat {m n : Nat} (byte : n < 256) (less : m < n)
    : UInt8.ofNat m < UInt8.ofNat n := by
  rw [UInt8.lt_iff_toNat_lt, UInt8.toNat_ofNat_of_lt' byte,
    UInt8.toNat_ofNat_of_lt' (Nat.lt_trans less byte)]
  exact less

/-- Fewer bytes come first, as their first byte is the smaller one. -/
theorem digits_lt_of_first {first first' more more' m n : Nat}
    (byte : n / 64 ^ more' + first' < 256)
    (less : m / 64 ^ more + first < n / 64 ^ more' + first') (rest rest' : List UInt8)
    : digits first more m rest < digits first' more' n rest' := by
  obtain ⟨tail, same⟩ := digits_eq_cons first more m rest
  obtain ⟨tail', same'⟩ := digits_eq_cons first' more' n rest'
  rw [same, same']
  exact List.cons_lt_cons_iff.mpr (Or.inl (ofNat_lt_ofNat byte less))

/-- As many bytes are in the order of the numbers, and then in that of what follows. Witness:
induction on the bytes; numbers are compared without their last digits first.
-/
theorem digits_lt {first more m n : Nat} (byte : n / 64 ^ more + first < 256)
    {rest rest' : List UInt8} (less : m < n ∨ m = n ∧ rest < rest')
    : digits first more m rest < digits first more n rest' := by
  induction more generalizing m n rest rest' with
  | zero =>
      rw [Nat.pow_zero, Nat.div_one] at byte
      refine List.cons_lt_cons_iff.mpr ?_
      rcases less with less | ⟨rfl, less⟩
      · exact Or.inl (ofNat_lt_ofNat byte (Nat.add_lt_add_right less first))
      · exact Or.inr ⟨rfl, less⟩
  | succ more ih =>
      refine ih (by rwa [Nat.div_div_eq_div_mul, ← Nat.pow_succ']) ?_
      rcases less with less | ⟨rfl, less⟩
      · have order : m / 64 < n / 64 ∨ m / 64 = n / 64 ∧ m % 64 < n % 64 := by omega
        refine order.imp id fun ⟨same, last⟩ => ⟨same, List.cons_lt_cons_iff.mpr (Or.inl ?_)⟩
        exact ofNat_lt_ofNat (by omega) (Nat.add_lt_add_right last 128)
      · exact Or.inr ⟨rfl, List.cons_lt_cons_iff.mpr (Or.inr ⟨rfl, less⟩)⟩

-----------------------------------------------------------------------------------------
-- Characters and texts
-----------------------------------------------------------------------------------------

/-- Of two code points the smaller one has as many bytes, or the smaller first byte. -/
theorem size_lt {m n : Nat} (less : m < n)
    : size m = size n
      ∨ m / 64 ^ (size m).2 + (size m).1 < n / 64 ^ (size n).2 + (size n).1 := by
  unfold size
  grind

/-- The bytes of a character are below those of a later one, whatever follows. -/
theorem encodeChar_append_lt {c d : Char} (less : c.toNat < d.toNat) (rest rest' : List UInt8)
    : String.utf8EncodeChar c ++ rest < String.utf8EncodeChar d ++ rest' := by
  have byte : d.toNat / 64 ^ (size d.toNat).2 + (size d.toNat).1 < 256 := by
    have valid : d.toNat < 0xD800 ∨ (0xDFFF < d.toNat ∧ d.toNat < 0x110000) := d.valid
    unfold size
    grind
  rw [encodeChar_digits, encodeChar_digits]
  rcases size_lt less with same | first
  · rw [same]
    exact digits_lt byte (Or.inl less)
  · exact digits_lt_of_first byte first rest rest'

/-- Texts are in the order of their bytes. Witness: induction on the first text; the bytes of a
character decide between any two texts that differ there.
-/
theorem encode_lt_encode {first second : String} (less : first < second)
    : encode first < encode second := by
  rw [encode_eq_flatMap, encode_eq_flatMap]
  rw [String.lt_iff_toList_lt] at less
  generalize first.toList = cs at less
  generalize second.toList = ds at less
  induction less with
  | @nil d ds =>
      obtain ⟨tail, same⟩ := digits_eq_cons (size d.toNat).1 (size d.toNat).2 d.toNat
        (ds.flatMap String.utf8EncodeChar)
      rw [List.flatMap_cons, encodeChar_digits, same]
      exact List.nil_lt_cons _ _
  | @cons c cs ds _ ih =>
      rw [List.flatMap_cons, List.flatMap_cons]
      exact List.append_left_lt ih
  | @rel c cs d ds less =>
      rw [List.flatMap_cons, List.flatMap_cons]
      exact encodeChar_append_lt less _ _

end ObjectGrants.Text.Utf8
