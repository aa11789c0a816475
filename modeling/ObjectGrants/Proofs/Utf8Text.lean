import ObjectGrants.Text.Utf8

/-! The bytes of a text are read as the characters of that text, without an error. A character has
at most four bytes; the first tells how many follow, and each that follows adds six bits.
-/

namespace ObjectGrants.Text.Utf8

theorem toNat_tail {t : Nat} (six : t < 64) : (UInt8.ofNat (t + 128)).toNat = t + 128 :=
  UInt8.toNat_ofNat_of_lt' (Nat.lt_trans (Nat.add_lt_add_right six 128) (by decide))

/-- The first of several bytes. -/
theorem scanFrom_of_begun {n : Nat} (byte : n < 256) {p : Partial} (begun : lead n = .begun p)
    (rest : List UInt8)
    : scanFrom none (UInt8.ofNat n :: rest) = scanFrom (some p) rest := by
  rw [scanFrom, UInt8.toNat_ofNat_of_lt' byte, begun]

/-- A byte behind the first one, with further bytes to follow. -/
theorem scanFrom_of_more {least greatest more bits t : Nat} (six : t < 64)
    (above : least ≤ t + 128) (below : t + 128 ≤ greatest) (rest : List UInt8)
    : scanFrom (some ⟨least, greatest, more + 1, bits⟩) (UInt8.ofNat (t + 128) :: rest)
      = scanFrom (some ⟨0x80, 0xBF, more, bits * 64 + t⟩) rest := by
  simp only [scanFrom, toNat_tail six, above, below, and_self, if_true, Nat.add_sub_cancel]

/-- The last byte of a character. -/
theorem scanFrom_of_last {least greatest bits t : Nat} (six : t < 64)
    (above : least ≤ t + 128) (below : t + 128 ≤ greatest) (rest : List UInt8)
    : scanFrom (some ⟨least, greatest, 0, bits⟩) (UInt8.ofNat (t + 128) :: rest)
      = some (Char.ofNat (bits * 64 + t)) :: scanFrom none rest := by
  simp only [scanFrom, toNat_tail six, above, below, and_self, if_true, Nat.add_sub_cancel]

theorem lead_of_two {k : Nat} (least : 2 ≤ k) (greatest : k < 32)
    : lead (k + 0xC0) = .begun ⟨0x80, 0xBF, 0, k⟩ := by
  rw [lead, if_neg (by omega), if_neg (by omega), if_pos (by omega), Nat.add_sub_cancel]

theorem lead_of_three {k : Nat} (greatest : k < 16)
    : lead (k + 0xE0)
      = .begun ⟨if k = 0 then 0xA0 else 0x80, if k = 13 then 0x9F else 0xBF, 1, k⟩ := by
  rw [lead, if_neg (by omega), if_neg (by omega), if_neg (by omega), if_pos (by omega),
    Nat.add_sub_cancel]
  simp only [Nat.reduceEqDiff, Nat.add_eq_right]

theorem lead_of_four {k : Nat} (greatest : k < 5)
    : lead (k + 0xF0)
      = .begun ⟨if k = 0 then 0x90 else 0x80, if k = 4 then 0x8F else 0xBF, 2, k⟩ := by
  rw [lead, if_neg (by omega), if_neg (by omega), if_neg (by omega), if_neg (by omega),
    if_pos (by omega), Nat.add_sub_cancel]
  simp only [Nat.reduceEqDiff, Nat.add_eq_right]

theorem scanFrom_two {a b : Nat} (least : 2 ≤ a) (greatest : a < 32) (six : b < 64)
    (rest : List UInt8)
    : scanFrom none (UInt8.ofNat (a + 0xC0) :: UInt8.ofNat (b + 128) :: rest)
      = some (Char.ofNat (a * 64 + b)) :: scanFrom none rest := by
  rw [scanFrom_of_begun (by omega) (lead_of_two least greatest),
    scanFrom_of_last six (by omega) (by omega)]

/-- Three bytes. The second one excludes shorter forms and surrogates. -/
theorem scanFrom_three {a b c : Nat} (greatest : a < 16) (second : b < 64) (third : c < 64)
    (long : a = 0 → 32 ≤ b) (scalar : a = 13 → b < 32) (rest : List UInt8)
    : scanFrom none
          (UInt8.ofNat (a + 0xE0) :: UInt8.ofNat (b + 128) :: UInt8.ofNat (c + 128) :: rest)
      = some (Char.ofNat ((a * 64 + b) * 64 + c)) :: scanFrom none rest := by
  rw [scanFrom_of_begun (by omega) (lead_of_three greatest),
    scanFrom_of_more second (by split <;> omega) (by split <;> omega),
    scanFrom_of_last third (by omega) (by omega)]

/-- Four bytes. The second one excludes shorter forms and numbers that are no code points. -/
theorem scanFrom_four {a b c d : Nat} (greatest : a < 5) (second : b < 64) (third : c < 64)
    (fourth : d < 64) (long : a = 0 → 16 ≤ b) (scalar : a = 4 → b < 16) (rest : List UInt8)
    : scanFrom none
          (UInt8.ofNat (a + 0xF0) :: UInt8.ofNat (b + 128) :: UInt8.ofNat (c + 128)
            :: UInt8.ofNat (d + 128) :: rest)
      = some (Char.ofNat (((a * 64 + b) * 64 + c) * 64 + d)) :: scanFrom none rest := by
  rw [scanFrom_of_begun (by omega) (lead_of_four greatest),
    scanFrom_of_more second (by split <;> omega) (by split <;> omega),
    scanFrom_of_more third (by omega) (by omega), scanFrom_of_last fourth (by omega) (by omega)]

/-- The bytes of a character, by its code point. -/
theorem utf8EncodeChar_eq (c : Char)
    : String.utf8EncodeChar c
      = if c.toNat ≤ 127 then [UInt8.ofNat c.toNat]
        else if c.toNat ≤ 2047 then
          [UInt8.ofNat (c.toNat / 64 % 32 + 192), UInt8.ofNat (c.toNat % 64 + 128)]
        else if c.toNat ≤ 65535 then
          [UInt8.ofNat (c.toNat / 4096 % 16 + 224), UInt8.ofNat (c.toNat / 64 % 64 + 128),
            UInt8.ofNat (c.toNat % 64 + 128)]
        else
          [UInt8.ofNat (c.toNat / 262144 % 8 + 240), UInt8.ofNat (c.toNat / 4096 % 64 + 128),
            UInt8.ofNat (c.toNat / 64 % 64 + 128), UInt8.ofNat (c.toNat % 64 + 128)] :=
  rfl

/-- The bytes of a character are read as that character. Witness: the four lengths one by one; the
code point is put together from its parts in base 64.
-/
theorem scanFrom_encodeChar (c : Char) (rest : List UInt8)
    : scanFrom none (String.utf8EncodeChar c ++ rest) = some c :: scanFrom none rest := by
  have valid : c.toNat < 0xD800 ∨ (0xDFFF < c.toNat ∧ c.toNat < 0x110000) := c.valid
  have itself : Char.ofNat c.toNat = c := Char.ofNat_toNat c
  rw [utf8EncodeChar_eq]
  generalize c.toNat = v at *
  subst itself
  split
  · have small : v < UInt8.size := Nat.lt_of_le_of_lt ‹v ≤ 127› (by decide)
    have whole : lead v = .whole (Char.ofNat v) := by rw [lead, if_pos (by omega)]
    rw [List.singleton_append, scanFrom, UInt8.toNat_ofNat_of_lt' small, whole]
  split
  · refine (scanFrom_two (by omega) (by omega) (by omega) rest).trans ?_
    rw [show v / 64 % 32 * 64 + v % 64 = v by omega]
  split
  · refine (scanFrom_three (by omega) (by omega) (by omega) (by omega) (by omega) rest).trans ?_
    rw [show (v / 4096 % 16 * 64 + v / 64 % 64) * 64 + v % 64 = v by omega]
  · refine (scanFrom_four (by omega) (by omega) (by omega) (by omega) (by omega) (by omega)
      rest).trans ?_
    rw [show ((v / 262144 % 8 * 64 + v / 4096 % 64) * 64 + v / 64 % 64) * 64 + v % 64 = v by
      omega]

/-- The bytes of a text are those of its characters. -/
theorem encode_eq_flatMap (text : String)
    : encode text = text.toList.flatMap String.utf8EncodeChar := by
  have written := String.toByteArray_ofList (l := text.toList)
  rw [String.ofList_toList, List.utf8Encode] at written
  rw [encode, String.toUTF8, written, List.toList_data_toByteArray]

/-- The characters of the bytes of a text are those of the text. -/
theorem scan_encode (text : String) : scan (encode text) = text.toList.map some := by
  have each (cs : List Char)
      : scanFrom none (cs.flatMap String.utf8EncodeChar) = cs.map some := by
    induction cs with
    | nil => rfl
    | cons c cs ih => rw [List.flatMap_cons, scanFrom_encodeChar, ih, List.map_cons]
  rw [encode_eq_flatMap, scan, each]

end ObjectGrants.Text.Utf8
