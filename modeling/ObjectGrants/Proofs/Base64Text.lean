import ObjectGrants.Encoding.Base64Url
import ObjectGrants.Proofs.Traversal

/-! The base64url text of a sequence of bytes is read as these bytes, and nothing else can be
read. Every letter stands for the six bits it was written for, and the bits of three bytes are
those of four letters.
-/

namespace ObjectGrants.Encoding.Base64Url

/-- The six-bit numbers whose letters stand for a sequence of bytes. -/
def sextets : List UInt8 → List Nat
  | a :: b :: c :: rest =>
      let bits := a.toNat * 65536 + b.toNat * 256 + c.toNat
      bits / 262144 :: bits / 4096 % 64 :: bits / 64 % 64 :: bits % 64 :: sextets rest
  | [a, b] =>
      let bits := a.toNat * 1024 + b.toNat * 4
      [bits / 4096, bits / 64 % 64, bits % 64]
  | [a] => [a.toNat / 4, a.toNat * 16 % 64]
  | [] => []

/-- The letters of bytes are those of their six-bit numbers, by induction on three bytes at a
time.
-/
theorem letters_eq_map (bytes : List UInt8) : letters bytes = (sextets bytes).map letter := by
  induction bytes using letters.induct with
  | case1 a b c rest ih => simp [letters, sextets, ih]
  | case2 a b => simp [letters, sextets]
  | case3 a => simp [letters, sextets]
  | case4 => rfl

theorem sextets_lt {bytes : List UInt8} {n : Nat} (member : n ∈ sextets bytes) : n < 64 := by
  induction bytes using letters.induct with
  | case1 a b c rest ih =>
      have bounds := And.intro a.toNat_lt (And.intro b.toNat_lt c.toNat_lt)
      simp only [sextets, List.mem_cons] at member
      rcases member with rfl | rfl | rfl | rfl | later
      · omega
      · omega
      · omega
      · omega
      · exact ih later
  | case2 a b =>
      have bounds := And.intro a.toNat_lt b.toNat_lt
      simp only [sextets, List.mem_cons, List.not_mem_nil, or_false] at member
      omega
  | case3 a =>
      have bound := a.toNat_lt
      simp only [sextets, List.mem_cons, List.not_mem_nil, or_false] at member
      omega
  | case4 => exact nomatch member

/-- A letter is read as the number it was written for. -/
theorem index?_letter {n : Nat} (six : n < 64) : index? (letter n) = some n := by
  have all : ∀ n : Fin 64, index? (letter n) = some n.val := by decide
  exact all ⟨n, six⟩

/-- The bits of a number above those of a byte do not count. -/
theorem ofNat_eq {n : Nat} {byte : UInt8} (same : n % 256 = byte.toNat)
    : UInt8.ofNat n = byte := by
  rw [← UInt8.toNat_inj, UInt8.toNat_ofNat', same]

/-- The bits of bytes are put together again as those bytes, by induction on three bytes at a
time.
-/
theorem bytes?_sextets (bytes : List UInt8) : bytes? (sextets bytes) = some bytes := by
  induction bytes using letters.induct with
  | case1 a b c rest ih =>
      have bounds := And.intro a.toNat_lt (And.intro b.toNat_lt c.toNat_lt)
      simp only [sextets, bytes?, ih, Option.map_some, Option.some.injEq, List.cons.injEq,
        and_true]
      exact ⟨ofNat_eq (by omega), ofNat_eq (by omega), ofNat_eq (by omega)⟩
  | case2 a b =>
      have bounds := And.intro a.toNat_lt b.toNat_lt
      simp only [sextets, bytes?]
      rw [if_pos (by omega), Option.some.injEq, List.cons.injEq, List.cons.injEq]
      exact ⟨ofNat_eq (by omega), ofNat_eq (by omega), rfl⟩
  | case3 a =>
      have bound := a.toNat_lt
      simp only [sextets, bytes?]
      rw [if_pos (by omega), Option.some.injEq, List.cons.injEq]
      exact ⟨ofNat_eq (by omega), rfl⟩
  | case4 => rfl

/-- Reading the letters of bytes gives these bytes. -/
theorem decode?_letters (bytes : List UInt8) : decode? (letters bytes) = some bytes := by
  have numbers : ((sextets bytes).map letter).mapM index? = some (sextets bytes) :=
    Traversal.mapM_map_eq_some fun _ member => index?_letter (sextets_lt member)
  rw [decode?, letters_eq_map, numbers, Option.bind_some, bytes?_sextets]

/-- A letter is that of its number. -/
theorem letter_of_index? {c : Char} {n : Nat} (found : index? c = some n)
    : n < 64 ∧ letter n = c := by
  have within (low high : Char)
      : low ≤ c ∧ c ≤ high ↔ low.toNat ≤ c.toNat ∧ c.toNat ≤ high.toNat :=
    Iff.rfl
  have codes : 'A'.toNat = 65 ∧ 'Z'.toNat = 90 ∧ 'a'.toNat = 97 ∧ 'z'.toNat = 122
      ∧ '0'.toNat = 48 ∧ '9'.toNat = 57 := by decide
  have char_eq {code : Nat} (same : code = c.toNat) : Char.ofNat code = c :=
    same ▸ Char.ofNat_toNat c
  simp only [index?, within] at found
  unfold letter
  split_ifs at found
  · obtain rfl := Option.some.inj found
    exact ⟨by omega, (if_pos (by omega)).trans (char_eq (by omega))⟩
  · obtain rfl := Option.some.inj found
    rw [if_neg (by omega), if_pos (by omega)]
    exact ⟨by omega, char_eq (by omega)⟩
  · obtain rfl := Option.some.inj found
    rw [if_neg (by omega), if_neg (by omega), if_pos (by omega)]
    exact ⟨by omega, char_eq (by omega)⟩
  · next dash =>
      obtain rfl := Option.some.inj found
      exact ⟨by decide, dash.symm⟩
  · next line =>
      obtain rfl := Option.some.inj found
      exact ⟨by decide, line.symm⟩

/-- Numbers of six bits that make bytes are those of these bytes, by induction on four numbers at
a time. Bits that no byte uses are zero.
-/
theorem sextets_of_bytes? {numbers : List Nat} {bytes : List UInt8}
    (six : ∀ n ∈ numbers, n < 64) (made : bytes? numbers = some bytes)
    : sextets bytes = numbers := by
  induction numbers using bytes?.induct generalizing bytes with
  | case1 a b c d rest ih =>
      simp only [bytes?, Option.map_eq_some_iff] at made
      obtain ⟨following, given, rfl⟩ := made
      simp only [List.mem_cons, forall_eq_or_imp] at six
      obtain ⟨_, _, _, _, others⟩ := six
      simp only [sextets, UInt8.toNat_ofNat', ih others given, List.cons.injEq, and_true]
      omega
  | case2 a b c | case3 a b c | case4 a b | case5 a b =>
      simp only [bytes?, Option.ite_none_right_eq_some, Option.some.injEq] at made
      obtain ⟨zero, rfl⟩ := made
      simp only [List.mem_cons, forall_eq_or_imp] at six
      simp only [sextets, UInt8.toNat_ofNat', List.cons.injEq, and_true]
      omega
  | case6 => exact nomatch made
  | case7 =>
      obtain rfl := Option.some.inj made
      rfl

/-- What can be read are the letters of the bytes that are read, and nothing else. -/
theorem decode?_eq_some_iff {text : List Char} {bytes : List UInt8}
    : decode? text = some bytes ↔ letters bytes = text := by
  constructor
  · intro read
    obtain ⟨numbers, found, made⟩ := Option.bind_eq_some_iff.mp read
    have pairs : List.Forall₂ (fun c n => n < 64 ∧ letter n = c) text numbers :=
      (Traversal.mapM_eq_some_iff.mp found).imp fun _ _ => letter_of_index?
    have six : ∀ n ∈ numbers, n < 64 := by
      intro n member
      obtain ⟨_, _, small, _⟩ := Traversal.exists_partner pairs.flip member
      exact small
    have back : numbers.map letter = text.map id :=
      Traversal.map_eq_map (pairs.imp fun _ _ pair => pair.2)
    rw [letters_eq_map, sextets_of_bytes? six made, back, List.map_id]
  · intro same
    rw [← same]
    exact decode?_letters bytes

/-- The alphabet has no dot. -/
theorem dot_not_mem_letters (bytes : List UInt8) : '.' ∉ letters bytes := by
  have alphabet : ∀ n : Fin 64, letter n ≠ '.' := by decide
  intro dot
  rw [letters_eq_map, List.mem_map] at dot
  obtain ⟨n, member, same⟩ := dot
  exact alphabet ⟨n, sextets_lt member⟩ same

end ObjectGrants.Encoding.Base64Url
