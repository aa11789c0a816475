import ObjectGrants.Json.Wire
import ObjectGrants.Proofs.Utf8Text

/-! What is written for strings and integers, and how it is scanned into lexemes: piece by piece,
whatever follows. A word ends only where a lexeme of a single character follows.
-/

namespace ObjectGrants.Json

open Lexeme

-----------------------------------------------------------------------------------------
-- Steps of the scan
-----------------------------------------------------------------------------------------

namespace Lexeme

/-- The lexemes that a character completes stand in front of those of the rest. -/
theorem scanFrom_of_step {progress next : Progress} {c : Option Char} {lexemes : List Lexeme}
    (taken : step progress c = some (lexemes, next)) (rest : List (Option Char))
    : scanFrom progress (c :: rest) = (scanFrom next rest).map (lexemes ++ ·) := by
  simp only [scanFrom, taken, Option.bind_eq_bind, Option.bind_some]
  cases scanFrom next rest <;> rfl

theorem scanFrom_of_silent {progress next : Progress} {c : Option Char}
    (silent : step progress c = some ([], next)) (rest : List (Option Char))
    : scanFrom progress (c :: rest) = scanFrom next rest := by
  rw [scanFrom_of_step silent]
  simp

end Lexeme

-----------------------------------------------------------------------------------------
-- Strings
-----------------------------------------------------------------------------------------

/-- `piece` is how the written form of `c` is scanned within a string, and stands for `c`. -/
structure Spells (piece : Piece) (c : Char) : Prop where
  scanned
    : ∀ before rest,
        scanFrom (.inString before) ((Writer.escaped c).map some ++ rest)
        = scanFrom (.inString (piece :: before)) rest
  read : ∀ pieces, Piece.chars? (piece :: pieces) = (Piece.chars? pieces).map (c :: ·)

theorem spells_of_shortEscape {mark c : Char} (written : Writer.escaped c = ['\\', mark])
    (named : shortEscape? mark = some c)
    : Spells (.char c) c := by
  refine ⟨fun before rest => ?_, fun _ => rfl⟩
  have not_unit : mark ≠ 'u' := by
    rintro rfl
    cases named
  have closes
      : step (.afterBackslash before) (some mark)
        = some ([], .inString (.char c :: before)) := by
    simp [step, not_unit, named]
  rw [written]
  exact (scanFrom_of_silent rfl _).trans (scanFrom_of_silent closes rest)

theorem hexDigit?_hexDigit {n : Nat} (bound : n < 16)
    : hexDigit? (Writer.hexDigit n) = some n := by
  have all : ∀ digit : Fin 16, hexDigit? (Writer.hexDigit digit) = some digit.val := by decide
  exact all ⟨n, bound⟩

theorem spells_of_unit {c : Char} (control : c.toNat < 0x20)
    (written
      : Writer.escaped c
        = ['\\', 'u', '0', '0', Writer.hexDigit (c.toNat / 16), Writer.hexDigit (c.toNat % 16)])
    : Spells (.unit c.toNat) c := by
  constructor
  · intro before rest
    have third
        : step (.inUnit before 2 0) (some (Writer.hexDigit (c.toNat / 16)))
          = some ([], .inUnit before 3 (c.toNat / 16)) := by
      simp [step, hexDigit?_hexDigit (show c.toNat / 16 < 16 by omega)]
    have fourth
        : step (.inUnit before 3 (c.toNat / 16)) (some (Writer.hexDigit (c.toNat % 16)))
          = some ([], .inString (.unit c.toNat :: before)) := by
      simp [step, hexDigit?_hexDigit (Nat.mod_lt c.toNat (by decide : 16 > 0)), Nat.div_add_mod]
    rw [written]
    calc scanFrom (.inString before) _
      _ = scanFrom (.inUnit before 2 0) (some (Writer.hexDigit (c.toNat / 16)) ::
            some (Writer.hexDigit (c.toNat % 16)) :: rest) :=
        ((scanFrom_of_silent rfl _).trans (scanFrom_of_silent rfl _)).trans
          ((scanFrom_of_silent rfl _).trans (scanFrom_of_silent rfl _))
      _ = scanFrom (.inString (.unit c.toNat :: before)) rest :=
        (scanFrom_of_silent third _).trans (scanFrom_of_silent fourth rest)
  · intro pieces
    have no_high : ¬ (0xD800 ≤ c.toNat ∧ c.toNat < 0xDC00) := by omega
    have no_low : ¬ (0xDC00 ≤ c.toNat ∧ c.toNat < 0xE000) := by omega
    rw [Piece.chars?.eq_def]
    simp only [no_high, no_low, if_false, Char.ofNat_toNat]

theorem spells_of_plain {c : Char} (written : Writer.escaped c = [c]) (quote : c ≠ '"')
    (backslash : c ≠ '\\') (printed : ¬ c.toNat < 0x20)
    : Spells (.char c) c := by
  refine ⟨fun before rest => ?_, fun _ => rfl⟩
  rw [written]
  exact scanFrom_of_silent (by simp only [step, quote, backslash, printed, if_false]) rest

/-- Every character is spelled by one piece. -/
theorem exists_spells (c : Char) : ∃ piece, Spells piece c := by
  by_cases quote : c = '"'
  · exact ⟨_, spells_of_shortEscape (by rw [quote]; rfl) (by rw [quote]; rfl)⟩
  by_cases backslash : c = '\\'
  · exact ⟨_, spells_of_shortEscape (by rw [backslash]; rfl) (by rw [backslash]; rfl)⟩
  by_cases backspace : c = '\x08'
  · exact ⟨_, spells_of_shortEscape (by rw [backspace]; rfl) (by rw [backspace]; rfl)⟩
  by_cases formFeed : c = '\x0C'
  · exact ⟨_, spells_of_shortEscape (by rw [formFeed]; rfl) (by rw [formFeed]; rfl)⟩
  by_cases newline : c = '\n'
  · exact ⟨_, spells_of_shortEscape (by rw [newline]; rfl) (by rw [newline]; rfl)⟩
  by_cases carriageReturn : c = '\r'
  · exact ⟨_, spells_of_shortEscape (by rw [carriageReturn]; rfl) (by rw [carriageReturn]; rfl)⟩
  by_cases tab : c = '\t'
  · exact ⟨_, spells_of_shortEscape (by rw [tab]; rfl) (by rw [tab]; rfl)⟩
  by_cases control : c.toNat < 0x20
  · exact ⟨_, spells_of_unit control (by simp [Writer.escaped, *])⟩
  · exact ⟨_, spells_of_plain (by simp [Writer.escaped, *]) quote backslash control⟩

/-- The escaped characters of a text are scanned into pieces that stand for them. Witness:
induction on the text, one piece for each character.
-/
theorem exists_pieces (cs : List Char)
    : ∃ pieces,
        (∀ before rest,
          scanFrom (.inString before) ((cs.flatMap Writer.escaped).map some ++ rest)
          = scanFrom (.inString (pieces.reverse ++ before)) rest)
        ∧ Piece.chars? pieces = some cs := by
  induction cs with
  | nil => exact ⟨[], fun _ _ => rfl, rfl⟩
  | cons c cs ih =>
      obtain ⟨piece, spells⟩ := exists_spells c
      obtain ⟨pieces, scanned, read⟩ := ih
      refine ⟨piece :: pieces, fun before rest => ?_, by rw [spells.read, read]; rfl⟩
      rw [List.flatMap_cons, List.map_append, List.append_assoc, spells.scanned, scanned,
        List.reverse_cons, List.append_assoc, List.singleton_append]

theorem exists_quoted (text : String)
    : ∃ pieces,
        (∀ rest,
          scanFrom .between ((Writer.quoted text).map some ++ rest)
          = (scanFrom .between rest).map (.string pieces :: ·))
        ∧ Reader.text? pieces = some text := by
  obtain ⟨pieces, scanned, read⟩ := exists_pieces text.toList
  refine ⟨pieces, fun rest => ?_, by rw [Reader.text?, read]; simp⟩
  have closes
      : step (.inString (pieces.reverse ++ [])) (some '"')
        = some ([.string pieces], .between) := by
    simp [step]
  calc scanFrom .between ((Writer.quoted text).map some ++ rest)
    _ = scanFrom (.inString [])
          ((text.toList.flatMap Writer.escaped).map some ++ some '"' :: rest) := by
      rw [Writer.quoted, List.cons_append, List.map_cons, List.cons_append, List.map_append,
        List.append_assoc, scanFrom_of_silent rfl]
      rfl
    _ = scanFrom (.inString (pieces.reverse ++ [])) (some '"' :: rest) := scanned [] _
    _ = (scanFrom .between rest).map (.string pieces :: ·) := scanFrom_of_step closes rest

-----------------------------------------------------------------------------------------
-- Words
-----------------------------------------------------------------------------------------

/-- No word goes on with `rest`: it is empty or begins with a lexeme of a single character. -/
inductive EndsWord : List (Option Char) → Prop
  | atEnd : EndsWord []
  | before {c : Char} {lexeme : Lexeme} (alone : begin c = ([lexeme], .between))
      (rest : List (Option Char))
      : EndsWord (some c :: rest)

/-- The characters that a word consists of. -/
def InWord (c : Char) : Prop :=
  begin c = ([], .inWord [c])
  deriving Decidable

theorem scanFrom_inWord {word : List Char} {lexeme : Lexeme} {rest : List (Option Char)}
    (within : ∀ c ∈ word, InWord c) (ends : EndsWord rest) (reversed : List Char)
    (means : ofWord? (reversed.reverse ++ word) = some lexeme)
    : scanFrom (.inWord reversed) (word.map some ++ rest)
      = (scanFrom .between rest).map (lexeme :: ·) := by
  induction word generalizing reversed with
  | nil =>
      rw [List.append_nil] at means
      cases ends with
      | atEnd => simp [scanFrom, finish, means]
      | @before c mark alone rest =>
          have inside
              : step (.inWord reversed) (some c) = some ([lexeme, mark], .between) := by
            simp [step, alone, means]
          have outside : step .between (some c) = some ([mark], .between) := by
            simp [step, alone]
          rw [List.map_nil, List.nil_append, scanFrom_of_step outside, scanFrom_of_step inside,
            Option.map_map]
          rfl
  | cons c word ih =>
      have goes_on : step (.inWord reversed) (some c) = some ([], .inWord (c :: reversed)) := by
        have plain : begin c = ([], .inWord [c]) := within c List.mem_cons_self
        simp [step, plain]
      rw [List.map_cons, List.cons_append, scanFrom_of_silent goes_on]
      exact ih (fun d member => within d (List.mem_cons_of_mem c member)) (c :: reversed)
        (by simpa using means)

theorem scanFrom_word {word : List Char} {lexeme : Lexeme} {rest : List (Option Char)}
    (within : ∀ c ∈ word, InWord c) (ends : EndsWord rest)
    (means : ofWord? word = some lexeme)
    : scanFrom .between (word.map some ++ rest)
      = (scanFrom .between rest).map (lexeme :: ·) := by
  cases word with
  | nil => cases means
  | cons c word =>
      have opens : step .between (some c) = some ([], .inWord [c]) :=
        congrArg some (within c List.mem_cons_self)
      rw [List.map_cons, List.cons_append, scanFrom_of_silent opens]
      exact scanFrom_inWord (fun d member => within d (List.mem_cons_of_mem c member)) ends [c]
        means

-----------------------------------------------------------------------------------------
-- Integers
-----------------------------------------------------------------------------------------

theorem exists_digitChar {c : Char} (digit : c.isDigit)
    : ∃ d : Fin 10, c = Nat.digitChar d := by
  obtain ⟨least, greatest⟩ : 48 ≤ c.toNat ∧ c.toNat ≤ 57 := Char.isDigit_iff_toNat.mp digit
  have code : ∀ d : Fin 10, (Nat.digitChar d).toNat = 48 + d.val := by decide
  refine ⟨⟨c.toNat - 48, by omega⟩, Char.toNat_inj.mp ?_⟩
  rw [code]
  simp only
  omega

theorem inWord_of_isDigit {c : Char} (digit : c.isDigit) : InWord c := by
  obtain ⟨d, rfl⟩ := exists_digitChar digit
  exact (by decide : ∀ d : Fin 10, begin (Nat.digitChar d) = ([], .inWord [Nat.digitChar d])) d

/-- The value of a decimal digit. -/
def digitValue (c : Char) : Nat :=
  c.toNat - '0'.toNat

theorem digit?_of_isDigit {c : Char} (digit : c.isDigit)
    : Numeral.digit? c = some (digitValue c) := by
  obtain ⟨d, rfl⟩ := exists_digitChar digit
  exact (by decide : ∀ d : Fin 10,
    Numeral.digit? (Nat.digitChar d) = some (digitValue (Nat.digitChar d))) d

theorem spanDigits_of_isDigit {cs : List Char} (digits : ∀ c ∈ cs, c.isDigit)
    : Numeral.spanDigits cs = (cs.map digitValue, []) := by
  induction cs with
  | nil => rfl
  | cons c cs ih =>
      rw [Numeral.spanDigits, digit?_of_isDigit (digits c List.mem_cons_self),
        ih fun d member => digits d (List.mem_cons_of_mem c member)]
      rfl

/-- The values of the digits in the decimal form of a number. -/
def decimal (n : Nat) : List Nat :=
  (Nat.toDigits 10 n).map digitValue

theorem digitValue_digitChar {d : Nat} (digit : d < 10) : digitValue (Nat.digitChar d) = d := by
  have all : ∀ d : Fin 10, digitValue (Nat.digitChar d) = d.val := by decide
  exact all ⟨d, digit⟩

theorem decimal_of_lt {n : Nat} (small : n < 10) : decimal n = [n] := by
  rw [decimal, Nat.toDigits_of_lt_base small, List.map_singleton, digitValue_digitChar small]

theorem decimal_of_le {n : Nat} (large : 10 ≤ n)
    : decimal n = decimal (n / 10) ++ [n % 10] := by
  rw [decimal, Nat.toDigits_of_base_le (by decide) large, List.map_append, List.map_singleton,
    digitValue_digitChar (Nat.mod_lt n (by decide)), decimal]

theorem ofDigits_decimal (n : Nat) : Numeral.ofDigits (decimal n) = n := by
  rw [Numeral.ofDigits, decimal, List.foldl_map]
  exact Nat.ofDigitChars_toDigits (by decide) (by decide)

theorem decimal_ne_nil (n : Nat) : decimal n ≠ [] := by
  simp [decimal, Nat.toDigits_ne_nil]

/-- No zero leads the digits of a number above zero. Witness: induction on the number, whose first
digit is that of the number without its last digit.
-/
theorem decimal_head? {n : Nat} (positive : 0 < n) : (decimal n).head? ≠ some 0 := by
  induction n using Nat.strongRecOn with
  | ind n ih =>
      rcases Nat.lt_or_ge n 10 with small | large
      · rw [decimal_of_lt small, List.head?_singleton, Ne, Option.some.injEq]
        omega
      · rw [decimal_of_le large, List.head?_append, Option.or_of_isSome (by simp [decimal_ne_nil])]
        exact ih (n / 10) (by omega) (by omega)

/-- The digits of a number have the form that is asked of a numeral. -/
theorem decimal_wellFormed (n : Nat)
    : (decimal n).length = 1 ∨ (1 < (decimal n).length ∧ (decimal n).head? ≠ some 0) := by
  rcases Nat.lt_or_ge n 10 with small | large
  · exact .inl (by rw [decimal_of_lt small, List.length_singleton])
  · refine .inr ⟨?_, decimal_head? (by omega)⟩
    have some_digit := List.length_pos_iff.mpr (decimal_ne_nil (n / 10))
    rw [decimal_of_le large, List.length_append, List.length_singleton]
    omega

/-- The numeral of an integer: a sign and digits. -/
def integerNumeral (negative : Bool) (n : Nat) : Numeral :=
  ⟨negative, decimal n, none, none⟩

theorem isDigit_of_mem_toDigits {n : Nat} {c : Char} (member : c ∈ Nat.toDigits 10 n)
    : c.isDigit :=
  Nat.isDigit_of_mem_toDigits (by decide) (by decide) member

theorem spanDigits_toDigits (n : Nat)
    : Numeral.spanDigits (Nat.toDigits 10 n) = (decimal n, []) :=
  spanDigits_of_isDigit fun _ => isDigit_of_mem_toDigits

theorem ofChars?_minus (n : Nat)
    : Numeral.ofChars? ('-' :: Nat.toDigits 10 n) = some (integerNumeral true n) := by
  unfold Numeral.ofChars? guard
  simp [spanDigits_toDigits, decimal_wellFormed, Numeral.exponentOf?]
  rfl

theorem ofChars?_digits (n : Nat)
    : Numeral.ofChars? (Nat.toDigits 10 n) = some (integerNumeral false n) := by
  have unsigned : ∀ cs, Nat.toDigits 10 n = '-' :: cs → False := by
    intro cs same
    have minus : '-' ∈ Nat.toDigits 10 n := by rw [same]; exact List.mem_cons_self
    exact absurd (isDigit_of_mem_toDigits minus) (by decide)
  -- the match on a minus sign is settled by `unsigned`
  unfold Numeral.ofChars? guard
  simp [spanDigits_toDigits, decimal_wellFormed, Numeral.exponentOf?]
  rfl

/-- A numeral is none of the literal names. -/
theorem ofWord?_of_numeral {word : List Char} {numeral : Numeral}
    (read : Numeral.ofChars? word = some numeral)
    : ofWord? word = some (.numeral numeral) := by
  have no_name : ∀ name, Numeral.ofChars? name = none → word ≠ name := by
    rintro name unread rfl
    rw [unread] at read
    cases read
  rw [ofWord?, if_neg (no_name _ rfl), if_neg (no_name _ rfl), if_neg (no_name _ rfl), read]
  rfl

/-- The integers that 64 bits hold, with or without a sign. -/
def InRange (value : Int) : Prop :=
  -0x8000000000000000 ≤ value ∧ value < 0x10000000000000000

theorem number?_integerNumeral_false {n : Nat} (bound : n < UInt64.size)
    : (integerNumeral false n).number? = some (.integer n) := by
  simp [Numeral.number?, integerNumeral, ofDigits_decimal, bound]

theorem number?_integerNumeral_true {n : Nat} (positive : 0 < n)
    (bound : n ≤ Nat.pow 2 63)
    : (integerNumeral true n).number? = some (.integer (-n)) := by
  simp [Numeral.number?, integerNumeral, ofDigits_decimal, positive, bound]

/-- An integer is written as one word, a numeral that stands for it. -/
theorem exists_numeral {value : Int} (range : InRange value)
    : ∃ numeral : Numeral,
        (∀ c ∈ Writer.number (.integer value), InWord c)
        ∧ ofWord? (Writer.number (.integer value)) = some (.numeral numeral)
        ∧ numeral.number? = some (.integer value) := by
  obtain ⟨least, greatest⟩ := range
  cases value with
  | ofNat n =>
      have written : Writer.number (.integer (.ofNat n)) = Nat.toDigits 10 n := Nat.toList_repr
      have bound : n < UInt64.size := Int.ofNat_lt.mp greatest
      rw [written]
      exact ⟨_, fun c member => inWord_of_isDigit (isDigit_of_mem_toDigits member),
        ofWord?_of_numeral (ofChars?_digits n), number?_integerNumeral_false bound⟩
  | negSucc n =>
      have written
          : Writer.number (.integer (.negSucc n)) = '-' :: Nat.toDigits 10 (n + 1) := by
        rw [← Nat.toList_repr]
        exact String.toList_append
      have bound : n + 1 ≤ 0x8000000000000000 := by omega
      rw [written]
      refine ⟨_, ?_, ofWord?_of_numeral (ofChars?_minus (n + 1)),
        number?_integerNumeral_true n.succ_pos bound⟩
      rintro c (_ | ⟨_, member⟩)
      · rfl
      · exact inWord_of_isDigit (isDigit_of_mem_toDigits member)

end ObjectGrants.Json
