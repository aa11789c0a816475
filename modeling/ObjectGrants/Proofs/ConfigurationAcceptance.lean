import Mathlib.Data.List.DropRight
import Mathlib.Data.Nat.Digits.Defs
import ObjectGrants.Configuration
import ObjectGrants.Proofs.Traversal

/-! Which variables make a configuration, and which configuration they make.

A number is what the digits of its variable write, and must fit the width of its field; a
variable that is present and cannot be used is refused, so a default stands for an absent
variable only.
-/

namespace ObjectGrants

open Traversal

-----------------------------------------------------------------------------------------
-- Decimal numerals
-----------------------------------------------------------------------------------------

namespace Number.Decimal

def IsDigit (c : Char) : Prop := '0' ≤ c ∧ c ≤ '9'

instance : DecidablePred IsDigit := fun c => inferInstanceAs (Decidable ('0' ≤ c ∧ c ≤ '9'))

/-- The number that decimal digits write, the most significant one first. -/
def valueOf (digits : List Char) : Nat :=
  Nat.ofDigits 10 (digits.reverse.map fun c => c.toNat - '0'.toNat)

/-- A text writes a number: digits, at least one, behind a plus sign or behind none. -/
inductive Writes : List Char → Nat → Prop where
  | plain {digits} (filled : digits ≠ []) (ascii : ∀ c ∈ digits, IsDigit c)
    : Writes digits (valueOf digits)
  | signed {digits} (filled : digits ≠ []) (ascii : ∀ c ∈ digits, IsDigit c)
    : Writes ('+' :: digits) (valueOf digits)

theorem valueOf_cons (c : Char) (digits : List Char)
    : valueOf (c :: digits)
      = (c.toNat - '0'.toNat) * 10 ^ digits.length + valueOf digits := by
  simp only [valueOf, List.reverse_cons, List.map_append, List.map_singleton,
    Nat.ofDigits_append, Nat.ofDigits_singleton, List.length_map, List.length_reverse]
  rw [Nat.mul_comm, Nat.add_comm]

/-- Reading behind a number succeeds exactly on digits that keep it below the bound. Witness:
induction on the digits; a number that has reached the bound only grows with more of them.
-/
theorem readBehind_eq_ok_iff {bound start value : Nat} {digits : List Char}
    (below : start < bound)
    : readBehind bound start digits = .ok value
      ↔ (∀ c ∈ digits, IsDigit c)
        ∧ value = start * 10 ^ digits.length + valueOf digits
        ∧ value < bound := by
  induction digits generalizing start with
  | nil =>
      simp only [readBehind, Except.ok.injEq, valueOf, List.reverse_nil, List.map_nil,
        Nat.ofDigits_nil, List.length_nil, List.not_mem_nil, false_implies, implies_true,
        pow_zero, Nat.mul_one, Nat.add_zero, true_and]
      omega
  | cons c digits ih =>
      have grows
          : start * 10 ^ (c :: digits).length + valueOf (c :: digits)
            = (10 * start + (c.toNat - '0'.toNat)) * 10 ^ digits.length + valueOf digits := by
        rw [valueOf_cons, List.length_cons]
        ring
      rw [readBehind, grows, List.forall_mem_cons]
      change (if IsDigit c then _ else _) = _ ↔ _
      by_cases digit : IsDigit c
      · rw [if_pos digit]
        dsimp only
        by_cases fits : 10 * start + (c.toNat - '0'.toNat) < bound
        · rw [if_pos fits, ih fits]
          simp [digit]
        · rw [if_neg fits]
          have reached
              : 10 * start + (c.toNat - '0'.toNat)
                ≤ (10 * start + (c.toNat - '0'.toNat)) * 10 ^ digits.length :=
            Nat.le_mul_of_pos_right _ (Nat.pow_pos (by decide))
          constructor
          · exact nofun
          · rintro ⟨_, rfl, small⟩
            omega
      · rw [if_neg digit]
        simp [digit]

/-- A text is read as a number exactly if it writes it and the number is below the bound. Witness:
a leading plus sign is no digit, so only the text behind it can be digits.
-/
theorem read_eq_ok_iff {bound value : Nat} {text : List Char} (positive : 0 < bound)
    : read bound text = .ok value ↔ Writes text value ∧ value < bound := by
  have behind {digits : List Char}
      : readBehind bound 0 digits = .ok value
        ↔ (∀ c ∈ digits, IsDigit c) ∧ value = valueOf digits ∧ value < bound := by
    rw [readBehind_eq_ok_iff positive, Nat.zero_mul, Nat.zero_add]
  constructor
  · intro found
    rcases text with _ | ⟨c, digits⟩
    · exact nomatch found
    · by_cases sign : c = '+'
      · subst sign
        rcases digits with _ | ⟨d, digits⟩
        · exact nomatch found
        · obtain ⟨ascii, rfl, fits⟩ := behind.mp found
          exact ⟨.signed (List.cons_ne_nil d digits) ascii, fits⟩
      · have unsigned : read bound (c :: digits) = readBehind bound 0 (c :: digits) := by
          simp [read, sign]
        obtain ⟨ascii, rfl, fits⟩ := behind.mp (unsigned.symm.trans found)
        exact ⟨.plain (List.cons_ne_nil c digits) ascii, fits⟩
  · rintro ⟨⟨filled, ascii⟩ | ⟨filled, ascii⟩, fits⟩
    · obtain ⟨c, digits, rfl⟩ := List.exists_cons_of_ne_nil filled
      have sign : c ≠ '+' := by
        rintro rfl
        exact absurd (ascii '+' List.mem_cons_self) (by decide)
      have unsigned : read bound (c :: digits) = readBehind bound 0 (c :: digits) := by
        simp [read, sign]
      rw [unsigned]
      exact behind.mpr ⟨ascii, rfl, fits⟩
    · obtain ⟨c, digits, rfl⟩ := List.exists_cons_of_ne_nil filled
      exact behind.mpr ⟨ascii, rfl, fits⟩

end Number.Decimal

namespace Configuration

open Number

variable {lookup : String → Option String}

-----------------------------------------------------------------------------------------
-- The URL of the authority
-----------------------------------------------------------------------------------------

/-- `kept` is what is left of a text without the slashes at its end. -/
def Unslashed (text kept : String) : Prop :=
  ∃ count,
    text.toList = kept.toList ++ List.replicate count '/' ∧ kept.toList.getLast? ≠ some '/'

theorem trimSlashes_eq_rdropWhile (text : String)
    : (trimSlashes text).toList = text.toList.rdropWhile (· = '/') :=
  String.toList_ofList

/-- Slashes behind a text that ends in none are all dropped, by induction on their number. -/
theorem rdropWhile_slashes {kept : List Char} (ends : kept.getLast? ≠ some '/') (count : Nat)
    : (kept ++ List.replicate count '/').rdropWhile (· = '/') = kept := by
  induction count with
  | zero =>
      rw [List.replicate_zero, List.append_nil, List.rdropWhile_eq_self_iff]
      intro filled
      rw [List.getLast?_eq_some_getLast filled] at ends
      simpa using ends
  | succ count ih =>
      rw [List.replicate_succ', ← List.append_assoc, List.rdropWhile_concat_pos _ _ _ (by simp)]
      exact ih

theorem trimSlashes_eq_iff {text kept : String}
    : trimSlashes text = kept ↔ Unslashed text kept := by
  constructor
  · rintro rfl
    unfold Unslashed
    rw [trimSlashes_eq_rdropWhile]
    refine ⟨(text.toList.rtakeWhile (· = '/')).length, ?_, ?_⟩
    · have slashes
          : text.toList.rtakeWhile (· = '/')
            = List.replicate (text.toList.rtakeWhile (· = '/')).length '/' :=
        List.eq_replicate_iff.mpr ⟨rfl, fun c member => by
          simpa using List.mem_rtakeWhile_imp member⟩
      rw [← slashes, List.rdropWhile_append_rtakeWhile]
    · intro last
      have filled := List.ne_nil_of_mem (List.mem_of_getLast? last)
      have same := (List.getLast_eq_iff_getLast?_eq_some filled).mpr last
      exact List.rdropWhile_last_not (· = '/') text.toList filled (by simpa using same)
  · rintro ⟨count, split, ends⟩
    rw [← String.toList_inj, trimSlashes_eq_rdropWhile, split, rdropWhile_slashes ends count]

/-- A URL of one of the two schemes. -/
def IsHttp (url : String) : Prop :=
  "http://".toList <+: url.toList ∨ "https://".toList <+: url.toList

theorem startsWith_iff {text start : String}
    : startsWith text start = true ↔ start.toList <+: text.toList :=
  List.isPrefixOf_iff_prefix

theorem unlessBlank_eq_some_iff {value : Option String} {text : String}
    : unlessBlank value = some text ↔ value = some text ∧ Text.isBlankText text = false := by
  simp [unlessBlank, Option.filter_eq_some_iff]

/-- A configuration passes its check exactly if its URL is of one of the two schemes and
nothing that has to be positive is zero. -/
theorem check_eq_ok_iff {configuration : Configuration}
    : configuration.check = .ok ()
      ↔ IsHttp configuration.authorityUrl
        ∧ configuration.requestTimeoutSecs.toNat ≠ 0
        ∧ configuration.retry.maxAttempts.toNat ≠ 0
        ∧ configuration.pollIntervalMs.toNat ≠ 0 := by
  unfold check IsHttp
  rw [← startsWith_iff, ← startsWith_iff]
  simp only [ne_eq, ← UInt64.toNat_inj, ← UInt32.toNat_inj, UInt64.toNat_zero,
    UInt32.toNat_zero]
  grind

-----------------------------------------------------------------------------------------
-- Words
-----------------------------------------------------------------------------------------

/-- A variable holds a word, whatever the case of its letters and the white space around it. -/
def Reads (lookup : String → Option String) (name word : String) : Prop :=
  ∃ text, lookup name = some text ∧ Text.lower (Text.trim text) = word

theorem Reads.unique {name first second : String} (reads : Reads lookup name first)
    (other : Reads lookup name second)
    : first = second := by
  obtain ⟨text, found, rfl⟩ := reads
  obtain ⟨text', found', rfl⟩ := other
  rw [Option.some.inj (found.symm.trans found')]

theorem Reads.not_absent {name word : String} (reads : Reads lookup name word)
    : lookup name ≠ none := by
  obtain ⟨text, found, _⟩ := reads
  simp [found]

/-- The verification mode that the variables stand for. -/
inductive ChoosesVerification (lookup : String → Option String) : VerificationMode → Prop where
  | absent (absent : lookup Variable.verificationMode = none)
    : ChoosesVerification lookup .published
  | published (reads : Reads lookup Variable.verificationMode "jwks")
    : ChoosesVerification lookup .published
  | file {path} (reads : Reads lookup Variable.verificationMode "static")
    (given : lookup Variable.keyPath = some path)
    : ChoosesVerification lookup (.file path)
  | passThrough (reads : Reads lookup Variable.verificationMode "passthrough")
    : ChoosesVerification lookup .passThrough

/-- The batch mode that the variables stand for. -/
inductive ChoosesBatch (lookup : String → Option String) : BatchMode → Prop where
  | absent (absent : lookup Variable.batchMode = none) : ChoosesBatch lookup .failFast
  | failFast (reads : Reads lookup Variable.batchMode "fail_fast")
    : ChoosesBatch lookup .failFast
  | partialSuccess (reads : Reads lookup Variable.batchMode "partial_success")
    : ChoosesBatch lookup .partialSuccess

theorem verificationModeOf_eq_ok_iff {mode : VerificationMode}
    : verificationModeOf lookup = .ok mode ↔ ChoosesVerification lookup mode := by
  unfold verificationModeOf
  constructor
  · intro found
    split at found
    · next absent =>
        obtain rfl := Except.ok.inj found
        exact .absent (Option.map_eq_none_iff.mp absent)
    · next word given =>
        obtain ⟨text, present, rfl⟩ := Option.map_eq_some_iff.mp given
        split at found
        · next jwks =>
            obtain rfl := Except.ok.inj found
            exact .published ⟨text, present, jwks⟩
        · split at found
          · next static =>
              split at found
              · next path given =>
                  obtain rfl := Except.ok.inj found
                  exact .file ⟨text, present, static⟩ given
              · exact nomatch found
          · split at found
            · next passThrough =>
                obtain rfl := Except.ok.inj found
                exact .passThrough ⟨text, present, passThrough⟩
            · exact nomatch found
  · intro chosen
    rcases chosen with absent | ⟨text, present, word⟩ | ⟨⟨text, present, word⟩, given⟩ |
      ⟨text, present, word⟩
    · simp [absent]
    · simp [present, word]
    · simp [present, word, given]
    · simp [present, word]

theorem batchModeOf_eq_ok_iff {mode : BatchMode}
    : batchModeOf lookup = .ok mode ↔ ChoosesBatch lookup mode := by
  unfold batchModeOf
  constructor
  · intro found
    split at found
    · next absent =>
        obtain rfl := Except.ok.inj found
        exact .absent (Option.map_eq_none_iff.mp absent)
    · next word given =>
        obtain ⟨text, present, rfl⟩ := Option.map_eq_some_iff.mp given
        split at found
        · next failFast =>
            obtain rfl := Except.ok.inj found
            exact .failFast ⟨text, present, failFast⟩
        · split at found
          · next partialSuccess =>
              obtain rfl := Except.ok.inj found
              exact .partialSuccess ⟨text, present, partialSuccess⟩
          · exact nomatch found
  · intro chosen
    rcases chosen with absent | ⟨text, present, word⟩ | ⟨text, present, word⟩
    · simp [absent]
    · simp [present, word]
    · simp [present, word]

-----------------------------------------------------------------------------------------
-- Numbers
-----------------------------------------------------------------------------------------

/-- A variable writes a number, with white space around it or not. -/
def WritesNumber (lookup : String → Option String) (name : String) (value : Nat) : Prop :=
  ∃ text, lookup name = some text ∧ Decimal.Writes (Text.trimChars text.toList) value

/-- The number that a variable stands for: the one it writes, or a default if it is absent. -/
inductive Gives (lookup : String → Option String) (name : String) (default : Nat)
    : Nat → Prop where
  | absent (absent : lookup name = none) : Gives lookup name default default
  | written {value} (writes : WritesNumber lookup name value) : Gives lookup name default value

theorem numberOf_eq_ok_iff {name : String} {bound default value : Nat}
    (small : default < bound)
    : numberOf lookup name bound default = .ok value
      ↔ Gives lookup name default value ∧ value < bound := by
  have positive : 0 < bound := Nat.zero_lt_of_lt small
  unfold numberOf
  constructor
  · intro found
    split at found
    · next absent =>
        obtain rfl := Except.ok.inj found
        exact ⟨.absent absent, small⟩
    · next text present =>
        split at found
        · next number read =>
            obtain rfl := Except.ok.inj found
            obtain ⟨writes, fits⟩ := (Decimal.read_eq_ok_iff positive).mp read
            exact ⟨.written ⟨text, present, writes⟩, fits⟩
        · exact nomatch found
  · rintro ⟨absent | ⟨text, present, writes⟩, fits⟩
    · simp [absent]
    · simp [present, (Decimal.read_eq_ok_iff positive).mpr ⟨writes, fits⟩]

theorem wordOf_eq_ok_iff {name : String} {default word : UInt64}
    : (numberOf lookup name UInt64.size default.toNat).map UInt64.ofNat = .ok word
      ↔ Gives lookup name default.toNat word.toNat := by
  simp only [map_eq_ok_iff, numberOf_eq_ok_iff default.toNat_lt_size]
  constructor
  · rintro ⟨value, ⟨gives, fits⟩, rfl⟩
    rwa [UInt64.toNat_ofNat_of_lt' fits]
  · intro gives
    exact ⟨word.toNat, ⟨gives, word.toNat_lt_size⟩, UInt64.ofNat_toNat⟩

-----------------------------------------------------------------------------------------
-- The whole configuration
-----------------------------------------------------------------------------------------

/-- What the fields of a configuration are, by the variables. -/
structure Reflects (lookup : String → Option String) (configuration : Configuration)
    : Prop where
  authorityUrl
    : ∃ url,
        lookup Variable.authorityUrl = some url
        ∧ Text.isBlankText url = false
        ∧ Unslashed url configuration.authorityUrl
  verification : ChoosesVerification lookup configuration.verificationMode
  batch : ChoosesBatch lookup configuration.batchMode
  requestTimeout
    : Gives lookup Variable.requestTimeout 30 configuration.requestTimeoutSecs.toNat
  downloadExpiry
    : Gives lookup Variable.downloadExpiry 10000 configuration.downloadExpirySecs.toNat
  maxAttempts : Gives lookup Variable.maxAttempts 3 configuration.retry.maxAttempts.toNat
  baseDelay : Gives lookup Variable.baseDelay 200 configuration.retry.baseDelayMs.toNat
  maxDelay : Gives lookup Variable.maxDelay 5000 configuration.retry.maxDelayMs.toNat
  pollInterval : Gives lookup Variable.pollInterval 1000 configuration.pollIntervalMs.toNat

/-- The fields that any text can stand for. -/
structure Named (lookup : String → Option String) (configuration : Configuration)
    : Prop where
  serviceName
    : configuration.serviceName
      = (unlessBlank (lookup Variable.serviceName)).getD "grantgate"
  transientCodes
    : configuration.transientCodes
      = ((lookup Variable.transientCodes).map splitCodes).getD
          ["SERVICE_UNAVAILABLE", "TOO_MANY_REQUESTS", "REQUEST_TIMEOUT"]
  environment
    : configuration.environment
      = ((lookup Variable.environment).or (lookup Variable.environmentFallback)).getD
          "development"

/-- Variables give a configuration exactly if its fields are what they stand for. Witness: each
step of the reading gives one field.
-/
theorem gather_eq_ok_iff {configuration : Configuration}
    : gather lookup = .ok configuration
      ↔ Reflects lookup configuration ∧ Named lookup configuration := by
  constructor
  · intro found
    unfold gather at found
    split at found
    · next url given =>
        obtain ⟨present, filled⟩ := unlessBlank_eq_some_iff.mp given
        simp only [bind_eq_ok_iff, Except.ok.injEq, exists_eq_left'] at found
        obtain ⟨mode, verification, batchMode, batch, timeout, timeoutRead, expiry, expiryRead,
          attempts, attemptsRead, base, baseRead, most, mostRead, interval, intervalRead,
          made⟩ := found
        obtain rfl := Except.ok.inj made
        obtain ⟨attemptsGiven, attemptsFit⟩ :=
          (numberOf_eq_ok_iff (show 3 < UInt32.size by decide)).mp attemptsRead
        refine ⟨⟨⟨url, present, filled, trimSlashes_eq_iff.mp rfl⟩,
          verificationModeOf_eq_ok_iff.mp verification, batchModeOf_eq_ok_iff.mp batch,
          wordOf_eq_ok_iff.mp timeoutRead,
          wordOf_eq_ok_iff.mp expiryRead, ?_,
          wordOf_eq_ok_iff.mp baseRead,
          wordOf_eq_ok_iff.mp mostRead,
          wordOf_eq_ok_iff.mp intervalRead⟩, ⟨rfl, rfl, rfl⟩⟩
        rwa [UInt32.toNat_ofNat_of_lt' attemptsFit]
    · exact nomatch found
  · rintro ⟨reflects, named⟩
    obtain ⟨url, present, filled, kept⟩ := reflects.authorityUrl
    have given : unlessBlank (lookup Variable.authorityUrl) = some url :=
      unlessBlank_eq_some_iff.mpr ⟨present, filled⟩
    obtain ⟨authorityUrl, mode, serviceName, timeout, expiry, batch, ⟨attempts, base, most⟩,
      interval, codes, environment⟩ := configuration
    obtain ⟨rfl, rfl, rfl⟩ := named
    obtain rfl := trimSlashes_eq_iff.mpr kept
    have attemptsRead : numberOf lookup Variable.maxAttempts UInt32.size 3 = .ok attempts.toNat :=
      (numberOf_eq_ok_iff (by decide)).mpr ⟨reflects.maxAttempts, attempts.toNat_lt_size⟩
    have whole : UInt32.ofNat attempts.toNat = attempts := UInt32.ofNat_toNat
    unfold gather
    simp only [given, bind_eq_ok_iff, Except.ok.injEq, exists_eq_left']
    refine ⟨mode, verificationModeOf_eq_ok_iff.mpr reflects.verification, batch,
      batchModeOf_eq_ok_iff.mpr reflects.batch, timeout,
      wordOf_eq_ok_iff.mpr reflects.requestTimeout, expiry,
      wordOf_eq_ok_iff.mpr reflects.downloadExpiry, attempts.toNat, attemptsRead, base,
      wordOf_eq_ok_iff.mpr reflects.baseDelay, most, wordOf_eq_ok_iff.mpr reflects.maxDelay,
      interval, wordOf_eq_ok_iff.mpr reflects.pollInterval, ?_⟩
    rw [whole]
    rfl

/-- Variables are read as a configuration exactly if its fields are what they stand for and it
passes its check.
-/
theorem ofLookup_eq_ok_iff {configuration : Configuration}
    : ofLookup lookup = .ok configuration
      ↔ Reflects lookup configuration
        ∧ Named lookup configuration
        ∧ configuration.check = .ok () := by
  rw [← and_assoc, ← gather_eq_ok_iff, ofLookup, bind_eq_ok_iff]
  constructor
  · rintro ⟨gathered, found, read⟩
    obtain ⟨_, checked, made⟩ := bind_eq_ok_iff.mp read
    obtain rfl := Except.ok.inj made
    exact ⟨found, checked⟩
  · rintro ⟨found, checked⟩
    exact ⟨configuration, found, bind_eq_ok_iff.mpr ⟨(), checked, rfl⟩⟩

/-- The variables that hold numbers, with the bounds of their fields. -/
def numericVariables : List (String × Nat) :=
  [(Variable.requestTimeout, 2 ^ 64), (Variable.downloadExpiry, 2 ^ 64),
    (Variable.maxAttempts, 2 ^ 32), (Variable.baseDelay, 2 ^ 64),
    (Variable.maxDelay, 2 ^ 64), (Variable.pollInterval, 2 ^ 64)]

/-- The variables whose number has to be positive. -/
def positiveVariables : List String :=
  [Variable.requestTimeout, Variable.maxAttempts, Variable.pollInterval]

/-- What variables have to be for a configuration. -/
structure Acceptable (lookup : String → Option String) : Prop where
  url
    : ∃ url kept,
        lookup Variable.authorityUrl = some url
        ∧ Text.isBlankText url = false
        ∧ Unslashed url kept
        ∧ IsHttp kept
  verification
    : lookup Variable.verificationMode = none
      ∨ Reads lookup Variable.verificationMode "jwks"
      ∨ Reads lookup Variable.verificationMode "passthrough"
      ∨ (Reads lookup Variable.verificationMode "static" ∧ lookup Variable.keyPath ≠ none)
  batch
    : lookup Variable.batchMode = none
      ∨ Reads lookup Variable.batchMode "fail_fast"
      ∨ Reads lookup Variable.batchMode "partial_success"
  numbers
    : ∀ field ∈ numericVariables,
        lookup field.1 ≠ none → ∃ value < field.2, WritesNumber lookup field.1 value
  positive : ∀ name ∈ positiveVariables, ¬ WritesNumber lookup name 0

/-- A text writes one number only. -/
theorem WritesNumber.unique {name : String} {first second : Nat}
    (writes : WritesNumber lookup name first) (other : WritesNumber lookup name second)
    : first = second := by
  obtain ⟨text, found, writes⟩ := writes
  obtain ⟨text', found', other⟩ := other
  obtain rfl := Option.some.inj (found.symm.trans found')
  let bound := first + second + 1
  have read : Decimal.read bound (Text.trimChars text.toList) = .ok first :=
    (Decimal.read_eq_ok_iff (Nat.succ_pos _)).mpr ⟨writes, by omega⟩
  have read' : Decimal.read bound (Text.trimChars text.toList) = .ok second :=
    (Decimal.read_eq_ok_iff (Nat.succ_pos _)).mpr ⟨other, by omega⟩
  exact Except.ok.inj (read.symm.trans read')

/-- A variable stands for a number of its width exactly if it writes one where it is present. -/
theorem exists_gives_iff {name : String} {default bound : Nat} (small : default < bound)
    : (∃ value < bound, Gives lookup name default value)
      ↔ (lookup name ≠ none → ∃ value < bound, WritesNumber lookup name value) := by
  constructor
  · rintro ⟨value, fits, absent | writes⟩ present
    · exact absurd absent present
    · exact ⟨value, fits, writes⟩
  · intro written
    by_cases absent : lookup name = none
    · exact ⟨default, small, .absent absent⟩
    · obtain ⟨value, fits, writes⟩ := written absent
      exact ⟨value, fits, .written writes⟩

/-- The number that a variable with a positive default stands for is positive exactly if the
variable does not write zero.
-/
theorem Gives.ne_zero_iff {name : String} {default value : Nat}
    (gives : Gives lookup name default value) (positive : default ≠ 0)
    : value ≠ 0 ↔ ¬ WritesNumber lookup name 0 := by
  rcases gives with absent | writes
  · refine iff_of_true positive ?_
    rintro ⟨text, found, _⟩
    exact nomatch absent.symm.trans found
  · constructor
    · intro filled zero
      exact filled (writes.unique zero)
    · rintro written rfl
      exact written writes

theorem exists_choosesVerification_iff
    : (∃ mode, ChoosesVerification lookup mode)
      ↔ lookup Variable.verificationMode = none
        ∨ Reads lookup Variable.verificationMode "jwks"
        ∨ Reads lookup Variable.verificationMode "passthrough"
        ∨ (Reads lookup Variable.verificationMode "static"
          ∧ lookup Variable.keyPath ≠ none) := by
  constructor
  · rintro ⟨_, absent | reads | ⟨reads, given⟩ | reads⟩
    · exact Or.inl absent
    · exact Or.inr (Or.inl reads)
    · exact Or.inr (Or.inr (Or.inr ⟨reads, by simp [given]⟩))
    · exact Or.inr (Or.inr (Or.inl reads))
  · rintro (absent | reads | reads | ⟨reads, given⟩)
    · exact ⟨_, .absent absent⟩
    · exact ⟨_, .published reads⟩
    · exact ⟨_, .passThrough reads⟩
    · obtain ⟨path, given⟩ := Option.ne_none_iff_exists'.mp given
      exact ⟨_, .file reads given⟩

theorem exists_choosesBatch_iff
    : (∃ mode, ChoosesBatch lookup mode)
      ↔ lookup Variable.batchMode = none
        ∨ Reads lookup Variable.batchMode "fail_fast"
        ∨ Reads lookup Variable.batchMode "partial_success" := by
  constructor
  · rintro ⟨_, absent | reads | reads⟩
    · exact Or.inl absent
    · exact Or.inr (Or.inl reads)
    · exact Or.inr (Or.inr reads)
  · rintro (absent | reads | reads)
    · exact ⟨_, .absent absent⟩
    · exact ⟨_, .failFast reads⟩
    · exact ⟨_, .partialSuccess reads⟩

/-- Tokens go unchecked exactly if the variable asks for it. -/
theorem ChoosesVerification.passThrough_iff {mode : VerificationMode}
    (chooses : ChoosesVerification lookup mode)
    : mode = .passThrough ↔ Reads lookup Variable.verificationMode "passthrough" := by
  constructor
  · rintro rfl
    cases chooses with
    | passThrough reads => exact reads
  · intro reads
    cases chooses with
    | absent absent => exact absurd absent reads.not_absent
    | published other => exact absurd (reads.unique other) (by decide)
    | file other given => exact absurd (reads.unique other) (by decide)
    | passThrough _ => rfl

theorem exists_word_iff {name : String} (default : UInt64)
    : (∃ word : UInt64, Gives lookup name default.toNat word.toNat)
      ↔ (lookup name ≠ none → ∃ value < 2 ^ 64, WritesNumber lookup name value) := by
  rw [← exists_gives_iff default.toNat_lt]
  constructor
  · rintro ⟨word, gives⟩
    exact ⟨word.toNat, word.toNat_lt, gives⟩
  · rintro ⟨value, fits, gives⟩
    exact ⟨UInt64.ofNat value, by rwa [UInt64.toNat_ofNat_of_lt' fits]⟩

theorem exists_halfWord_iff {name : String} (default : UInt32)
    : (∃ word : UInt32, Gives lookup name default.toNat word.toNat)
      ↔ (lookup name ≠ none → ∃ value < 2 ^ 32, WritesNumber lookup name value) := by
  rw [← exists_gives_iff default.toNat_lt]
  constructor
  · rintro ⟨word, gives⟩
    exact ⟨word.toNat, word.toNat_lt, gives⟩
  · rintro ⟨value, fits, gives⟩
    exact ⟨UInt32.ofNat value, by rwa [UInt32.toNat_ofNat_of_lt' fits]⟩

/-- Acceptable variables are those that stand for some configuration which passes its check.
Witness: every condition is about one field, so the fields can be found one by one.
-/
theorem exists_ofLookup_iff
    : (∃ configuration, ofLookup lookup = .ok configuration) ↔ Acceptable lookup := by
  simp only [ofLookup_eq_ok_iff]
  constructor
  · rintro ⟨configuration, reflects, _, checked⟩
    obtain ⟨http, timeout, attempts, interval⟩ := check_eq_ok_iff.mp checked
    obtain ⟨url, present, filled, kept⟩ := reflects.authorityUrl
    refine ⟨⟨url, configuration.authorityUrl, present, filled, kept, http⟩,
      exists_choosesVerification_iff.mp ⟨_, reflects.verification⟩,
      exists_choosesBatch_iff.mp ⟨_, reflects.batch⟩, ?_, ?_⟩
    · simp only [numericVariables, List.forall_mem_cons, List.not_mem_nil, false_implies,
        implies_true, and_true]
      exact ⟨(exists_word_iff 30).mp ⟨_, reflects.requestTimeout⟩,
        (exists_word_iff 10000).mp ⟨_, reflects.downloadExpiry⟩,
        (exists_halfWord_iff 3).mp ⟨_, reflects.maxAttempts⟩,
        (exists_word_iff 200).mp ⟨_, reflects.baseDelay⟩,
        (exists_word_iff 5000).mp ⟨_, reflects.maxDelay⟩,
        (exists_word_iff 1000).mp ⟨_, reflects.pollInterval⟩⟩
    · simp only [positiveVariables, List.forall_mem_cons, List.not_mem_nil, false_implies,
        implies_true, and_true]
      exact ⟨(reflects.requestTimeout.ne_zero_iff (by decide)).mp timeout,
        (reflects.maxAttempts.ne_zero_iff (by decide)).mp attempts,
        (reflects.pollInterval.ne_zero_iff (by decide)).mp interval⟩
  · rintro ⟨⟨url, kept, present, filled, unslashed, http⟩, verification, batch, numbers,
      positive⟩
    simp only [numericVariables, positiveVariables, List.forall_mem_cons, List.not_mem_nil,
      false_implies, implies_true, and_true] at numbers positive
    obtain ⟨mode, verification⟩ := exists_choosesVerification_iff.mpr verification
    obtain ⟨batchMode, batch⟩ := exists_choosesBatch_iff.mpr batch
    obtain ⟨timeout, timeoutGiven⟩ := (exists_word_iff 30).mpr numbers.1
    obtain ⟨expiry, expiryGiven⟩ := (exists_word_iff 10000).mpr numbers.2.1
    obtain ⟨attempts, attemptsGiven⟩ := (exists_halfWord_iff 3).mpr numbers.2.2.1
    obtain ⟨base, baseGiven⟩ := (exists_word_iff 200).mpr numbers.2.2.2.1
    obtain ⟨most, mostGiven⟩ := (exists_word_iff 5000).mpr numbers.2.2.2.2.1
    obtain ⟨interval, intervalGiven⟩ := (exists_word_iff 1000).mpr numbers.2.2.2.2.2
    refine ⟨⟨kept, mode, _, timeout, expiry, batchMode, ⟨attempts, base, most⟩, interval, _, _⟩,
      ⟨⟨url, present, filled, unslashed⟩, verification, batch, timeoutGiven, expiryGiven,
        attemptsGiven, baseGiven, mostGiven, intervalGiven⟩, ⟨rfl, rfl, rfl⟩,
      check_eq_ok_iff.mpr ⟨http, ?_, ?_, ?_⟩⟩
    · exact (timeoutGiven.ne_zero_iff (by decide)).mpr positive.1
    · exact (attemptsGiven.ne_zero_iff (by decide)).mpr positive.2.1
    · exact (intervalGiven.ne_zero_iff (by decide)).mpr positive.2.2

/-- Variables are accepted exactly if they are valid, and then every field is what its variable
stands for: a number is the exact one that is written, a default stands for an absent variable
alone, and tokens go unchecked only where that is asked for.
-/
theorem ofLookup_accepts (lookup : String → Option String)
    : ((∃ configuration, ofLookup lookup = .ok configuration) ↔ Acceptable lookup)
      ∧ ∀ configuration,
          ofLookup lookup = .ok configuration
          → Reflects lookup configuration
            ∧ (configuration.verificationMode = .passThrough
              ↔ Reads lookup Variable.verificationMode "passthrough") := by
  refine ⟨exists_ofLookup_iff, fun configuration found => ?_⟩
  have ⟨reflects, _, _⟩ := ofLookup_eq_ok_iff.mp found
  exact ⟨reflects, reflects.verification.passThrough_iff⟩

example
    : ofLookup (fun name =>
        [(Variable.authorityUrl, "https://upload.example.com//"),
          (Variable.verificationMode, " PassThrough"),
          (Variable.maxAttempts, "+04294967295 ")].lookup name)
      = .ok
          { authorityUrl := "https://upload.example.com", verificationMode := .passThrough
            retry := { maxAttempts := 4294967295 } } :=
  rfl

end Configuration

end ObjectGrants
