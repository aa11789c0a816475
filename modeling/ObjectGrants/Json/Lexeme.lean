import ObjectGrants.Json.Numeral

/-!
The lexemes of a JSON text. The text comes as characters in which `none` stands for bytes
that are no character; these may occur within strings only.

Strings keep their escapes of sixteen bits until the whole string is known, since two of
them may form one character.
-/

namespace ObjectGrants.Json

/-- A part of a string as written. -/
inductive Piece where
  | char (c : Char)
  /-- An escape of four hexadecimal digits. -/
  | unit (code : Nat)
  /-- Bytes that are no character. -/
  | stray
  deriving DecidableEq, Repr

/-- The characters of a string. Two escapes that form a surrogate pair are one character;
half a pair, like stray bytes, is none. -/
def Piece.chars? : List Piece → Option (List Char)
  | [] => some []
  | .char c :: rest => (chars? rest).map (c :: ·)
  | .stray :: _ => none
  | .unit high :: rest =>
      if 0xD800 ≤ high ∧ high < 0xDC00 then
        match rest with
        | .unit low :: rest =>
            if 0xDC00 ≤ low ∧ low < 0xE000 then
              let code := 0x10000 + (high - 0xD800) * 0x400 + (low - 0xDC00)
              (chars? rest).map (Char.ofNat code :: ·)
            else none
        | _ => none
      else if 0xDC00 ≤ high ∧ high < 0xE000 then none
      else (chars? rest).map (Char.ofNat high :: ·)

/-- The smallest parts of a JSON text that carry meaning. -/
inductive Lexeme where
  | openBrace | closeBrace | openBracket | closeBracket | colon | comma
  | null
  | bool (value : Bool)
  | numeral (parts : Numeral)
  | string (pieces : List Piece)
  deriving DecidableEq, Repr

namespace Lexeme

/-- Where the reading of a text stands. Collected parts are kept in reverse. -/
inductive Progress where
  | between
  | inWord (reversed : List Char)
  | inString (reversed : List Piece)
  | afterBackslash (reversed : List Piece)
  | inUnit (reversed : List Piece) (digits : Nat) (code : Nat)
  deriving DecidableEq, Repr

/-- The white space allowed between lexemes. -/
def isSpace (c : Char) : Bool :=
  c = ' ' || c = '\t' || c = '\n' || c = '\r'

/-- The lexeme that a single character is. -/
def punctuation? : Char → Option Lexeme
  | '{' => some .openBrace
  | '}' => some .closeBrace
  | '[' => some .openBracket
  | ']' => some .closeBracket
  | ':' => some .colon
  | ',' => some .comma
  | _ => none

/-- The lexeme that a run of other characters is: a literal name or a numeral. -/
def ofWord? (word : List Char) : Option Lexeme :=
  if word = ['n', 'u', 'l', 'l'] then some .null
  else if word = ['t', 'r', 'u', 'e'] then some (.bool true)
  else if word = ['f', 'a', 'l', 's', 'e'] then some (.bool false)
  else (Numeral.ofChars? word).map .numeral

/-- The character that a short escape stands for. -/
def shortEscape? : Char → Option Char
  | '"' => some '"'
  | '\\' => some '\\'
  | '/' => some '/'
  | 'b' => some '\x08'
  | 'f' => some '\x0C'
  | 'n' => some '\n'
  | 'r' => some '\r'
  | 't' => some '\t'
  | _ => none

/-- The value of a hexadecimal digit of either case. -/
def hexDigit? (c : Char) : Option Nat :=
  if '0' ≤ c ∧ c ≤ '9' then some (c.toNat - '0'.toNat)
  else if 'a' ≤ c ∧ c ≤ 'f' then some (c.toNat - 'a'.toNat + 10)
  else if 'A' ≤ c ∧ c ≤ 'F' then some (c.toNat - 'A'.toNat + 10)
  else none

/-- What a character outside strings begins or is: lexemes that it completes by itself, and
where reading goes on. -/
def begin (c : Char) : List Lexeme × Progress :=
  if isSpace c then ([], .between)
  else if c = '"' then ([], .inString [])
  else match punctuation? c with
    | some lexeme => ([lexeme], .between)
    | none => ([], .inWord [c])

/-- Reads one character, or what stands for none. Gives the lexemes completed by it and
where reading goes on, or nothing if the text cannot go on like this. -/
def step : Progress → Option Char → Option (List Lexeme × Progress)
  | .between, some c => some (begin c)
  | .between, none => none
  | .inWord word, some c =>
      match begin c with
      | ([], .inWord _) => some ([], .inWord (c :: word))
      | (lexemes, progress) => (ofWord? word.reverse).map (· :: lexemes, progress)
  | .inWord _, none => none
  | .inString pieces, some c =>
      if c = '"' then some ([.string pieces.reverse], .between)
      else if c = '\\' then some ([], .afterBackslash pieces)
      else if c.toNat < 0x20 then none
      else some ([], .inString (.char c :: pieces))
  | .inString pieces, none => some ([], .inString (.stray :: pieces))
  | .afterBackslash pieces, some c =>
      if c = 'u' then some ([], .inUnit pieces 0 0)
      else (shortEscape? c).map fun c => ([], .inString (.char c :: pieces))
  | .afterBackslash _, none => none
  | .inUnit pieces digits code, some c =>
      (hexDigit? c).map fun d =>
        if digits = 3 then ([], .inString (.unit (16 * code + d) :: pieces))
        else ([], .inUnit pieces (digits + 1) (16 * code + d))
  | .inUnit _ _ _, none => none

/-- The lexemes that the end of the text completes. -/
def finish : Progress → Option (List Lexeme)
  | .between => some []
  | .inWord word => (ofWord? word.reverse).map ([·])
  | .inString _ => none
  | .afterBackslash _ => none
  | .inUnit _ _ _ => none

/-- The lexemes of a text from some point on. -/
def scanFrom : Progress → List (Option Char) → Option (List Lexeme)
  | progress, [] => finish progress
  | progress, c :: rest => do
      let (lexemes, progress) ← step progress c
      let following ← scanFrom progress rest
      pure (lexemes ++ following)

/-- The lexemes of a text. -/
def scan (text : List (Option Char)) : Option (List Lexeme) :=
  scanFrom .between text

end Lexeme

end ObjectGrants.Json
