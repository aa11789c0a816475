import ObjectGrants.Text.Blank
import ObjectGrants.Text.Pieces
import ObjectGrants.Text.Utf8

/-!
The text of a body that is shown to people. The mark at its start tells how it is encoded, or
else the charset that comes with its content type; without either it is UTF-8.
-/

namespace ObjectGrants.Http.BodyText

/-- How the bytes of a body stand for characters. -/
inductive Encoding where
  | utf8
  /-- Units of two bytes, the lower byte first. -/
  | utf16Little
  /-- Units of two bytes, the higher byte first. -/
  | utf16Big
  /-- One byte for each character. -/
  | western
  deriving DecidableEq, Repr

namespace Encoding

/-- The labels of the encodings that are known. -/
def labels : Encoding → List String
  | utf8 =>
      ["unicode-1-1-utf-8", "unicode11utf8", "unicode20utf8", "utf-8", "utf8",
        "x-unicode20utf8"]
  | utf16Little =>
      ["csunicode", "iso-10646-ucs-2", "ucs-2", "unicode", "unicodefeff", "utf-16",
        "utf-16le"]
  | utf16Big => ["unicodefffe", "utf-16be"]
  | western =>
      ["ansi_x3.4-1968", "ascii", "cp1252", "cp819", "csisolatin1", "ibm819", "iso-8859-1",
        "iso-ir-100", "iso8859-1", "iso88591", "iso_8859-1", "iso_8859-1:1987", "l1",
        "latin1", "us-ascii", "windows-1252", "x-cp1252"]

/-- The encoding with a label, if it is known. -/
def ofLabel? (label : String) : Option Encoding :=
  [utf8, utf16Little, utf16Big, western].find? fun encoding => encoding.labels.contains label

end Encoding

/-- A text in lower case, without blanks at its ends. -/
def tidy (text : List Char) : String :=
  String.ofList ((Text.trimChars text).map Char.toLower)

/-- The charset that a content type names among its parameters. -/
def charset? (contentType : String) : Option String :=
  match Text.pieces (· = ';') contentType.toList with
  | [] => none
  | _ :: parameters =>
      parameters.findSome? fun parameter =>
        let name := parameter.takeWhile (· ≠ '=')
        let value := (parameter.dropWhile (· ≠ '=')).filter fun c => c ≠ '=' && c ≠ '"'
        if tidy name = "charset" then some (tidy value) else none

/-- The characters of the bytes from 0x80 to 0x9F in the western encoding. -/
def westernSpecials : List Nat :=
  [0x20AC, 0x81, 0x201A, 0x192, 0x201E, 0x2026, 0x2020, 0x2021, 0x2C6, 0x2030, 0x160, 0x2039,
    0x152, 0x8D, 0x17D, 0x8F, 0x90, 0x2018, 0x2019, 0x201C, 0x201D, 0x2022, 0x2013, 0x2014,
    0x2DC, 0x2122, 0x161, 0x203A, 0x153, 0x9D, 0x17E, 0x178]

/-- The character of a byte in the western encoding. -/
def westernChar (byte : UInt8) : Char :=
  if byte < 0x80 then Char.ofNat byte.toNat
  else Char.ofNat (westernSpecials[byte.toNat - 0x80]?.getD byte.toNat)

/-- The text of 16-bit units: a surrogate pair is one character, and the replacement
character stands for half a pair. -/
def ofUnits : List Nat → List Char
  | [] => []
  | high :: rest =>
      if 0xD800 ≤ high ∧ high < 0xDC00 then
        match rest with
        | low :: others =>
            if 0xDC00 ≤ low ∧ low < 0xE000 then
              Char.ofNat (0x10000 + (high - 0xD800) * 0x400 + (low - 0xDC00)) :: ofUnits others
            else Text.Utf8.replacement :: ofUnits (low :: others)
        | [] => [Text.Utf8.replacement]
      else if 0xDC00 ≤ high ∧ high < 0xE000 then Text.Utf8.replacement :: ofUnits rest
      else Char.ofNat high :: ofUnits rest

/-- The 16-bit units of a sequence of bytes; a single byte at the end is half of a unit that
is no character. -/
def units (join : Nat → Nat → Nat) : List UInt8 → List Nat
  | a :: b :: rest => join a.toNat b.toNat :: units join rest
  | [_] => [0xDC00]
  | [] => []

/-- The text of bytes in an encoding. What stands for no character is replaced. -/
def textIn : Encoding → List UInt8 → String
  | .utf8, bytes => Text.Utf8.lossy bytes
  | .utf16Little, bytes => String.ofList (ofUnits (units (fun a b => a + 256 * b) bytes))
  | .utf16Big, bytes => String.ofList (ofUnits (units (fun a b => 256 * a + b) bytes))
  | .western, bytes => String.ofList (bytes.map westernChar)

/-- The encoding that the mark at the start of some bytes tells, and the bytes behind it. -/
def marked? : List UInt8 → Option (Encoding × List UInt8)
  | 0xEF :: 0xBB :: 0xBF :: bytes => some (.utf8, bytes)
  | 0xFF :: 0xFE :: bytes => some (.utf16Little, bytes)
  | 0xFE :: 0xFF :: bytes => some (.utf16Big, bytes)
  | _ => none

/-- The text of a body with a content type. -/
def decode (contentType : Option String) (bytes : List UInt8) : String :=
  match marked? bytes with
  | some (encoding, bytes) => textIn encoding bytes
  | none => textIn (((contentType.bind charset?).bind Encoding.ofLabel?).getD .utf8) bytes

end ObjectGrants.Http.BodyText
