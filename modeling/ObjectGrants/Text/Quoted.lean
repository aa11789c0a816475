import ObjectGrants.Text.UnseenTable

/-!
Texts between quotation marks for diagnostics. What would not be seen as itself is escaped:
quotation marks, backslashes, control characters, characters that show nothing, and marks
that combine with the character before them.
-/

namespace ObjectGrants.Text

/-- Whether a character is not seen as itself. -/
def isUnseen (c : Char) : Bool :=
  UnseenTable.ranges.any fun (first, last) => first ≤ c.toNat && c.toNat ≤ last

/-- The lower-case hexadecimal digits of a number. -/
def hexadecimal (n : Nat) : List Char :=
  Nat.toDigits 16 n

/-- A character as it stands between quotation marks. -/
def quotedChar (c : Char) : List Char :=
  if c = '\x00' then ['\\', '0']
  else if c = '\t' then ['\\', 't']
  else if c = '\n' then ['\\', 'n']
  else if c = '\r' then ['\\', 'r']
  else if c = '"' then ['\\', '"']
  else if c = '\\' then ['\\', '\\']
  else if isUnseen c then
    '\\' :: 'u' :: '\x7b' :: hexadecimal c.toNat ++ ['\x7d']
  else [c]

/-- A text between quotation marks. -/
def quoted (text : String) : String :=
  String.ofList ('"' :: text.toList.flatMap quotedChar ++ ['"'])

end ObjectGrants.Text
