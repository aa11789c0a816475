import ObjectGrants.Json.Tree

/-!
Writing JSON values, in the compact form without white space. Strings escape the quotation
mark, the backslash and the control characters, and nothing else.
-/

namespace ObjectGrants.Json

namespace Writer

/-- The lower-case hexadecimal digit of a number below sixteen. -/
def hexDigit (n : Nat) : Char :=
  if n < 10 then Char.ofNat ('0'.toNat + n) else Char.ofNat ('a'.toNat + n - 10)

/-- A character as it stands in a string. -/
def escaped (c : Char) : List Char :=
  if c = '"' then ['\\', '"']
  else if c = '\\' then ['\\', '\\']
  else if c = '\x08' then ['\\', 'b']
  else if c = '\x0C' then ['\\', 'f']
  else if c = '\n' then ['\\', 'n']
  else if c = '\r' then ['\\', 'r']
  else if c = '\t' then ['\\', 't']
  else if c.toNat < 0x20 then
    ['\\', 'u', '0', '0', hexDigit (c.toNat / 16), hexDigit (c.toNat % 16)]
  else [c]

/-- A string with its quotation marks. -/
def quoted (text : String) : List Char :=
  '"' :: text.toList.flatMap escaped ++ ['"']

/-- A number: an integer in decimal, or a double in its shortest form. -/
def number : Number → List Char
  | .integer value => (toString value).toList
  | .double value => value.text.toList

mutual
/-- The characters of a value. -/
def value : Value → List Char
  | .null => ['n', 'u', 'l', 'l']
  | .bool true => ['t', 'r', 'u', 'e']
  | .bool false => ['f', 'a', 'l', 's', 'e']
  | .number n => number n
  | .string text => quoted text
  | .array items => '[' :: array items
  | .object members => '{' :: object members
  | .flaw cause => nomatch cause
termination_by structural tree => tree

/-- The items of an array and its closing bracket. -/
def array : List Value → List Char
  | [] => [']']
  | [item] => value item ++ [']']
  | item :: next :: rest => value item ++ ',' :: array (next :: rest)
termination_by structural items => items

/-- The members of an object and its closing brace. -/
def object : List (String × Value) → List Char
  | [] => ['}']
  | [(name, member)] => quoted name ++ ':' :: value member ++ ['}']
  | (name, member) :: next :: rest =>
      quoted name ++ ':' :: value member ++ ',' :: object (next :: rest)
termination_by structural members => members
end

end Writer

/-- The compact text of a value. -/
def Value.text (v : Value) : String :=
  String.ofList (Writer.value v)

mutual
/-- A value with the members of all its objects in the order of their names. -/
def Value.sorted : Value → Value
  | .null => .null
  | .bool value => .bool value
  | .number value => .number value
  | .string value => .string value
  | .array items => .array (Value.sortedItems items)
  | .object members => .object (Members.sorted (Value.sortedMembers members))
  | .flaw cause => nomatch cause
termination_by structural tree => tree

/-- Sorts within each item of an array. -/
def Value.sortedItems : List Value → List Value
  | [] => []
  | item :: rest => Value.sorted item :: Value.sortedItems rest
termination_by structural items => items

/-- Sorts within each member of an object. -/
def Value.sortedMembers : List (String × Value) → List (String × Value)
  | [] => []
  | (name, member) :: rest => (name, Value.sorted member) :: Value.sortedMembers rest
termination_by structural members => members
end

end ObjectGrants.Json
