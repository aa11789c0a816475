import ObjectGrants.Json.Writer

/-!
Writing JSON values for people, with one item or member on a line. Every level is indented by
two spaces, and an empty array or object stays on its line.
-/

namespace ObjectGrants.Json

namespace Layout

/-- The start of a line at a depth. -/
def newline (depth : Nat) : List Char :=
  '\n' :: List.replicate (2 * depth) ' '

mutual
/-- The characters of a value whose first line stands at a depth. -/
def value : Value → Nat → List Char
  | .array elements, depth =>
      if elements.isEmpty then ['[', ']']
      else '[' :: items elements (depth + 1) ++ newline depth ++ [']']
  | .object fields, depth =>
      if fields.isEmpty then ['{', '}']
      else '{' :: members fields (depth + 1) ++ newline depth ++ ['}']
  | .null, _ => Writer.value .null
  | .bool b, _ => Writer.value (.bool b)
  | .number n, _ => Writer.value (.number n)
  | .string text, _ => Writer.value (.string text)
  | .flaw cause, _ => nomatch cause
termination_by structural tree => tree

/-- The items of an array, each on a line of its own. -/
def items : List Value → Nat → List Char
  | [], _ => []
  | [item], depth => newline depth ++ value item depth
  | item :: next :: rest, depth =>
      newline depth ++ value item depth ++ ',' :: items (next :: rest) depth
termination_by structural items => items

/-- The members of an object, each on a line of its own. -/
def members : List (String × Value) → Nat → List Char
  | [], _ => []
  | [(name, member)], depth =>
      newline depth ++ Writer.quoted name ++ ':' :: ' ' :: value member depth
  | (name, member) :: next :: rest, depth =>
      newline depth ++ Writer.quoted name ++ ':' :: ' ' :: value member depth
        ++ ',' :: members (next :: rest) depth
termination_by structural members => members
end

end Layout

/-- The text of a value on as many lines as it has items. -/
def Value.layout (v : Value) : String :=
  String.ofList (Layout.value v 0)

end ObjectGrants.Json
