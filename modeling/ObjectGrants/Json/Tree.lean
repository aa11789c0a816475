import ObjectGrants.Number.Binary64

/-!
JSON data. One shape serves two purposes: a `Document` is what a text says, with its members
in the order written, repetitions included, and with a mark where a part of it is well
written but stands for nothing; a `Value` has no such marks.

`Document.value?` is the passage from one to the other. It bounds the nesting, sorts the
members of every object by name and lets the last of several members of one name stand.
-/

namespace ObjectGrants.Json

open ObjectGrants.Number (Binary64)

/-- A number of a document. A numeral without fraction and exponent is an integer, as long
as 64 bits hold it. -/
inductive Number where
  | integer (value : Int)
  | double (value : Binary64)
  deriving DecidableEq, Repr

/-- JSON data in which a part may be replaced by a mark of type `φ`. -/
inductive Tree (φ : Type) where
  | null
  | bool (value : Bool)
  | number (value : Number)
  | string (value : String)
  | array (items : List (Tree φ))
  | object (members : List (String × Tree φ))
  | flaw (cause : φ)

/-- Why a well-written part of a text stands for nothing. -/
inductive Flaw where
  /-- A string with half a surrogate pair or with bytes that are not UTF-8. -/
  | text
  /-- A numeral beyond the range of double precision. -/
  | magnitude
  /-- An object one of whose names is such a string. -/
  | name
  deriving DecidableEq, Repr

/-- JSON data as a text gives it. -/
abbrev Document := Tree Flaw

/-- JSON data without flaws. -/
abbrev Value := Tree Empty

instance {φ : Type} : Inhabited (Tree φ) := ⟨.null⟩

namespace Tree

mutual
/-- A value as a document. -/
def embed {φ : Type} : Value → Tree φ
  | .null => .null
  | .bool value => .bool value
  | .number value => .number value
  | .string value => .string value
  | .array items => .array (embedItems items)
  | .object members => .object (embedMembers members)
  | .flaw cause => nomatch cause
termination_by structural tree => tree

/-- The items of an array as documents. -/
def embedItems {φ : Type} : List Value → List (Tree φ)
  | [] => []
  | item :: rest => embed item :: embedItems rest
termination_by structural items => items

/-- The members of an object as documents. -/
def embedMembers {φ : Type} : List (String × Value) → List (String × Tree φ)
  | [] => []
  | (name, member) :: rest => (name, embed member) :: embedMembers rest
termination_by structural members => members
end

end Tree

namespace Members

/-- Puts a member in its place by name, in front of the first greater one; a member of the
same name is replaced. -/
def insert {α : Type} (name : String) (member : α) : List (String × α) → List (String × α)
  | [] => [(name, member)]
  | (other, kept) :: rest =>
      if name < other then (name, member) :: (other, kept) :: rest
      else if name = other then (name, member) :: rest
      else (other, kept) :: insert name member rest

/-- The members in the order of their names, the last of each name. -/
def sorted {α : Type} (members : List (String × α)) : List (String × α) :=
  members.foldl (fun done member => insert member.1 member.2 done) []

end Members

namespace Document

/-- The deepest nesting of arrays and objects that is read as a value. -/
def depthLimit : Nat := 127

/-- The value of a document whose arrays and objects nest at most `depth` deep. -/
def valueWithin : Nat → Document → Option Value
  | _, .null => some .null
  | _, .bool value => some (.bool value)
  | _, .number value => some (.number value)
  | _, .string value => some (.string value)
  | depth + 1, .array items => (items.mapM (valueWithin depth)).map .array
  | depth + 1, .object members => do
      let members ← members.mapM fun (name, member) =>
        (valueWithin depth member).map (name, ·)
      pure (.object (Members.sorted members))
  | 0, .array _ => none
  | 0, .object _ => none
  | _, .flaw _ => none

/-- The value of a document, if all its parts stand for something. -/
def value? (document : Document) : Option Value :=
  valueWithin depthLimit document

end Document

end ObjectGrants.Json
