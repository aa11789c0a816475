import ObjectGrants.Json.Reader
import ObjectGrants.Json.Writer

/-!
Types with a JSON form. Encoding gives a value; decoding takes a document, since it has to
see repeated members, and looks only at the parts it needs: what an unknown member holds may
be flawed.

A record is decoded from the members of an object. Unknown members are passed over, and a
field given twice, be it under two of its names, is refused. A record may also be an array
of its fields in order, from whose end fields with a default may be missing.
-/

namespace ObjectGrants.Json

/-- Types with a JSON form. -/
class Wire (α : Type) where
  encode : α → Value
  decode? : Document → Option α

export Wire (encode decode?)

/-- The datum that a text holds. -/
def ofText? {α : Type} [Wire α] (text : String) : Option α :=
  (Document.ofText? text).bind decode?

/-- The datum that a sequence of bytes holds. -/
def ofBytes? {α : Type} [Wire α] (bytes : List UInt8) : Option α :=
  (Document.ofBytes? bytes).bind decode?

/-- The compact text of a datum. -/
def toText {α : Type} [Wire α] (datum : α) : String :=
  Value.text (encode datum)

instance : Wire String where
  encode text := .string text
  decode?
    | .string text => some text
    | _ => none

instance : Wire Bool where
  encode value := .bool value
  decode?
    | .bool value => some value
    | _ => none

/-- The number with an integer as its value. -/
def Value.ofInt (value : Int) : Value :=
  .number (.integer value)

instance : Wire UInt64 where
  encode value := .ofInt value.toNat
  decode?
    | .number (.integer value) =>
        if 0 ≤ value ∧ value.toNat < UInt64.size then some (UInt64.ofNat value.toNat) else none
    | _ => none

instance : Wire Int64 where
  encode value := .ofInt value.toInt
  decode?
    | .number (.integer value) =>
        if Int64.minValue.toInt ≤ value ∧ value ≤ Int64.maxValue.toInt then
          some (Int64.ofInt value)
        else none
    | _ => none

instance {α : Type} [Wire α] : Wire (List α) where
  encode items := .array (items.map encode)
  decode?
    | .array items => items.mapM decode?
    | _ => none

instance {α : Type} [Wire α] : Wire (Option α) where
  encode
    | some datum => encode datum
    | none => .null
  decode?
    | .null => some none
    | document => (decode? document).map some

/-- Decodes one of several names. It may stand alone or as the only member of an object, with
null as its content. -/
def decodeName? {α : Type} (ofName? : String → Option α) : Document → Option α
  | .string name => ofName? name
  | .object [(name, .null)] => ofName? name
  | _ => none

namespace Record

/-- The members of a record with the fields `order`. An array has to give at least the first
`least` fields, and no more than there are. -/
def members? (order : List String) (least : Nat) : Document → Option (List (String × Document))
  | .object members => some members
  | .array items =>
      if least ≤ items.length ∧ items.length ≤ order.length then some (order.zip items) else none
  | _ => none

/-- What the members give for a field that has the names `names`. -/
def given (names : List String) (members : List (String × Document)) : List Document :=
  (members.filter fun member => names.contains member.1).map (·.2)

/-- A field that has to be given. -/
def required? {α : Type} [Wire α] (names : List String) (members : List (String × Document))
    : Option α :=
  match given names members with
  | [document] => decode? document
  | _ => none

/-- A field that has a value when it is not given. -/
def optional? {α : Type} [Wire α] (names : List String) (absent : α)
    (members : List (String × Document))
    : Option α :=
  match given names members with
  | [] => some absent
  | [document] => decode? document
  | _ => none

/-- The member for a field that is left out when it has no value. -/
def ifSome {α : Type} [Wire α] (name : String) : Option α → List (String × Value)
  | some datum => [(name, encode datum)]
  | none => []

end Record

end ObjectGrants.Json
