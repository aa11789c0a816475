import ObjectGrants.Json.Wire
import ObjectGrants.Text.Blank

/-!
Correlation identifiers, which travel unchanged with every call to the authority. A missing
or blank identifier never blocks a call: the all-zero identifier stands in for it.
-/

namespace ObjectGrants

open Json

/-- The identifier of the inbound request that a call belongs to. -/
structure CorrelationId where
  text : String
  deriving DecidableEq, Repr

namespace CorrelationId

/-- The all-zero identifier. -/
def nil : CorrelationId := ⟨"00000000-0000-0000-0000-000000000000"⟩

/-- An identifier as given, not trimmed; the all-zero one for a blank text. -/
def ofText (text : String) : CorrelationId :=
  if Text.isBlankText text then nil else ⟨text⟩

/-- The identifier of an inbound header that may be absent. -/
def ofHeader (value : Option String) : CorrelationId :=
  (value.map ofText).getD nil

def isNil (id : CorrelationId) : Bool :=
  id = nil

/-- The lower-case hexadecimal digits of a number, the given count of them. -/
private def hexDigits (count n : Nat) : List Char :=
  (List.range count).reverse.map fun i => Writer.hexDigit (n / Nat.pow 16 i % 16)

/-- The identifier made from 122 random bits, in the form of a random UUID: the version digit
is 4 and the variant bits are 10. -/
def ofRandom (bits : Nat) : CorrelationId :=
  let group (count shift : Nat) := hexDigits count (bits / Nat.pow 2 shift)
  let version := 0x4000 + bits / Nat.pow 2 62 % Nat.pow 2 12
  let variant := 0x8000 + bits / Nat.pow 2 48 % Nat.pow 2 14
  ⟨String.ofList (group 8 90 ++ '-' :: group 4 74 ++ '-' :: hexDigits 4 version
    ++ '-' :: hexDigits 4 variant ++ '-' :: group 12 0)⟩

end CorrelationId

instance : Inhabited CorrelationId := ⟨.nil⟩

instance : Wire CorrelationId where
  encode id := .string id.text
  decode? document := (decode? document).map CorrelationId.mk

end ObjectGrants
