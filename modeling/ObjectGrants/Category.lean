import ObjectGrants.Json.Wire

/-!
The kinds of assets that are uploaded. The set is closed, so whatever depends on the kind is
a total function of it.
-/

namespace ObjectGrants

open Json

inductive Category where
  | image
  | video
  | document
  | bulkAction
  deriving DecidableEq, Repr

namespace Category

/-- Every category, in its fixed order. -/
def all : List Category := [image, video, document, bulkAction]

/-- The name of a category in messages and on the wire. -/
def name : Category → String
  | image => "IMAGE"
  | video => "VIDEO"
  | document => "DOCUMENT"
  | bulkAction => "BULK_ACTION"

/-- The category of an exact name. -/
def ofName? (name : String) : Option Category :=
  all.find? (·.name = name)

end Category

instance : Wire Category where
  encode category := .string category.name
  decode? := decodeName? Category.ofName?

end ObjectGrants
