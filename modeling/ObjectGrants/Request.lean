import ObjectGrants.Catalog

/-!
Requests to upload objects, as a caller makes them and as they are once checked.
-/

namespace ObjectGrants

open Json

/-- A request to upload one object. It may declare its category. -/
structure UploadRequest where
  identifier : String
  fileName : String
  contentType : String
  isPublic : Bool := false
  category : Option Category := none
  deriving DecidableEq, Repr

namespace UploadRequest

/-- The same request for an object that everyone may read. -/
def asPublic (request : UploadRequest) : UploadRequest :=
  { request with isPublic := true }

/-- The same request with a declared category. -/
def withCategory (category : Category) (request : UploadRequest) : UploadRequest :=
  { request with category := some category }

end UploadRequest

instance : Wire UploadRequest where
  encode request :=
    .object ([("identifier", encode request.identifier), ("fileName", encode request.fileName),
      ("contentType", encode request.contentType), ("isPublic", encode request.isPublic)]
      ++ Record.ifSome "category" request.category)
  decode? document := do
    let members ← Record.members? ["identifier", "fileName", "contentType", "isPublic",
      "category"] 3 document
    pure {
      identifier := ← Record.required? ["identifier"] members
      fileName := ← Record.required? ["fileName"] members
      contentType := ← Record.required? ["contentType"] members
      isPublic := ← Record.optional? ["isPublic"] false members
      category := ← Record.optional? ["category"] none members }

/-- A request that has passed the checks of its category and carries its limits. -/
structure EnrichedRequest where
  identifier : String
  fileName : String
  isPublic : Bool
  category : Category
  metadata : Metadata
  deriving DecidableEq, Repr

/-- The content type that the limits of a request were made for. -/
def EnrichedRequest.contentType (request : EnrichedRequest) : String :=
  request.metadata.contentType

end ObjectGrants
