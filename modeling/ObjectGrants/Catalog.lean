import ObjectGrants.Category
import ObjectGrants.Metadata

/-!
What each category allows: its content types, and the block of limits that its uploads
carry. The block of a category is a template, with an empty content type; an upload gets the
template with its own content type filled in.
-/

namespace ObjectGrants

namespace ContentType

/-- The one content type of bulk actions. -/
def spreadsheet : String :=
  "application/vnd.openxmlformats-officedocument.spreadsheetml.sheet"

def jpg : String := "image/jpg"
def jpeg : String := "image/jpeg"
def png : String := "image/png"
def mp4 : String := "video/mp4"
def mov : String := "video/mov"
def pdf : String := "application/pdf"

end ContentType

/-- A block of limits that is not yet made for a content type. -/
structure Template where
  metadata : Metadata
  deriving DecidableEq, Repr

/-- The limits of the template, for a content type. -/
def Template.instantiate (template : Template) (contentType : String) : Metadata :=
  template.metadata.withContentType contentType

namespace Category

/-- The limits of a category's uploads. -/
def template : Category → Template
  | image => ⟨.image
      { minSize := 1, maxSize := 40000000, minWidth := 1, maxWidth := 2048, minHeight := 1,
        maxHeight := 2048, contentType := "" }⟩
  | video => ⟨.video { minSize := 1, maxSize := 50000000, maxDuration := 120, contentType := "" }⟩
  | document => ⟨.document { minSize := 1, maxSize := 2000000, contentType := "" }⟩
  | bulkAction => ⟨.document { minSize := 1, maxSize := 50000000, contentType := "" }⟩

/-- The content types of a category's uploads. -/
def contentTypes : Category → List String
  | image => [ContentType.jpg, ContentType.jpeg, ContentType.png]
  | video => [ContentType.mp4, ContentType.mov]
  | document => [ContentType.pdf]
  | bulkAction => [ContentType.spreadsheet]

/-- Whether a content type, compared verbatim, is one of the category's. -/
def allows (category : Category) (contentType : String) : Bool :=
  category.contentTypes.contains contentType

end Category

end ObjectGrants
