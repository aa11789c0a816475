import ObjectGrants.Fault
import ObjectGrants.Request
import ObjectGrants.Text.Case

/-!
Checking a batch of upload requests and attaching the limits of its category. The first
fault of the first faulty request rejects the whole batch.

A checked batch is divided by content type, since one call to the authority takes requests
of one content type only.
-/

namespace ObjectGrants

namespace Category

/-- The form in which a spelled category is compared: trimmed, its ASCII letters upper-case,
with underscores for hyphens. -/
def normalized (spelling : String) : String :=
  (Text.asciiUpper (Text.trim spelling)).map fun c => if c = '-' then '_' else c

/-- The category that a person has spelled. Case, surrounding white space and the choice of
hyphen or underscore do not matter, and bulk actions may be written as one word. -/
def ofSpelling (spelling : String) : Except Fault Category :=
  let name := normalized spelling
  match ofName? name with
  | some category => .ok category
  | none =>
      if name = "BULKACTION" then .ok bulkAction
      else .error (.invalidRequest (.unknownCategory name))

end Category

namespace UploadRequest

/-- The checks on a single request, in the order in which faults are reported. -/
def check (category : Category) (request : UploadRequest) : Except Fault Unit :=
  if Text.isBlankText request.identifier then .error (.invalidRequest .blankIdentifier)
  else if Text.isBlankText request.fileName then
    .error (.invalidRequest (.blankFileName request.identifier))
  -- Bulk actions take spreadsheets alone, whatever else the catalog might allow.
  else if category = .bulkAction ∧ request.contentType ≠ ContentType.spreadsheet then
    .error (.invalidContentType request.identifier request.contentType category)
  else if !category.allows request.contentType then
    .error (.invalidContentType request.identifier request.contentType category)
  else match request.category with
    | some declared =>
        if declared = category then .ok ()
        else .error (.invalidRequest (.foreignCategory request.identifier declared category))
    | none => .ok ()

/-- A request with the limits of a category. -/
def enriched (category : Category) (request : UploadRequest) : EnrichedRequest where
  identifier := request.identifier
  fileName := request.fileName
  isPublic := request.isPublic
  category := category
  metadata := category.template.instantiate request.contentType

end UploadRequest

namespace Enrichment

/-- Checks requests in order; `seen` holds the identifiers of those before them. -/
def enrichAfter (category : Category) (seen : List String)
    : List UploadRequest → Except Fault (List EnrichedRequest)
  | [] => .ok []
  | request :: rest => do
      request.check category
      if seen.contains request.identifier then
        .error (.invalidRequest (.repeatedIdentifier request.identifier))
      else
        let following ← enrichAfter category (request.identifier :: seen) rest
        .ok (request.enriched category :: following)

/-- Checks a batch for one category and attaches the limits, in the order of the requests. -/
def enrich (category : Category) (requests : List UploadRequest)
    : Except Fault (List EnrichedRequest) :=
  if requests.isEmpty then .error (.invalidRequest .emptyBatch)
  else enrichAfter category [] requests

end Enrichment

/-- The requests of a batch by content type. The content types ascend, and the requests of
each keep the order of the batch. -/
abbrev Partition := List (String × List EnrichedRequest)

namespace Partition

/-- Adds a request behind those of its content type. -/
def add (request : EnrichedRequest) : Partition → Partition
  | [] => [(request.contentType, [request])]
  | (contentType, group) :: rest =>
      if request.contentType < contentType then
        (request.contentType, [request]) :: (contentType, group) :: rest
      else if request.contentType = contentType then (contentType, group ++ [request]) :: rest
      else (contentType, group) :: add request rest

/-- Divides a batch by content type. -/
def ofBatch (batch : List EnrichedRequest) : Partition :=
  batch.foldl (fun groups request => add request groups) []

end Partition

end ObjectGrants
