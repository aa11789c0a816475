import ObjectGrants.Request
import ObjectGrants.Text.Case
import ObjectGrants.Text.Pieces

/-!
What the path of a local file says about its upload. Steps are divided by slashes; empty
steps and steps that stay where they are do not count.
-/

namespace ObjectGrants.LocalPath

/-- The steps of a path that count. -/
def steps (path : String) : List (List Char) :=
  (Text.pieces (· = '/') path.toList).filter fun step => !step.isEmpty && step ≠ ['.']

/-- The name of the file at the end of a path. A path that ends by going up has none. -/
def fileName? (path : String) : Option String :=
  match (steps path).getLast? with
  | some name => if name = ['.', '.'] then none else some (String.ofList name)
  | none => none

/-- The extension of a file: what follows the last dot of its name, unless that dot is the
first character. -/
def extension? (path : String) : Option String := do
  let name ← fileName? path
  let reversed := name.toList.reverse
  let before := (reversed.dropWhile (· ≠ '.')).drop 1
  if before.isEmpty then none
  else some (String.ofList (reversed.takeWhile (· ≠ '.')).reverse)

/-- The content type that an extension stands for, whatever its case. -/
def contentType? (path : String) : Option String := do
  let extension ← extension? path
  [("jpg", ContentType.jpg), ("jpeg", ContentType.jpeg), ("png", ContentType.png),
    ("mp4", ContentType.mp4), ("mov", ContentType.mov), ("pdf", ContentType.pdf),
    ("xlsx", ContentType.spreadsheet)].lookup (Text.asciiLower extension)

/-- Why a path cannot be uploaded. -/
inductive Refusal where
  | noFileName (path : String)
  | noContentType (path : String)
  deriving DecidableEq, Repr

def Refusal.message : Refusal → String
  | noFileName path => path ++ " has no usable file name"
  | noContentType path => "Cannot infer content type of " ++ path ++ "; pass --content-type"

/-- The request to upload a file. Its name is also its identifier; its content type is taken
from the extension unless one is given. -/
def request (path : String) (contentType : Option String) (isPublic : Bool)
    : Except Refusal UploadRequest :=
  match fileName? path with
  | none => .error (.noFileName path)
  | some name =>
      match contentType.or (contentType? path) with
      | none => .error (.noContentType path)
      | some contentType =>
          .ok { identifier := name, fileName := name, contentType, isPublic }

end ObjectGrants.LocalPath
