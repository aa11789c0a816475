import ObjectGrants.Json.Lexeme
import ObjectGrants.Text.Utf8

/-!
Reading JSON documents. The lexemes are consumed one at a time; what has begun and not ended
is kept as a list of unfinished arrays and objects, so nesting has no limit here.
-/

namespace ObjectGrants.Json

/-- Members as written; a name that is no text is `none`. -/
abbrev WrittenMembers := List (Option String × Document)

/-- The object with some members; a flaw as a whole if one of the names is no text. -/
def Document.ofMembers (members : WrittenMembers) : Document :=
  match members.mapM fun (name, member) => name.map (·, member) with
  | some members => .object members
  | none => .flaw .name

namespace Reader

/-- An array or object that has begun and not ended; what it holds so far is reversed. -/
inductive Frame where
  | items (done : List Document)
  | members (done : WrittenMembers) (name : Option String)

/-- Where the reading of a document stands, with what is unfinished around it. -/
inductive State where
  /-- A value is due. -/
  | awaitValue (frames : List Frame)
  /-- The first item of an array, or its end. -/
  | awaitFirstItem (frames : List Frame)
  /-- The first name of an object, or its end. -/
  | awaitFirstName (frames : List Frame)
  /-- A further name of an object. -/
  | awaitName (done : WrittenMembers) (frames : List Frame)
  /-- The colon behind a name. -/
  | awaitColon (done : WrittenMembers) (name : Option String) (frames : List Frame)
  /-- A comma or the end of an array. -/
  | afterItem (done : List Document) (frames : List Frame)
  /-- A comma or the end of an object. -/
  | afterMember (done : WrittenMembers) (frames : List Frame)
  /-- The document is complete. -/
  | complete (document : Document)

/-- Puts a complete value where it belongs. -/
def State.settle (document : Document) : List Frame → State
  | [] => .complete document
  | .items done :: frames => .afterItem (document :: done) frames
  | .members done name :: frames => .afterMember ((name, document) :: done) frames

/-- The text of a string, or none. -/
def text? (pieces : List Piece) : Option String :=
  (Piece.chars? pieces).map String.ofList

/-- Reads the first lexeme of a value. -/
def State.open (frames : List Frame) : Lexeme → Option State
  | .null => some (settle .null frames)
  | .bool value => some (settle (.bool value) frames)
  | .numeral parts =>
      some (settle ((parts.number?.map .number).getD (.flaw .magnitude)) frames)
  | .string pieces => some (settle (((text? pieces).map .string).getD (.flaw .text)) frames)
  | .openBracket => some (.awaitFirstItem frames)
  | .openBrace => some (.awaitFirstName frames)
  | .closeBracket | .closeBrace | .colon | .comma => none

/-- Reads one lexeme. -/
def State.step : State → Lexeme → Option State
  | .awaitValue frames, lexeme => State.open frames lexeme
  | .awaitFirstItem frames, lexeme =>
      if lexeme = .closeBracket then some (settle (.array []) frames)
      else State.open (.items [] :: frames) lexeme
  | .awaitFirstName frames, .closeBrace => some (settle (.object []) frames)
  | .awaitFirstName frames, .string pieces => some (.awaitColon [] (text? pieces) frames)
  | .awaitFirstName _, _ => none
  | .awaitName done frames, .string pieces => some (.awaitColon done (text? pieces) frames)
  | .awaitName _ _, _ => none
  | .awaitColon done name frames, .colon => some (.awaitValue (.members done name :: frames))
  | .awaitColon _ _ _, _ => none
  | .afterItem done frames, .comma => some (.awaitValue (.items done :: frames))
  | .afterItem done frames, .closeBracket => some (settle (.array done.reverse) frames)
  | .afterItem _ _, _ => none
  | .afterMember done frames, .comma => some (.awaitName done frames)
  | .afterMember done frames, .closeBrace =>
      some (settle (Document.ofMembers done.reverse) frames)
  | .afterMember _ _, _ => none
  | .complete _, _ => none

/-- The document that a complete reading has found. -/
def State.document? : State → Option Document
  | .complete document => some document
  | _ => none

end Reader

namespace Document

/-- The document that a sequence of lexemes is. -/
def ofLexemes? (lexemes : List Lexeme) : Option Document :=
  (lexemes.foldlM Reader.State.step (.awaitValue [])).bind Reader.State.document?

/-- The document that a sequence of characters and stray bytes is. -/
def ofScalars? (text : List (Option Char)) : Option Document :=
  (Lexeme.scan text).bind ofLexemes?

/-- The document that a text is. -/
def ofText? (text : String) : Option Document :=
  ofScalars? (text.toList.map some)

/-- The document that a sequence of bytes is. -/
def ofBytes? (bytes : List UInt8) : Option Document :=
  ofScalars? (Text.Utf8.scan bytes)

end Document

end ObjectGrants.Json
