import ObjectGrants.Text.Blank
import ObjectGrants.Text.Pieces

/-!
Files that set variables, one on each line: a name, an equals sign and a value. Blank lines
and lines that begin with a number sign are passed over, and the word `export` may stand in
front of a name.

A value may be quoted, and a quoted value may go on over several lines. Between single quotes
everything stands for itself; elsewhere a backslash escapes a character, and a dollar sign in
front of a name, or of a name in braces, stands for the value of that variable. White space
outside quotes ends a value, and only a comment may follow.
-/

namespace ObjectGrants.CommandLine.VariableFile

/-- Where the reading of a value stands. -/
inductive Mode where
  | plain
  | singleQuoted
  | doubleQuoted
  /-- Behind a backslash, within double quotes or not. -/
  | escaped (quoted : Bool)
  /-- In the name of a variable, within double quotes or not, in braces or not. -/
  | named (quoted braced : Bool) (reversed : List Char)
  /-- Behind the value. -/
  | ended
  deriving DecidableEq, Repr

/-- The mode outside or within double quotes. -/
def Mode.text (quoted : Bool) : Mode :=
  if quoted then .doubleQuoted else .plain

/-- What a backslash makes of a character. -/
def escape? (c : Char) : Option Char :=
  if ['\\', '\'', '"', '$', ' '].contains c then some c
  else if c = 'n' then some '\n'
  else none

/-- Reads a value on from a mode. `lookup` gives the variables that may be named. -/
def value (lookup : String → Option String) : Mode → List Char → Option (List Char)
  | .plain, [] => some []
  | .ended, [] => some []
  | .escaped false, [] => some []
  | .named false false reversed, [] =>
      some ((lookup (String.ofList reversed.reverse)).getD "").toList
  | _, [] => none
  | .ended, c :: rest =>
      if c = ' ' || c = '\t' then value lookup .ended rest
      else if c = '#' then some []
      else none
  | .escaped quoted, c :: rest => do
      let meant ← escape? c
      (value lookup (.text quoted) rest).map (meant :: ·)
  | .singleQuoted, c :: rest =>
      if c = '\'' then value lookup .plain rest
      else (value lookup .singleQuoted rest).map (c :: ·)
  | .named quoted true reversed, c :: rest =>
      if c = '\x7d' then
        let named := ((lookup (String.ofList reversed.reverse)).getD "").toList
        (value lookup (.text quoted) rest).map (named ++ ·)
      else value lookup (.named quoted true (c :: reversed)) rest
  | .named quoted false reversed, c :: rest =>
      if c.isAlphanum then value lookup (.named quoted false (c :: reversed)) rest
      else if c = '\x7b' && reversed.isEmpty then value lookup (.named quoted true []) rest
      else
        let named := ((lookup (String.ofList reversed.reverse)).getD "").toList
        if c = '$' then (value lookup (.named quoted false []) rest).map (named ++ ·)
        else (value lookup (.text quoted) rest).map (named ++ c :: ·)
  | .doubleQuoted, c :: rest =>
      if c = '$' then value lookup (.named true false []) rest
      else if c = '"' then value lookup .plain rest
      else if c = '\\' then value lookup (.escaped true) rest
      else (value lookup .doubleQuoted rest).map (c :: ·)
  | .plain, c :: rest =>
      if c = '$' then value lookup (.named false false []) rest
      else if c = '\'' then value lookup .singleQuoted rest
      else if c = '"' then value lookup .doubleQuoted rest
      else if c = '\\' then value lookup (.escaped false) rest
      else if c = ' ' || c = '\t' then value lookup .ended rest
      else (value lookup .plain rest).map (c :: ·)

/-- Whether a character can stand in a name behind the first one. -/
def isNameChar (c : Char) : Bool :=
  c.isAlphanum || c = '_' || c = '.'

/-- The name at the head of a line, and what follows it. -/
def name? : List Char → Option (String × List Char)
  | [] => none
  | c :: rest =>
      if c.isAlpha || c = '_' then
        some (String.ofList (c :: rest.takeWhile isNameChar), rest.dropWhile isNameChar)
      else none

/-- What follows an equals sign. -/
def behindEquals? (text : List Char) : Option (List Char) :=
  match text.dropWhile Text.isBlank with
  | '=' :: rest => some (rest.dropWhile Text.isBlank)
  | _ => none

/-- The name and the value text of an entry that sets a variable. -/
def assignment? (entry : List Char) : Option (String × List Char) := do
  let (name, rest) ← name? entry
  match behindEquals? rest with
  | some text => some (name, text)
  | none =>
      if name = "export" then
        let (name, rest) ← name? (rest.dropWhile Text.isBlank)
        (behindEquals? rest).map (name, ·)
      else none

/-- What an entry is: nothing, a variable, or something that cannot be read. -/
inductive Entry where
  | blank
  | sets (name value : String)
  | unreadable
  deriving DecidableEq, Repr

/-- Reads an entry. -/
def Entry.ofChars (lookup : String → Option String) (text : List Char) : Entry :=
  match Text.trimChars text with
  | [] => .blank
  | '#' :: _ => .blank
  | trimmed =>
      match assignment? trimmed with
      | none => .unreadable
      | some (name, []) => .sets name ""
      | some (name, '#' :: _) => .sets name ""
      | some (name, text) =>
          match value lookup .plain text with
          | some value => .sets name (String.ofList value)
          | none => .unreadable

/-- Where the search for the end of an entry stands. -/
inductive Extent where
  | text
  | blank
  | escaped
  | singleQuoted
  | singleEscaped
  | doubleQuoted
  | doubleEscaped
  deriving DecidableEq, Repr

/-- What a character changes outside quotes. -/
def Extent.outside (c : Char) : Extent :=
  if c = '\\' then escaped
  else if c = '"' then doubleQuoted
  else if c = '\'' then singleQuoted
  else text

/-- Where the search stands behind a character; nowhere if a comment begins with it. -/
def Extent.next (c : Char) : Extent → Option Extent
  | blank => if c = '#' then none else some (outside c)
  | text => if Text.isBlank c && c ≠ '\n' && c ≠ '\r' then some blank else some (outside c)
  | escaped => some text
  | singleQuoted =>
      some (if c = '\\' then singleEscaped else if c = '\'' then text else singleQuoted)
  | singleEscaped => some singleQuoted
  | doubleQuoted =>
      some (if c = '\\' then doubleEscaped else if c = '"' then text else doubleQuoted)
  | doubleEscaped => some doubleQuoted

/-- Goes through a line. It gives where the search stands behind the line, or the part in
front of a comment. -/
def Extent.through (extent : Extent) : List Char → Except (List Char) Extent
  | [] => .ok extent
  | c :: rest =>
      match extent.next c with
      | none => .error []
      | some extent => (extent.through rest).mapError (c :: ·)

/-- The lines of a text with their ends. -/
def lines : List Char → List (List Char)
  | [] => []
  | c :: rest =>
      if c = '\n' then [c] :: lines rest
      else match lines rest with
        | line :: others => (c :: line) :: others
        | [] => [[c]]

/-- The entries that some lines hold, one each; a line that leaves a quote open is continued
by the next one. `held` is what has been read of the present entry. The text must not end
within an entry. -/
def entries (held : List Char) (extent : Extent) : List (List Char) → List (Option (List Char))
  | [] => if extent = .text then [] else [none]
  | line :: rest =>
      if ((held ++ line).dropWhile Text.isBlank).head? = some '#' then
        some [] :: entries [] .text rest
      else match extent.through line with
        | .error front => some (held ++ front) :: entries [] .text rest
        | .ok .text => some (held ++ line) :: entries [] .text rest
        | .ok extent => entries (held ++ line) extent rest

/-- Sets the variables of some entries, up to the first that cannot be read. A variable that
is set already keeps its value. -/
def setAll (environment : List (String × String))
    : List (Option (List Char)) → List (String × String)
  | [] => environment
  | none :: _ => environment
  | some entry :: rest =>
      match Entry.ofChars (environment.lookup ·) entry with
      | .blank => setAll environment rest
      | .sets name value =>
          if (environment.lookup name).isSome then setAll environment rest
          else setAll (environment ++ [(name, value)]) rest
      | .unreadable => environment

/-- Adds the variables of a file to those that are set already. A byte order mark at the start
of the file does not count. -/
def extend (environment : List (String × String)) (text : String) : List (String × String) :=
  let text := match text.toList with
    | '\uFEFF' :: rest => rest
    | text => text
  setAll environment (entries [] .text (lines text))

/-- The words of a file, among which are the names of all variables that it sets or names. -/
def words (text : String) : List String :=
  ((Text.pieces (!isNameChar ·) text.toList).filter (!·.isEmpty)).map String.ofList

end ObjectGrants.CommandLine.VariableFile
