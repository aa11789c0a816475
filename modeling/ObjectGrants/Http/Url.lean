import ObjectGrants.Json.Lexeme
import ObjectGrants.Text.Pieces
import ObjectGrants.Text.Utf8

/-!
Absolute URLs of the schemes `http` and `https`, as a client needs them: whom to connect to,
and the target that the request names.

Reading follows the common practice for these schemes. Control characters and spaces at the
ends are dropped, and tabs and line breaks anywhere; backslashes count as slashes up to the
query; `.` and `..` steps of the path are carried out; and characters that a target cannot
hold are written as percent escapes of their UTF-8 bytes. A fragment is not sent.
-/

namespace ObjectGrants.Http

/-- An absolute URL. The target is the path, with the query if there is one. -/
structure Url where
  isSecure : Bool
  host : String
  portNumber : Option Nat
  target : String
  deriving DecidableEq, Repr

namespace Url

/-- The percent escape of a byte. -/
def escapedByte (byte : UInt8) : List Char :=
  let digit (n : Nat) : Char :=
    if n < 10 then Char.ofNat ('0'.toNat + n) else Char.ofNat ('A'.toNat + (n - 10))
  ['%', digit (byte.toNat / 16), digit (byte.toNat % 16)]

/-- A character with its escapes, if it is not printable ASCII or among `special`. -/
def escapedChar (special : List Char) (c : Char) : List Char :=
  if c.toNat ≤ 0x20 || 0x7F ≤ c.toNat || special.contains c then
    (Text.Utf8.encode (String.ofList [c])).flatMap escapedByte
  else [c]

/-- The characters that a path cannot hold. -/
def specialInPath : List Char := ['"', '#', '<', '>', '?', '\x60', '\x7b', '\x7d']

/-- The characters that a query cannot hold. -/
def specialInQuery : List Char := ['"', '#', '<', '>', '\'']

/-- The characters that no host holds. -/
def forbiddenInHost : List Char :=
  ['#', '/', ':', '<', '>', '?', '@', '[', '\\', ']', '^', '|', '%']

/-- Whether a step of a path stays where it is. Its dot may be written as an escape. -/
def isHere (step : List Char) : Bool :=
  [".", "%2e"].contains (String.ofList (step.map Char.toLower))

/-- Whether a step of a path goes up. -/
def isUp (step : List Char) : Bool :=
  ["..", ".%2e", "%2e.", "%2e%2e"].contains (String.ofList (step.map Char.toLower))

/-- Carries out the steps of a path; `done` holds those that remain, the last first. A step
at the end that names nothing leaves an empty one. -/
def walk (done : List (List Char)) : List (List Char) → List (List Char)
  | [] => done.reverse
  | [last] =>
      if isUp last then (([] : List Char) :: done.drop 1).reverse
      else if isHere last then (([] : List Char) :: done).reverse
      else (last :: done).reverse
  | step :: rest =>
      if isUp step then walk (done.drop 1) rest
      else if isHere step then walk done rest
      else walk (step :: done) rest

/-- The path of a request target. -/
def path (written : List Char) : List Char :=
  let steps := match Text.pieces (fun c => c = '/' || c = '\\') written with
    | [] :: steps => steps
    | steps => steps
  let steps := walk [] steps
  let steps := if steps.isEmpty then [[]] else steps
  steps.flatMap fun step => '/' :: step.flatMap (escapedChar specialInPath)

/-- A text before and behind the first character that satisfies a test, which stays with the
second part. -/
def cut (stops : Char → Bool) (text : List Char) : List Char × List Char :=
  (text.takeWhile (!stops ·), text.dropWhile (!stops ·))

/-- The request target for what follows the authority of a URL. -/
def targetOf (rest : List Char) : List Char :=
  let (rest, _) := cut (· = '#') rest
  let (written, query) := cut (· = '?') rest
  path written ++ match query with
    | [] => []
    | _ :: query => '?' :: query.flatMap (escapedChar specialInQuery)

/-- The number that digits write in a base. -/
def numberIn (base : Nat) (digits : List Char) : Option Nat :=
  digits.foldlM (fun value c => do
    let digit ← Json.Lexeme.hexDigit? c
    if digit < base then some (base * value + digit) else none) 0

/-- The number behind the host of an authority; none is written for that of the scheme. -/
def portNumber? (digits : List Char) : Option (Option Nat) :=
  if digits.isEmpty then some none
  else do
    let number ← numberIn 10 digits
    if number < 65536 then some (some number) else none

/-- A text without what stands before the last occurrence of a character, and without it. -/
def behindLast (mark : Char) (text : List Char) : List Char :=
  (text.reverse.takeWhile (· ≠ mark)).reverse

/-- One of the numbers of a four-byte address: hexadecimal behind `0x`, octal behind `0`. -/
def addressNumber? : List Char → Option Nat
  | [] => none
  | ['0'] => some 0
  | '0' :: mark :: digits =>
      if mark = 'x' || mark = 'X' then numberIn 16 digits else numberIn 8 (mark :: digits)
  | digits => numberIn 10 digits

/-- The parts of a host between its dots, without an empty one at the end. -/
def hostParts (host : List Char) : List (List Char) :=
  match (Text.pieces (· = '.') host).reverse with
  | [] :: part :: rest => (part :: rest).reverse
  | parts => parts.reverse

/-- Whether a host has to be a four-byte address since it ends in a number. -/
def endsInNumber (host : List Char) : Bool :=
  match (hostParts host).getLast? with
  | some part => !part.isEmpty && (part.all Char.isDigit || (addressNumber? part).isSome)
  | none => false

/-- Whether numbers make up a four-byte address: a byte each, the last one filling what is
left. -/
def areAddressNumbers : (bytes : Nat) → List Nat → Bool
  | 0, _ => false
  | _, [] => false
  | bytes + 1, [last] => last < Nat.pow 256 (bytes + 1)
  | bytes + 1, number :: rest => number < 256 && areAddressNumbers bytes rest

/-- Whether a host is a four-byte address. -/
def isShortAddress (host : List Char) : Bool :=
  match (hostParts host).mapM addressNumber? with
  | some numbers => areAddressNumbers 4 numbers
  | none => false

/-- How many pairs of bytes a part of a long address writes between its colons. The last
piece may be a four-byte address in plain decimal. -/
def addressPairs? : List (List Char) → Option Nat
  | [] => some 0
  | [last] =>
      let numbers := (Text.pieces (· = '.') last).mapM fun digits =>
        if digits.isEmpty || (1 < digits.length && digits.head? = some '0') then none
        else numberIn 10 digits
      match numbers with
      | some [a, b, c, d] => if [a, b, c, d].all (· < 256) then some 2 else none
      | _ => addressPair? last
  | piece :: rest => do pure ((← addressPair? piece) + (← addressPairs? rest))
where
  addressPair? (piece : List Char) : Option Nat :=
    if piece.isEmpty || 4 < piece.length then none else (numberIn 16 piece).map fun _ => 1

/-- Whether what stands in brackets is an address of eight pairs of bytes, of which two colons
may replace a run. -/
def isLongAddress (inside : List Char) : Bool :=
  let pairs (part : List Char) : Option Nat :=
    if part.isEmpty then some 0 else addressPairs? (Text.pieces (· = ':') part)
  match splitAtColons inside with
  | none => pairs inside = some 8
  | some (front, back) =>
      match pairs front, pairs back with
      | some m, some n => m + n < 8
      | _, _ => false
where
  splitAtColons : List Char → Option (List Char × List Char)
    | ':' :: ':' :: back => some ([], back)
    | c :: rest => (splitAtColons rest).map fun (front, back) => (c :: front, back)
    | [] => none

/-- The host of an authority and the number behind it. A host in brackets is an address and
has colons. -/
def hostAndNumber? (authority : List Char) : Option (String × Option Nat) := do
  let authority := behindLast '@' authority
  match authority with
  | '[' :: address =>
      let (inside, rest) := cut (· = ']') address
      let number ← match rest with
        | [_] => some none
        | _ :: ':' :: digits => portNumber? digits
        | _ => none
      if isLongAddress inside then some (String.ofList ('[' :: inside ++ [']']), number) else none
  | _ =>
      let (host, rest) := cut (· = ':') authority
      let number ← portNumber? (rest.drop 1)
      let isHost := !host.isEmpty && host.all fun c =>
        0x20 < c.toNat && c.toNat ≠ 0x7F && !forbiddenInHost.contains c
      if isHost && (!endsInNumber host || isShortAddress host) then
        some (String.ofList (host.map Char.toLower), number)
      else none

/-- The characters that count, without those that are dropped. -/
def significant (text : List Char) : List Char :=
  let isEdge (c : Char) : Bool := c.toNat ≤ 0x20
  let text := ((text.dropWhile isEdge).reverse.dropWhile isEdge).reverse
  text.filter fun c => c ≠ '\t' && c ≠ '\n' && c ≠ '\r'

/-- Reads an absolute URL with a host. -/
def ofText? (text : String) : Option Url := do
  let (scheme, rest) := cut (· = ':') (significant text.toList)
  let scheme := String.ofList (scheme.map Char.toLower)
  let isSecure ← if scheme = "http" then some false else if scheme = "https" then some true
    else none
  let isSlash (c : Char) : Bool := c = '/' || c = '\\'
  let rest ← match rest with
    | _ :: rest => some (rest.dropWhile isSlash)
    | [] => none
  let (authority, rest) := cut (fun c => isSlash c || c = '?' || c = '#') rest
  let (host, portNumber) ← hostAndNumber? authority
  pure { isSecure, host, portNumber, target := String.ofList (targetOf rest) }

end Url

end ObjectGrants.Http
