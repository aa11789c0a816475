import ObjectGrants.Http.Exchange
import ObjectGrants.Number.Decimal
import ObjectGrants.Text.Blank

/-!
HTTP/1.1 on a connection that serves a single request: the bytes that are sent, and the
answer that the bytes from the other side hold once no more of them come.
-/

namespace ObjectGrants.Http

/-- The host of a URL and the number behind it, as a request states them. -/
def Url.location (url : Url) : String :=
  match url.portNumber with
  | some number => url.host ++ ":" ++ toString number
  | none => url.host

/-- The bytes of a request. It asks for the connection to be closed behind the answer. -/
def Request.bytes (request : Request) : List UInt8 :=
  let first := request.method.name ++ " " ++ request.url.target ++ " HTTP/1.1"
  let size := match request.method with
    | .get => []
    | _ => [("content-length", toString request.body.length)]
  let connection := [("host", request.url.location), ("connection", "close")]
  let fields := connection ++ size ++ request.headers
  let lines := first :: fields.map (fun field => field.1 ++ ": " ++ field.2) ++ ["", ""]
  Text.Utf8.encode ("\r\n".intercalate lines) ++ request.body

namespace Answer

/-- The line at the head of some bytes and the bytes behind its end. A line ends with a line
feed, before which a carriage return may stand. -/
def line (bytes : List UInt8) : List Char × List UInt8 :=
  let text := Text.Utf8.lossy (bytes.takeWhile (· ≠ 10))
  (text.toList.filter (· ≠ '\r'), (bytes.dropWhile (· ≠ 10)).drop 1)

theorem line_rest_length_le (bytes : List UInt8) : (line bytes).2.length ≤ bytes.length := by
  have h : (bytes.dropWhile (· ≠ 10)).length ≤ bytes.length :=
    (List.dropWhile_sublist _).length_le
  simp only [line, List.length_drop]
  omega

theorem line_rest_length_lt {bytes : List UInt8} (h : bytes ≠ [])
    : (line bytes).2.length < bytes.length := by
  have positive : 0 < bytes.length := List.length_pos_iff.mpr h
  have h : (bytes.dropWhile (· ≠ 10)).length ≤ bytes.length :=
    (List.dropWhile_sublist _).length_le
  simp only [line, List.length_drop]
  omega

/-- The header fields at the head of some bytes, with their names in lower case, and the bytes
behind the empty line that ends them. -/
def fields (bytes : List UInt8) : Option (List (String × String) × List UInt8) :=
  if _ : bytes = [] then none
  else
    let name := (line bytes).1.takeWhile (· ≠ ':')
    let value := ((line bytes).1.dropWhile (· ≠ ':')).drop 1
    if name.isEmpty then some ([], (line bytes).2)
    else
      (fields (line bytes).2).map fun (others, rest) =>
        let field :=
          (String.ofList (name.map Char.toLower), String.ofList (Text.trimChars value))
        (field :: others, rest)
termination_by bytes.length
decreasing_by exact line_rest_length_lt ‹_›

/-- The number that hexadecimal digits write; what stands behind them is passed over. -/
def hexNumber? (text : List Char) : Option Nat :=
  match text.takeWhile fun c => (Json.Lexeme.hexDigit? c).isSome with
  | [] => none
  | digits => Url.numberIn 16 digits

/-- The body that chunks hold, each behind a line with its size, up to an empty chunk. -/
def chunks? (bytes : List UInt8) : Option (List UInt8) :=
  match hexNumber? (line bytes).1 with
  | none => none
  | some 0 => some []
  | some (size + 1) =>
      let rest := (line bytes).2
      if _ : rest.length < size + 3 then none
      else (chunks? (rest.drop (size + 3))).map (rest.take (size + 1) ++ ·)
termination_by bytes.length
decreasing_by
  have : (line bytes).2.length ≤ bytes.length := line_rest_length_le bytes
  simp only [rest, List.length_drop] at *
  omega

/-- The body of an answer with the given fields, if it has not broken off. -/
def body? (fields : List (String × String)) (rest : List UInt8) : Option (List UInt8) :=
  if fields.lookup "transfer-encoding" = some "chunked" then chunks? rest
  else match fields.lookup "content-length" with
    | none => some rest
    | some length =>
        match Number.Decimal.read UInt64.size length.toList with
        | .ok length => if rest.length < length then none else some (rest.take length)
        | .error _ => none

end Answer

/-- What has become of a request, from the bytes that came back. -/
def Exchange.ofBytes (bytes : List UInt8) : Exchange :=
  let (first, rest) := Answer.line bytes
  let code := ((first.dropWhile (· ≠ ' ')).drop 1).takeWhile (· ≠ ' ')
  match Number.Decimal.read 1000 code, Answer.fields rest with
  | .ok status, some (fields, rest) =>
      let contentType := fields.lookup "content-type"
      if status = 204 ∨ status = 304 then .answered status contentType (some [])
      else .answered status contentType (Answer.body? fields rest)
  | _, _ => .failed

end ObjectGrants.Http
