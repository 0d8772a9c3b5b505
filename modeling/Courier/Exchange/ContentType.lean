import Courier.Document
import Courier.Exchange.Message
import Courier.Number.Reading
import Courier.Text.Charset
import Courier.Text.Percent
import Courier.Text.Property
import Courier.Text.Search

/-!
The text of a reply. Its content type can name an encoding; a name that is not known counts for nothing, and without a
known name the text is read as UTF-8.
-/

namespace Courier.Exchange

/-- The bytes of a text whose characters stand for a byte each. -/
def bytesOf (s : String) : Text.Bytes := s.toList.map fun c => UInt8.ofNat c.toNat

/-- Headers as texts. The bytes of all of them are read as UTF-8 if they all can be, and as Latin-1 otherwise. -/
def Headers.decoded (headers : Headers) : Headers :=
  (headers.mapM fun (n, v) => do return (← Text.ofUtf8? (bytesOf n), ← Text.ofUtf8? (bytesOf v))).getD headers

/-- The value of a header; several headers of one name are one list. -/
def Headers.value? (headers : Headers) (name : String) : Option String :=
  match headers.valuesOf name with
  | [] => none
  | values => some (Text.join ", " values)

namespace ContentType

/-- The pieces between semicolons that do not stand in quotes. `piece` holds the piece so far, the last character
first, and `quoted` tells whether a quote is open in it. A backslash in front of a quote takes its meaning. -/
def pieces : Bool → List Char → List Char → List (List Char)
  | _, piece, [] => [piece.reverse]
  | quoted, piece, c :: rest =>
    if c == ';' && !quoted then piece.reverse :: pieces false [] rest
    else if c == '"' && piece.head? != some '\\' then pieces (!quoted) (c :: piece) rest
    else pieces quoted (c :: piece) rest

/-- A value without the quotes around it. -/
def unquoted (s : String) : String :=
  let cs := s.toList
  if 1 < cs.length && cs.head? == some '"' && cs.getLast? == some '"' then
    let inner := Text.replace ['\\', '\\'] ['\\'] cs.length cs.tail.dropLast
    String.ofList (Text.replace ['\\', '"'] ['"'] cs.length inner)
  else if 1 < cs.length && cs.head? == some '<' && cs.getLast? == some '>' then String.ofList cs.tail.dropLast
  else s

/-- The name of a parameter in small letters, and its value. -/
def parameterOf (piece : List Char) : String × String :=
  ((Text.trim (String.ofList (piece.takeWhile (· != '=')))).map Char.toLower,
    unquoted (Text.trim (String.ofList ((piece.dropWhile (· != '=')).drop 1))))

/-- A part of a value: its number, its text, and whether that is written with escapes. -/
structure Part where
  number : Option Nat
  text : String
  isEscaped : Bool

/-- A part of the value of a parameter: behind its name stand a star, the number of the part, and another star if the
text is written with escapes. -/
def partOf? (name key value : String) : Option Part := do
  let rest ← if (name ++ "*").toList.isPrefixOf key.toList then some (key.toList.drop (name.length + 1)) else none
  let digits := rest.takeWhile Text.isAsciiDigit
  let tail := rest.drop digits.length
  if digits.isEmpty && tail.isEmpty then some ⟨none, value, true⟩
  else if !digits.isEmpty && (tail.isEmpty || tail == ['*']) then
    some ⟨some (Number.natOfDigits (digits.map fun c => c.toNat - 48)), value, !tail.isEmpty⟩
  else none

/-- Whether a part comes before another. -/
def Part.before (a b : Part) : Bool := a.number.getD 0 ≤ b.number.getD 0

/-- A text with its escapes read as characters of a byte each. -/
def unescaped : List Char → List Char
  | '%' :: a :: b :: rest =>
    match Text.hexDigit? a, Text.hexDigit? b with
    | some m, some n => Char.ofNat (16 * m + n) :: unescaped rest
    | _, _ => '%' :: unescaped (a :: b :: rest)
  | c :: rest => c :: unescaped rest
  | [] => []

/-- The value that parts make. A value with escapes may have the names of an encoding and of a language in front. -/
def joined (parts : List Part) : String :=
  let value := String.join ((parts.mergeSort Part.before).map fun p =>
    if p.isEscaped then String.ofList (unescaped p.text.toList) else p.text)
  match parts.any (·.isEscaped), value.splitOn "'" with
  | true, _ :: _ :: text :: more => Text.join "'" (text :: more)
  | _, _ => value

/-- The value of a parameter of a content type. One that is given as a whole comes before one in parts. -/
def parameter? (name contentType : String) : Option String :=
  let parameters := (pieces false [] contentType.toList).map parameterOf
  match entryOf? name parameters with
  | some value => some value
  | none =>
    match parameters.tail.filterMap fun (key, value) => partOf? name key value with
    | [] => none
    | parts => some (joined parts)

/-- The encoding that a content type names. -/
def charset? (contentType : String) : Option Text.Charset := do
  let name ← parameter? "charset" contentType
  if name.toList.all fun c => c.toNat < 128 then Text.Charset.ofName? name else none

end ContentType

/-- The text of a body under headers. -/
def bodyText (headers : Headers) (body : Text.Bytes) : Except Text.Unreadable String :=
  let charset := (headers.decoded.value? "Content-Type").bind ContentType.charset?
  (charset.getD .utf8).read body

end Courier.Exchange
