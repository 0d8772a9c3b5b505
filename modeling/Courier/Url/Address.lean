import Courier.Document
import Courier.Number.Layout
import Courier.Text.Encoding
import Courier.Text.Percent
import Courier.Text.Property
import Courier.Text.Search

/-!
URLs and their parts. A URL is cut at its delimiters and nothing else is asked of the parts, so that any character can
stand in any of them; only a missing host and a port that is none are refused. Putting the parts together gives the
URL back wherever the delimiters that stand in it have something on both sides.

Queries are pairs of a name and a value, written with an equals sign between them and an ampersand between the pairs.
-/

namespace Courier.Url

/-- The parts of a URL that are present. -/
structure Address where
  scheme : Option String
  user : Option String
  password : Option String
  host : Option String
  port : Option String
  path : Option String
  query : Option String
  fragment : Option String
  deriving DecidableEq, Repr

namespace Address

/-- No parts. -/
def empty : Address := ⟨none, none, none, none, none, none, none, none⟩

/-- The names of the parts that are present, and the parts. -/
def entries (a : Address) : List (String × String) :=
  let named (name : String) (part : Option String) : List (String × String) := part.toList.map fun s => (name, s)
  named "scheme" a.scheme ++ named "user" a.user ++ named "pass" a.password ++ named "host" a.host ++
    named "port" a.port ++ named "path" a.path ++ named "query" a.query ++ named "fragment" a.fragment

end Address

/-- Why a text is no URL. -/
inductive Fault
  | malformed (url : String)
  | encoding (cause : Text.EncodingFault)
  /-- A port with more digits than any numeral may have. -/
  | portTooLong (digits : Nat)
  deriving DecidableEq, Repr

/-- A text before the first of some characters, and from there on. -/
def cutAt (stops : List Char) (cs : List Char) : List Char × List Char :=
  (cs.takeWhile fun c => !stops.contains c, cs.dropWhile fun c => !stops.contains c)

/-- A text before and behind the first occurrence of a character, if it occurs. -/
def cutFirst? (stop : Char) (cs : List Char) : Option (List Char × List Char) :=
  if cs.contains stop then some (cs.takeWhile (· != stop), (cs.dropWhile (· != stop)).tail) else none

/-- A text before and behind the last occurrence of a character, if it occurs. -/
def cutLast? (stop : Char) (cs : List Char) : Option (List Char × List Char) :=
  (cutFirst? stop cs.reverse).map fun (after, before) => (before.reverse, after.reverse)

/-- Characters of schemes. -/
def isSchemeChar (c : Char) : Bool := Text.isAsciiLetter c || Text.isAsciiDigit c || c == '-' || c == '.' || c == ' '

/-- The scheme of a URL, in small letters, and the rest behind its colon. -/
def scheme? (cs : List Char) : Option (List Char × List Char) := do
  let (before, rest) ← cutFirst? ':' cs
  if before.head?.any Text.isAsciiLetter && before.all isSchemeChar then some (before.map Char.toLower, rest) else none

/-- A part that is present if it is not empty. -/
def part? (cs : List Char) : Option String := if cs.isEmpty then none else some (String.ofList cs)

/-- The highest port. -/
def portLimit : Nat := 65535

/-- The number that decimal digits stand for. -/
def natOfDigits (cs : List Char) : Nat := cs.foldl (fun n c => 10 * n + (c.toNat - 48)) 0

/-- Host and port of an authority as they are written. A colon inside of brackets does not start a port. -/
def cutPort (cs : List Char) : List Char × List Char :=
  ((if cs.getLast? == some ']' then none else cutLast? ':' cs)).getD (cs, [])

/-- Host and port of an authority. -/
def hostAndPort? (cs : List Char) : Option (List Char × List Char) :=
  let (host, port) := cutPort cs
  if host.isEmpty || !port.all Text.isAsciiDigit || portLimit < natOfDigits port then none else some (host, port)

/-- The parts of an authority: user, password, host and port. -/
def authority? (cs : List Char) : Option Address := do
  let login := cutLast? '@' cs
  let (host, port) ← hostAndPort? (login.elim cs (·.2))
  let named := login.map fun (login, _) => (cutFirst? ':' login).getD (login, [])
  some { Address.empty with
    user := named.map fun (user, _) => String.ofList user
    password := do
      let (login, _) ← login
      let (_, password) ← cutFirst? ':' login
      some (String.ofList password)
    host := some (String.ofList host)
    port := part? port }

/-- The authority behind two slashes, if there are two, and the rest. -/
def splitAuthority (cs : List Char) : Option (List Char) × List Char :=
  match cs with
  | '/' :: '/' :: rest => let (authority, rest) := cutAt ['/', '?', '#'] rest; (some authority, rest)
  | _ => (none, cs)

/-- The parts behind the authority: path, query and fragment. -/
def splitPath (cs : List Char) : Address :=
  let (before, fragment) := (cutFirst? '#' cs).getD (cs, [])
  let (path, query) := (cutFirst? '?' before).getD (before, [])
  { Address.empty with path := part? path, query := part? query, fragment := part? fragment }

/-- The delimiters of URLs, which never stand for themselves in an encoded part. -/
def delimiters : List Char := [':', '/', '@', '?', '&', '=', '#']

/-- The fault of the first run between delimiters that cannot be encoded. -/
def encodingFault? : Nat → List Char → Option Text.EncodingFault
  | 0, _ => none
  | fuel + 1, cs =>
    let (run, rest) := cutAt delimiters cs
    match Text.utf8 (String.ofList run), rest with
    | .error f, _ => some f
    | .ok _, [] => none
    | .ok _, _ :: rest => encodingFault? fuel rest

/-- The parts of a URL whose characters can all be encoded. -/
def split? (cs : List Char) : Option Address := do
  let named := scheme? cs
  let (authority, rest) := splitAuthority (named.elim cs (·.2))
  let address ← match authority with
    | none => some Address.empty
    | some cs => authority? cs
  let tail := splitPath rest
  some { address with
    scheme := named.map fun (scheme, _) => String.ofList scheme
    path := tail.path, query := tail.query, fragment := tail.fragment }

/-- The number of digits of a port that is too long to be read as a number. -/
def longPort? (cs : List Char) : Option Nat := do
  let (authority, _) := splitAuthority ((scheme? cs).elim cs (·.2))
  let authority ← authority
  let (_, port) := cutPort ((cutLast? '@' authority).elim authority (·.2))
  if port.all Text.isAsciiDigit && Number.digitLimit < port.length then some port.length else none

/-- The parts of a URL. -/
def split (url : String) : Except Fault Address :=
  match encodingFault? (url.length + 1) url.toList, longPort? url.toList with
  | some f, _ => .error (.encoding f)
  | none, some digits => .error (.portTooLong digits)
  | none, none => match split? url.toList with
    | some a => .ok a
    | none => .error (.malformed url)

/-- A part behind its delimiter, if it is present and not empty. -/
def behind (delimiter : String) (part : Option String) : String :=
  let s := part.getD ""
  if s.isEmpty then "" else delimiter ++ s

/-- The URL of some parts. -/
def Address.toUrl (a : Address) : String :=
  let scheme := a.scheme.getD ""
  let user := a.user.getD ""
  let password := a.password.elim "" (":" ++ ·)
  (if scheme.isEmpty then "" else scheme ++ "://") ++
    (if user.isEmpty && password.isEmpty then "" else user ++ password ++ "@") ++ a.host.getD "" ++
    behind ":" a.port ++ a.path.getD "" ++ behind "?" a.query ++ behind "#" a.fragment

/-! ### Queries -/

/-- The pairs of a query. A piece without an equals sign is a name with an empty value. -/
def readQuery (query : String) : List (String × String) :=
  ((Text.splitBy '&' query).filter fun piece => !piece.isEmpty).map fun piece =>
    let name := piece.toList.takeWhile (· != '=')
    let value := (piece.toList.dropWhile (· != '=')).drop 1
    (Text.ofFormText (String.ofList name), Text.ofFormText (String.ofList value))

/-- A pair of a query. -/
def writePair (name value : String) : Except Text.EncodingFault String := do
  let name ← Text.formText name
  let value ← Text.formText value
  return name ++ "=" ++ value

/-- The query of some pairs. -/
def writeQuery (pairs : List (String × String)) : Except Text.EncodingFault String := do
  return Text.join "&" (← pairs.mapM fun (name, value) => writePair name value)

/-- The pairs of a query as a map: the last value of a name, at the place of its first one. -/
def queryMap (query : String) : List (String × String) := putEntries (readQuery query) []

end Courier.Url
