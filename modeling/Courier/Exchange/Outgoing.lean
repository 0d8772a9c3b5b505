import Courier.Document
import Courier.Error
import Courier.Number.Arithmetic
import Courier.Number.Layout
import Courier.Text.Encoding
import Courier.Url.Address

/-!
Requests as they are sent. A body is sent as it is, or as a form if its type says so; headers that the body and the
host ask for are added unless they are there, and user information in the URL becomes an authorization.

A document is sent as the fields of a form. A field has the names of the keys and the positions that lead to it, all but
the first in brackets. What is null has no field.
-/

/-! ### Documents as fields -/

namespace Courier.Exchange

/-- The name of a field inside of another. -/
def fieldName (parent key : String) : String := if parent.isEmpty then key else parent ++ "[" ++ key ++ "]"

/-- The text of a single value, if it has a field. -/
def fieldText? : Document → Option String
  | .bool b => some (if b then "1" else "0")
  | .int i => some (Number.writeInt i)
  | .float x => some (Number.plainLayout.write x)
  | .text s => some s
  | _ => none

mutual

/-- The single values in a part of a document, each with the name of its field. -/
def leaves (name : String) : Document → List (String × String)
  | .object entries => entryLeaves name entries
  | .list items => itemLeaves name 0 items
  | d => (fieldText? d).toList.map fun s => (name, s)

/-- The single values in the entries of an object. -/
def entryLeaves (parent : String) : List (String × Document) → List (String × String)
  | [] => []
  | (key, d) :: rest => leaves (fieldName parent key) d ++ entryLeaves parent rest

/-- The single values in the items of a list, numbered from a position on. -/
def itemLeaves (parent : String) (position : Nat) : List Document → List (String × String)
  | [] => []
  | d :: rest => leaves (fieldName parent (toString position)) d ++ itemLeaves parent (position + 1) rest

end

/-- The fields of a document. Of two values with one name the last one counts. A single value has no fields. -/
def formFields (parent : String) (d : Document) : List (String × String) :=
  match d with
  | .object _ | .list _ => putEntries (leaves parent d) []
  | _ => []

/-! ### Messages -/

/-- What a request carries. -/
inductive Payload
  | nothing
  | form (fields : List (String × String))
  | bytes (body : Text.Bytes)

/-- The type of a body whose entries are sent as a form. -/
def formType : String := "form-data"

/-- What a request carries. The body of a form is JSON. -/
def Payload.ofRequest (r : Request) : Except Error Payload :=
  if r.bodyType == some formType then
    if r.body.isEmpty then .ok (.form [])
    else do return .form (formFields "" (← (Json.read r.body).mapError .json))
  else if r.body.isEmpty then .ok .nothing
  else do return .bytes (← (Text.utf8 r.body).mapError .encoding)

/-- The bytes that are sent. A form without fields has none. -/
def Payload.body : Payload → Except Error Text.Bytes
  | nothing => .ok []
  | form fields => do return bytesOf (← (Url.writeQuery fields).mapError .encoding)
  | bytes body => .ok body
where
  /-- The bytes of a text of ASCII characters. -/
  bytesOf (s : String) : Text.Bytes := s.toList.map fun c => UInt8.ofNat c.toNat

/-- Whether a payload is a form with fields. -/
def Payload.isForm : Payload → Bool
  | form fields => !fields.isEmpty
  | _ => false

/-- The headers of a request, checked to be ASCII text, name before value. -/
def checkedHeaders : List (String × String) → Except Error Headers
  | [] => .ok []
  | (name, value) :: rest => do
    let _ ← (Text.ascii name).mapError .encoding
    let _ ← (Text.ascii value).mapError .encoding
    return (name, value) :: (← checkedHeaders rest)

/-- The headers with what every request accepts, unless they say it themselves. -/
def withAccept (headers : Headers) : Headers := if headers.has "Accept" then headers else ("Accept", "*/*") :: headers

/-- The headers with those that describe a body. -/
def withBody (payload : Payload) (body : Text.Bytes) (headers : Headers) : Headers :=
  if body.isEmpty then headers
  else
    let headers := headers.setDefault "Content-Length" (toString body.length)
    if payload.isForm then headers.setDefault "Content-Type" "application/x-www-form-urlencoded" else headers

/-- Methods whose requests always tell the length of their body. -/
def tellsLength (method : String) : Bool := method == "POST" || method == "PUT" || method == "PATCH"

/-- The headers with the host, and with the length of a body that is missing. -/
def withHost (method : String) (target : Target) (headers : Headers) : Headers :=
  let length := headers.has "Content-Length" || headers.has "Transfer-Encoding"
  (if headers.has "Host" || target.host.isEmpty then [] else [("Host", target.netLocation)]) ++
    (if length || !tellsLength method then [] else [("Content-Length", "0")]) ++ headers

/-- The authorization of the user information in a URL. -/
def userAuthorization? (target : Target) : Option String :=
  let cs := target.userInfo.toList
  let user := Text.unescape (String.ofList (cs.takeWhile (· != ':')))
  let password := Text.unescape (String.ofList ((cs.dropWhile (· != ':')).drop 1))
  if user.isEmpty && password.isEmpty then none
  else some ("Basic " ++ Text.Base64.encode (Text.utf8Bytes (user ++ ":" ++ password).toList))

/-- The headers with the authorization of the URL, which takes the place of any other. -/
def withUser (target : Target) (headers : Headers) : Headers :=
  match userAuthorization? target with
  | some value => headers.set "Authorization" value
  | none => headers

/-- The message of a request, and where it goes. -/
def outgoing (r : Request) : Except Error (Target × Message) := do
  let payload ← Payload.ofRequest r
  let target ← (Target.ofRequest r.url).mapError .target
  let headers ← checkedHeaders r.headers
  let body ← payload.body
  let method := Text.upper r.method
  let headers := withHost method target (withBody payload body (withAccept headers))
  return (target, ⟨method, target.toText, withUser target headers, body⟩)

end Courier.Exchange
