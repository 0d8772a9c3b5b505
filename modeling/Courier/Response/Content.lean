import Courier.Error

/-!
The content of responses. A blank body is content without entries; every other body is JSON or no content at all.
-/

namespace Courier.Response

open Courier.Language

/-- Whether a body holds nothing but blanks. -/
def isBlank (r : Response) : Bool := Text.isBlankText r.body

/-- The content of a response. -/
def content (r : Response) : Except Json.Fault Document := if r.isBlank then .ok (.object []) else Json.read r.body

/-- Whether a response has content. That of containers beyond the nesting limit is not known. -/
def isJson (r : Response) : Except Json.Fault Bool :=
  match r.content with
  | .ok _ => .ok true
  | .error cause => if cause.isUnreadable then .ok false else .error cause

/-- The first value of each header. -/
def firstHeaders (r : Response) : List (String × String) :=
  r.headers.filterMap fun (name, values) => values.head?.map fun v => (name, v)

/-- Whether a status means that the call succeeded without content. -/
def isSuccessWithout (status : Int) : Bool := 200 < status && status < 300

/-- The content that counts: the body under status 200, none under the other statuses of success. Any other status of
a response with content refuses the call. -/
def accepted (r : Response) : Except Error Document :=
  if r.status == 200 then r.content.mapError .json
  else if isSuccessWithout r.status then .ok (.object [])
  else .error (.refused r)

/-- Status and body of a response. -/
def raw (r : Response) : Value :=
  .newMap [(.newText "response", .newText r.body), (.newText "status", .newInt r.status)]

/-- Status and content of a response. -/
def basic (r : Response) (content : Value) : List (Value × Value) :=
  [(.newText "status", .newInt r.status), (.newText "response", content)]

end Courier.Response
