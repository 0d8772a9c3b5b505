import Courier.Error
import Courier.Exchange.ContentEncoding
import Courier.Exchange.ContentType
import Courier.Exchange.Location
import Courier.Exchange.Outgoing

/-!
Exchanges: a request is sent and the answer that its redirects end in comes back. An answer with a status of failure
ends the call. A reply that leads elsewhere names a place, and the message goes on to it; to another place it goes without
its authorization, and where the method changes it goes without its body.
-/

/-! ### Replies that lead elsewhere -/

namespace Courier.Exchange

/-- A reply that came back. -/
structure Answer where
  status : Int
  headers : Headers
  body : Text.Bytes

namespace Answer

/-- Where an answer leads to. -/
def location? (a : Answer) : Option String :=
  if [301, 302, 303, 307, 308].contains a.status then a.headers.decoded.value? "Location" else none

end Answer

/-- The method of a message that is led on. -/
def redirectedMethod (status : Int) (method : String) : String :=
  if (status == 303 || status == 302) && method != "HEAD" then "GET"
  else if status == 301 && method == "POST" then "GET"
  else method

/-- The URL that a location stands for. -/
def redirectedTarget (target : Target) (location : String) : Except Error Target := do
  let reference ← (Target.read location).mapError .location
  let reference ← (Location.withHost target reference).mapError .target
  let next ← (Location.absolute target reference).mapError .target
  (Location.withFragment target next).mapError .target

/-- The headers for another place. -/
def elsewhere (target next : Target) (headers : Headers) : Headers :=
  if target.sameOrigin next then headers
  else (if target.isUpgrade next then headers else headers.without "Authorization").set "Host" next.netLocation

/-- The message that goes on to another place. -/
def redirected (target : Target) (message : Message) (status : Int) (next : Target) : Message :=
  let method := redirectedMethod status message.method
  let headers := elsewhere target next message.headers
  if method != message.method && method == "GET" then
    let headers := ((headers.without "Content-Length").without "Transfer-Encoding").without "Cookie"
    ⟨method, next.toText, withHost method next headers, []⟩
  else ⟨method, next.toText, headers.without "Cookie", message.body⟩

/-! ### Exchanges -/

/-- A step that can use the network. -/
abbrev Online := ExceptT Error (StateM Network)

/-- A result that does not depend on the network. -/
def Online.lift {α : Type} (r : Except Error α) : Online α := liftM r

/-- Whether the number sign at the end of a URL has nothing behind it. -/
def withoutBareSign (url : String) : String :=
  let cs := url.toList
  if cs.getLast? == some '#' then String.ofList cs.dropLast else url

/-- Sends a message and takes its answer. An answer for a URL without a scheme belongs to no place. -/
def sendOne (target : Target) (message : Message) : Online Answer := do
  let (reply, network) := (← get).exchange message
  set network
  match reply with
  | .failure fault text => throw (.network fault text)
  | .answer status headers body =>
    if target.scheme.isEmpty then throw (.noScheme (withoutBareSign message.url))
    else return ⟨status, headers, body⟩

/-- How often a message is led on. -/
def redirectLimit : Nat := 20

/-- The wording of too many redirects. -/
def tooManyRedirects : Error := .network .tooManyRedirects "Exceeded maximum allowed redirects."

/-- An answer with its body as it was before it was compressed. -/
def Answer.plain (a : Answer) : Except Error Answer :=
  match ContentEncoding.plainBody a.headers a.body with
  | .ok body => .ok { a with body }
  | .error cause => .error (.network .decoding cause.message)

/-- Sends a message, at most so many times, until an answer does not lead on. Answers that lead on are read as well. -/
def follow : Nat → Target → Message → Online Answer
  | 0, _, _ => throw tooManyRedirects
  | fuel + 1, target, message => do
    let answer ← sendOne target message
    match answer.location? with
    | none => Online.lift answer.plain
    | some location => do
      let next ← Online.lift (redirectedTarget target location)
      let _ ← Online.lift answer.plain
      follow fuel next (redirected target message answer.status next)

/-- The headers of an answer, with all values of one name together. Names keep their spelling here, and two spellings
are two names. -/
def collected (headers : Headers) : List (String × List String) :=
  headers.foldl (fun acc (name, value) => putEntry name ((entryOf? name acc).getD [] ++ [value]) acc) []

/-- The response that an answer is. -/
def Answer.toResponse (a : Answer) : Except Error Response := do
  let text ← (bodyText a.headers a.body).mapError .unreadable
  return ⟨a.status, text, collected a.headers⟩

/-- The statuses of failure. -/
def isFailure (status : Int) : Bool := 400 ≤ status

/-- Sends a request. -/
def send (r : Request) : Online Response := do
  let (target, message) ← Online.lift (outgoing r)
  let answer ← follow (redirectLimit + 1) target message
  let response ← Online.lift answer.toResponse
  if isFailure response.status then throw (.refused response) else return response

end Courier.Exchange
