import Courier.Step
import Courier.Text.Case
import Courier.Url.Address

/-!
Building of requests: method and URL, headers, and body, each from the data of its own stage.

The data of a stage is the caller's data with the values of the rules of that stage. Every rule sees the caller's data
alone, so that neither the order of rules nor the rules of another stage matter to it. The URL of an endpoint and the
query of the call together are one template; the parameters of the endpoint go into the query that its text has, and
everything else of the URL stays as it is.
-/

/-! ### The data of a stage -/

namespace Courier.Request

open Courier.Language

/-- The name of the place where the values of a stage rest. -/
def placeOf (stage : Stage) : String :=
  match stage with
  | .param => "param"
  | .header => "header"
  | .body => "body"

/-- The place of the value of a key. The number of characters stands behind them, so that no part of the value of
another key has this place. -/
def pathOf (key : String) : List Nat := key.toList.map Char.toNat ++ [key.length]

/-- The values of rules, each under its key; of two rules with one key the last one counts. -/
def withRules (data : Value) (stage : Stage) :
    List OutboundRule → List (Value × Value) → Step (List (Value × Value))
  | [], entries => return entries
  | r :: rest, entries => do
    let v ← Step.value r.resolvedFormat r.value data (placeOf stage) (pathOf r.key)
    withRules data stage rest (Value.putKey (.newText r.key) v entries)

/-- The data of a stage. -/
def stageData (data : Value) (call : Call) (stage : Stage) : Step Value := do
  let entries ← Step.lift .fault (Method.entriesOf (← Step.settled data))
  return .newMap (← withRules data stage (call.outboundFor stage) (Value.putKeys entries []))

/-- Whether a container is one that the rules of a stage or the program itself made. -/
def isOwn (stage : Stage) : Identity → Bool
  | .placed root _ => root == placeOf stage
  | _ => true

/-- The texts of a stage. What they change of the values of its rules matters to no later stage, unless the data was
changed too, which may hold those values then. -/
def inStage {α : Type} (stage : Stage) (step : Step α) : Step α :=
  ExceptT.mk fun memory =>
    let (r, after) := step.run memory
    (r, if memory.changes.isEmpty && after.changes.all (fun change => isOwn stage change.1) then memory else after)

/-! ### The URL -/

/-- The URL of an endpoint. One that starts with a slash is one of the application. -/
def endpointUrl (settings : Settings) (endpoint : Endpoint) : String :=
  if endpoint.url.startsWith "/" then settings.urlOf endpoint.url else endpoint.url

/-- The template of the URL: that of the endpoint, with the query of the call behind it. -/
def urlTemplate (settings : Settings) (endpoint : Endpoint) (call : Call) : String :=
  let url := endpointUrl settings endpoint
  match call.queryString with
  | none => url
  | some query => url ++ (if url.toList.contains '?' then "&" else "?") ++ query

/-- The error of a text that is no URL. -/
def urlError : Url.Fault → Error
  | .malformed url => .malformedUrl url
  | .encoding cause => .encoding cause
  | .portTooLong digits => .fault (.numeralTooLong digits)

/-- Puts a parameter into a query. One without a value is left out unless it is required. -/
def withParameter (data : Value) (query : List (String × String)) (p : EndpointParameter) :
    Step (List (String × String)) := do
  let key ← Step.text p.key data
  let value ← Step.text p.value data
  return if value != "" || p.required then putEntry key value query else query

/-- The URL of a request. -/
def address (settings : Settings) (endpoint : Endpoint) (call : Call) (data : Value) : Step String := do
  let url ← Step.text (urlTemplate settings endpoint call) data
  let parts ← Step.lift urlError (Url.split url)
  let query ← endpoint.params.foldlM (withParameter data) (Url.queryMap (parts.query.getD ""))
  let query ← Step.lift .encoding (Url.writeQuery query)
  return { parts with query := some query }.toUrl

/-! ### Headers and body -/

/-- The text of a computed header: nothing for no value, a text as it is, and JSON for everything else. -/
def headerText (v : Value) : Except Fault String :=
  match v with
  | .none => .ok ""
  | .text _ s | .safeText s => .ok s
  | v => v.toJson

/-- The entry of a key in the data of a stage. -/
def entryOf (data : Value) (key : String) : Value :=
  match data with
  | .map _ entries => (Value.lookup (.newText key) entries).getD .none
  | _ => .none

/-- The computed value of a header. -/
def computedHeader (data : Value) (key : String) : Step String := do
  Step.lift .fault (headerText (← Step.settled (entryOf data key)))

/-- The headers that every request starts with. -/
def defaultHeaders : List (String × String) := [("Accept", "application/json")]

/-- Adds a header of the endpoint. One that a rule computes takes its value from there. -/
def withDeclared (data : Value) (computed : List String) (headers : List (String × String)) (h : EndpointParameter) :
    Step (List (String × String)) := do
  let name ← Step.text h.key data
  let value ← if computed.contains h.key then computedHeader data h.key else Step.text h.value data
  return putEntry name value headers

/-- Adds a header that a rule computes and the endpoint does not declare. -/
def withComputed (data : Value) (headers : List (String × String)) (key : String) : Step (List (String × String)) := do
  let name ← Step.text key data
  return putEntry name (← computedHeader data key) headers

/-- The headers of a request. Without rules all headers of the endpoint are sent; with rules, those it requires and
those that rules of the stage compute. -/
def headersOf (endpoint : Endpoint) (call : Call) (data : Value) : Step (List (String × String)) := do
  if call.outbound.isNone then endpoint.headers.foldlM (withDeclared data []) defaultHeaders
  else
    let computed := (call.outboundFor .header).map (·.key)
    let needed := endpoint.headers.filter (·.required)
    let declared ← needed.foldlM (withDeclared data computed) defaultHeaders
    (computed.filter fun key => !(needed.map (·.key)).contains key).foldlM (withComputed data) declared

/-- The method and the URL of a request. -/
def methodAndAddress (settings : Settings) (endpoint : Endpoint) (call : Call) (data : Value) :
    Step (String × String) := do
  let method ← Step.text endpoint.method data
  let url ← address settings endpoint call data
  return (Text.upper (Text.trim method), url)

/-- The body of a request and its type. -/
def bodyOf (endpoint : Endpoint) (data : Value) : Step (String × Option String) := do
  let body ← Step.text endpoint.body data
  let bodyType ← endpoint.bodyType.mapM fun t => Step.text t data
  return (body, bodyType)

/-- The request of a call, without authorization. -/
def build (settings : Settings) (endpoint : Endpoint) (call : Call) (data : Value) : Step Request := do
  let paramData ← stageData data call .param
  let (method, url) ← inStage .param (methodAndAddress settings endpoint call paramData)
  let headerData ← stageData data call .header
  let headers ← inStage .header (headersOf endpoint call headerData)
  let bodyData ← stageData data call .body
  let (body, bodyType) ← inStage .body (bodyOf endpoint bodyData)
  return ⟨method, url, headers, body, bodyType⟩

end Courier.Request
