import Courier.Authentication
import Courier.Request.Build
import Courier.Response.Output

/-!
Calls to a source of data: a request is built, authorized and sent, and its response becomes the output. Nothing is
sent before the call is known to be one of the source and its request is built.
-/

namespace Courier

open Courier.Language Courier.Exchange

/-- How a call goes over the network. Times are in seconds. -/
structure CallOptions where
  verify : Bool
  connectTimeout : Float
  readTimeout : Float

/-- The options of a call. The credentials can overrule the settings on whether certificates are checked. -/
def CallOptions.ofCredentials (credentials : Option Credentials) (settings : Settings) : CallOptions where
  verify := (credentials.bind (·.verifyCertificate)).getD settings.verifyCertificates
  connectTimeout := settings.connectTimeout
  readTimeout := settings.readTimeout

/-- A source of data under settings. -/
structure Engine where
  source : DataSource
  settings : Settings

namespace Engine

/-- The engine of a source. -/
def ofDocument (source : Document) (settings : Settings) : Except Error Engine := do
  let source ← (DataSource.read source).toExcept.mapError .invalid
  return ⟨source, settings⟩

/-- An endpoint by its name. -/
def endpoint (e : Engine) (name : String) : Except Error Endpoint :=
  match entryOf? name e.source.endpoints with
  | some endpoint => .ok endpoint
  | none => .error (.unknownEndpoint name)

/-- The way in which the source authenticates. -/
def authentication (e : Engine) : Authentication := .ofTag e.source.authType

/-- The options of a call. -/
def options (e : Engine) : CallOptions := .ofCredentials e.source.credentials e.settings

/-- Reads a call. -/
def readCall (call : Document) : Except Error Call := (Call.read call).toExcept.mapError .invalid

/-- A step of a call that can change the data and use the network. -/
abbrev Live := ExceptT Error (StateM (Memory × Network))

/-- A step that does not use the network. -/
def offline {α : Type} (s : Step α) : Live α :=
  ExceptT.mk fun (memory, network) => let (r, memory) := s.run memory; (r, memory, network)

/-- A step that does not change the data. -/
def online {α : Type} (s : Online α) : Live α :=
  ExceptT.mk fun (memory, network) => let (r, network) := s.run network; (r, memory, network)

/-- The request of a call with its authorization. -/
def prepare (e : Engine) (data : Value) (call : Call) : Live Request := do
  let endpoint ← offline (Step.lift id (e.endpoint call.endpoint))
  let request ← offline (Request.build e.settings endpoint call data)
  online (e.authentication.apply request e.source.credentials)

/-- The data of a call as a map: pairs of keys and values are one, and nothing at all is an empty one. -/
def dataMap (data : Value) : Except Fault Value := do
  if data.isTrue then return .newMap (Value.putKeys (← Method.entriesOf data) []) else return .newMap []

/-- Calls an endpoint: the output of its response. -/
def request (e : Engine) (data : Value) (call : Document) : Live Value := do
  let data ← offline (Step.lift .fault (dataMap data))
  let call ← offline (Step.lift id (readCall call))
  let endpoint ← offline (Step.lift id (e.endpoint call.endpoint))
  let request ← e.prepare data call
  let response ← online (send request)
  offline (response.output data endpoint call)

end Engine

end Courier
