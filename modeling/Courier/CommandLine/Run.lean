import Courier.CommandLine.Arguments
import Courier.CommandLine.Files
import Courier.Engine
import Courier.Text.Case

/-!
Running commands. A command prints its result, or a line on why there is none; errors that it does not expect are
raised.
-/

namespace Courier.CommandLine

open Courier.Language Courier.Exchange

/-- How a command ended. -/
inductive Ending
  /-- The result is printed. -/
  | printed (text : String)
  /-- The reason why there is no result is printed. -/
  | refused (reason : String)
  /-- An error that is not expected. -/
  | raised (error : Error)
  | help
  | misuse

namespace Ending

/-- The exit code of the program. -/
def exitCode : Ending → Nat
  | printed _ | help => 0
  | refused _ | raised _ => 1
  | misuse => 2

/-- What is printed as the result. -/
def output : Ending → String
  | printed text => text ++ "\n"
  | help => "Usage: courier [--log-level LEVEL] (call|compose-url) SOURCE CONFIG [--data FILE]\n" ++
      "       courier [--log-level LEVEL] (eval|render) TEXT [--data FILE]\n"
  | _ => ""

/-- What is printed apart from the result. -/
def diagnostics : Ending → String
  | refused reason => reason ++ "\n"
  | _ => ""

end Ending

/-- A step of a command, which ends early without a result. -/
abbrev Work := ExceptT Ending (StateM Network)

/-- A result, or an error that is not expected. -/
def orRaised {α : Type} (r : Except Error α) : Work α := liftM (r.mapError Ending.raised)

/-- The document in a file. -/
def load (files : Files) (name : String) : Work Document := do
  match ← orRaised (files.read name) with
  | none => throw (.refused ("❌ File not found: " ++ plainName name))
  | some text => match Json.read text with
    | .ok d => return d
    | .error (.syntaxProblem what line column position) =>
      let cause := Json.Fault.syntaxProblem what line column position
      throw (.refused ("❌ Invalid JSON in " ++ plainName name ++ ": " ++ cause.message))
    | .error cause => throw (.raised (.json cause))

/-- The data in a file; without one there is none. -/
def loadData (files : Files) (name : Option String) : Work Value := do
  let document ← match name with
    | none => pure (.object [])
    | some name => load files name
  return .ofDocument "data" [] document

/-- The text of a value as it is printed. -/
def printedValue (v : Value) : Work Ending := do
  let document ← orRaised (((do (← v.withTexts).toDocument) : Except Fault Document).mapError Error.fault)
  return .printed (Json.write Json.indented document)

/-- The end that an error of a URL or an endpoint leads to. -/
def ofKnownError (e : Error) : Ending :=
  match e with
  | .malformedUrl _ | .unknownEndpoint _ => .refused ("❌ Error: " ++ e.message)
  | _ => .raised e

/-- The end that an error of a call leads to. -/
def ofCallError (e : Error) : Ending :=
  match e with
  | .refused response => .refused ("❌ " ++ e.message ++ ": " ++ response.body)
  | _ => if e.isTransport then .refused ("❌ Network error: " ++ e.message) else ofKnownError e

/-- Calls an endpoint. -/
def call (files : Files) (settings : Settings) (source config : String) (data : Option String) : Work Ending := do
  let engine ← orRaised (Engine.ofDocument (← load files source) settings)
  let data ← loadData files data
  let config ← load files config
  let (result, _, network) := (engine.request data config).run (.empty, ← get)
  set network
  match result with
  | .error e => return ofCallError e
  | .ok output => printedValue output

/-- Composes the URL of a call. -/
def composeUrl (files : Files) (settings : Settings) (source config : String) (data : Option String) :
    Work Ending := do
  let engine ← orRaised (Engine.ofDocument (← load files source) settings)
  let call ← orRaised (Engine.readCall (← load files config))
  let data ← loadData files data
  let request : Step Request := do
    let endpoint ← Step.lift id (engine.endpoint call.endpoint)
    Request.build settings endpoint call data
  match (request.run .empty).1 with
  | .error e => return ofKnownError e
  | .ok r => return .printed (r.method ++ " " ++ r.url)

/-- Evaluates a formula. -/
def eval (files : Files) (expression : String) (data : Option String) : Work Ending := do
  let data ← loadData files data
  printedValue (← orRaised ((Mapping.value expression data .empty).1.mapError .fault))

/-- Renders a template. -/
def render (files : Files) (template : String) (data : Option String) : Work Ending := do
  let data ← loadData files data
  return .printed (← orRaised ((Mapping.text template data .empty).1.mapError .fault))

/-- Runs a command. -/
def Command.run (files : Files) (settings : Settings) : Command → Work Ending
  | .call source config data => CommandLine.call files settings source config data
  | .composeUrl source config data => CommandLine.composeUrl files settings source config data
  | .eval expression data => CommandLine.eval files expression data
  | .render template data => CommandLine.render files template data

/-- The names of the levels of the log. -/
def logLevels : List String := ["CRITICAL", "FATAL", "ERROR", "WARN", "WARNING", "INFO", "DEBUG", "NOTSET"]

/-- Runs the program on its arguments. The level of the log is looked at before the arguments of the command. -/
def run (arguments : List String) (files : Files) (settings : Settings) (network : Network) : Ending × Network :=
  match readInvocation settings.logLevel false arguments with
  | .help => (.help, network)
  | .misuse => (.misuse, network)
  | .work invocation =>
    let level := Text.upper invocation.logLevel
    if !logLevels.contains level then (.raised (.unknownLogLevel level), network)
    else match readCommand invocation.name invocation.arguments with
      | .help => (.help, network)
      | .misuse => (.misuse, network)
      | .work command =>
        let (result, network) := (command.run files settings).run network
        (match result with
          | .ok ending | .error ending => ending, network)

end Courier.CommandLine
