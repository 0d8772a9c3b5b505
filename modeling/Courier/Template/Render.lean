import Courier.Language.Fault
import Courier.Language.Grammar.Statements
import Courier.Language.Listing
import Courier.Template.Tag

/-!
The text of a template against a data context. A template without braces is its own text. The tags of any other are
expanded, then it is read, made ready and run; whatever goes wrong is a failure of the template.

A failure of a template or a formula names the text that failed, and its diagnostic is what takes the place of the
result where a failure must not end the call. A few faults are no failures of a text and go on as they are.
-/

namespace Courier

/-! ### Failures -/

/-- How a template or a formula can fail. -/
inductive Failure
  | formula (source message : String)
  | template (source message : String)
  /-- A fault that is not absorbed. -/
  | fault (cause : Language.Fault)
  deriving DecidableEq, Repr

namespace Failure

/-- The failure of a template with a fault. -/
def ofTemplate (source : String) (f : Language.Fault) : Failure :=
  if f.isAbsorbed then template source f.message else fault f

/-- The failure of a formula with a fault. -/
def ofFormula (source : String) (f : Language.Fault) : Failure :=
  if f.isAbsorbed then formula source f.message else fault f

/-- The wording of a failure. -/
def message : Failure → String
  | formula _ m | template _ m => m
  | fault f => f.message

/-- The text that failed, with the wording of its failure. -/
def diagnostic? : Failure → Option String
  | formula s m | template s m => some (s ++ ": " ++ m)
  | fault _ => none

end Failure

/-! ### Texts -/

open Courier.Language

/-- The data context of a text: named values, each name once. -/
abbrev Context := List (String × Value)

namespace Context

/-- What every text can name, unless the data has an entry of that name. -/
def builtin? : String → Option Builtin
  | "range" => some .range
  | "dict" => some .dict
  | "lipsum" => some .lipsum
  | "cycler" => some .cycler
  | "joiner" => some .joiner
  | "namespace" => some .namespaceOf
  | _ => none

/-- The value of a name in a formula. -/
def find (context : Context) (name : String) : Option Value :=
  (entryOf? name context).orElse fun _ => (builtin? name).map .builtin

/-- The value of a name in a template, which can also look up key paths. -/
def findInTemplate (context : Context) (name : String) : Option Value :=
  (entryOf? name context).orElse fun _ =>
    if name == Template.lookupName then some (.builtin .pathLookup) else (builtin? name).map .builtin

/-- A text or number of a context with a place of its own, unless it has one. -/
def rooted (name : String) : Value → Value
  | .int .loose i => .int (.placed name []) i
  | .float .loose x => .float (.placed name []) x
  | .text .loose s => .text (.placed name []) s
  | v => v

/-- The context that a settled value stands for: a map, or pairs of names and values. -/
def ofValue (v : Value) : Except Fault Context := do
  let entries := Value.putKeys (← Method.entriesOf v) []
  entries.mapM fun (k, w) => match k.text? with
    | some n => .ok (n, rooted n w)
    | none => .error .keywordsNotText

end Context

namespace Template

/-- The program of a template, ready to run. -/
def compile (source : String) : Except Fault Program := do
  let p ← (← Grammar.parseTemplate (expand source)).ready
  p.checkListing
  return p

/-- Runs the program of a template on the context that a value stands for. -/
def runOn (p : Program) (data : Value) (memory : Memory) : Except Fault String × Memory :=
  match Context.ofValue (memory.settle data) with
  | .error f => (.error f, memory)
  | .ok context => p.run context.findInTemplate memory

/-- Whether a template has to be read at all. -/
def isPlain (source : String) : Bool := !source.toList.contains '\x7b'

/-- The text of a template on the context that a value stands for. -/
def render (source : String) (data : Value) (memory : Memory) : Except Failure String × Memory :=
  if isPlain source then (.ok source, memory)
  else
    match compile source with
    | .error f => (.error (.ofTemplate source f), memory)
    | .ok p =>
      let (result, memory) := runOn p data memory
      (result.mapError (.ofTemplate source), memory)

end Template

end Courier
