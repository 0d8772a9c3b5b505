import Courier.Formula

/-!
Values of mappings, which are formulas or templates. A mapping that fails gives its diagnostic as a text, so that it
shows in the output and does not end the call.
-/

namespace Courier.Mapping

open Courier.Language

/-- The language that a value is written in. -/
inductive Format
  | formula
  | template
  deriving DecidableEq, Repr

/-- The word for a format. -/
def Format.word : Format → String
  | formula => "feel"
  | template => "mustache"

/-- A result, or the diagnostic in its place. -/
def orDiagnostic {α : Type} (ofText : String → α) (r : Except Failure α) : Except Fault α :=
  match r with
  | .ok a => .ok a
  | .error (.fault f) => .error f
  | .error (.formula s m) | .error (.template s m) => .ok (ofText (s ++ ": " ++ m))

/-- The text of a template, or its diagnostic. -/
def text (source : String) (data : Value) (memory : Memory) : Except Fault String × Memory :=
  let (result, memory) := Template.render source data memory
  (orDiagnostic id result, memory)

/-- The value of a formula, or its diagnostic. -/
def value (source : String) (data : Value) (memory : Memory) : Except Fault Value × Memory :=
  let (result, memory) := Formula.evaluate source data memory
  (orDiagnostic .newText result, memory)

/-- The value of a mapping in a format. -/
def evaluate (format : Format) (source : String) (data : Value) (memory : Memory) : Except Fault Value × Memory :=
  match format with
  | .formula => value source data memory
  | .template =>
    let (result, memory) := text source data memory
    (result.map .newText, memory)

/-- The format of a value without a given one: a template if it holds the braces of a tag. -/
def formatOf (format : Option Format) (source : String) : Format :=
  format.getD (if Formula.hasTag source then .template else .formula)

end Courier.Mapping
