import Courier.Template.Render

/-!
A renderer that keeps the templates it read last. It holds so many of them at most, the one that was used longest ago
is given up first, and templates that fail to be read are not kept.
-/

namespace Courier.Template

open Courier.Language

/-- A renderer: how many templates it keeps, and those it has, the one used last in front. -/
structure Renderer where
  capacity : Nat
  kept : List (String × Program)

namespace Renderer

/-- A renderer without templates. -/
def ofCapacity (capacity : Nat) : Renderer := ⟨capacity, []⟩

/-- Takes note that a template was used. -/
def keep (r : Renderer) (source : String) (p : Program) : Renderer :=
  { r with kept := ((source, p) :: r.kept.filter (·.1 != source)).take r.capacity }

/-- The program of a template, read only if they are not kept. -/
def compile (r : Renderer) (source : String) : Except Fault Program × Renderer :=
  match entryOf? source r.kept with
  | some p => (.ok p, r.keep source p)
  | none =>
    match Template.compile source with
    | .ok p => (.ok p, r.keep source p)
    | .error f => (.error f, r)

/-- The text of a template on the context that a value stands for. -/
def render (r : Renderer) (source : String) (data : Value) (memory : Memory) :
    Except Failure String × Memory × Renderer :=
  if isPlain source then (.ok source, memory, r)
  else
    match r.compile source with
    | (.error f, r) => (.error (.ofTemplate source f), memory, r)
    | (.ok p, r) =>
      let (result, memory) := runOn p data memory
      (result.mapError (.ofTemplate source), memory, r)

end Renderer

end Courier.Template
