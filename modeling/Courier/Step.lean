import Courier.Error

/-!
Steps of a call that evaluate texts. A step can end the call, and the programs in its texts can change containers of
the data, which later steps see.
-/

namespace Courier

open Courier.Language

/-- A step of a call. -/
abbrev Step := ExceptT Error (StateM Memory)

namespace Step

/-- A result that does not depend on the data. -/
def lift {ε α : Type} (cause : ε → Error) (r : Except ε α) : Step α := liftM (r.mapError cause)

/-- A step that evaluates a text. -/
def evaluating {α : Type} (run : Memory → Except Fault α × Memory) : Step α :=
  ExceptT.mk fun memory => let (r, memory) := run memory; (r.mapError .fault, memory)

/-- The text of a template, or its diagnostic. -/
def text (source : String) (data : Value) : Step String := evaluating (Mapping.text source data)

/-- A value with the present content of all its parts. -/
def settled (v : Value) : Step Value := do return (← get).settle v

end Step

namespace Language

/-- A place for an object, unless it has one. -/
def Identity.orPlaced (identity : Identity) (root : String) (path : List Nat) : Identity :=
  match identity with
  | placed root path => placed root path
  | _ => placed root path

namespace Value

mutual

/-- The value with places for the parts of it that have none of their own, so that what is done to them in one step is
seen in the next. -/
def place (root : String) (path : List Nat) : Value → Value
  | int identity i => int (identity.orPlaced root path) i
  | float identity x => float (identity.orPlaced root path) x
  | text identity s => text (identity.orPlaced root path) s
  | list identity items => list (identity.orPlaced root path) (placeAll root path 0 items)
  | map identity entries => map (identity.orPlaced root path) (placeEntries root path 0 entries)
  | tuple names items => tuple names (placeAll root path 0 items)
  | stream identity type cursor => stream (identity.orPlaced root path) type cursor
  | view identity kind owner => view (identity.orPlaced root path) kind (place root path owner)
  | v => v

/-- Values with places for their parts, numbered from a position on. -/
def placeAll (root : String) (path : List Nat) (position : Nat) : List Value → List Value
  | [] => []
  | v :: rest => place root (position :: path) v :: placeAll root path (position + 1) rest

/-- Entries with places for their parts, numbered from a position on. -/
def placeEntries (root : String) (path : List Nat) (position : Nat) : List (Value × Value) → List (Value × Value)
  | [] => []
  | (k, v) :: rest => (k, place root (position :: path) v) :: placeEntries root path (position + 1) rest

end

end Value

end Language

namespace Step

/-- The value of a rule, or its diagnostic. Its containers come to rest at a place. -/
def value (format : Mapping.Format) (source : String) (data : Value) (root : String) (path : List Nat) :
    Step Value := do
  let v ← evaluating (Mapping.evaluate format source data)
  return (← settled v).place root path

end Step

end Courier
