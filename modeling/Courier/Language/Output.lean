import Courier.Language.Fault

/-!
What statements put out: pieces one after another, which are put together at the end of a template or of a body that is
collected. A piece that is no text is a fault then, and not before.
-/

namespace Courier.Language

/-- Pieces that were put out: their number, the text they make up, and the first of them that is no text, by its
position and its type. -/
structure Output where
  pieces : Nat
  text : String
  stray : Option (Nat × String)
  deriving DecidableEq, Repr

namespace Output

/-- Nothing was put out. -/
def none : Output := ⟨0, "", .none⟩

/-- A text as a piece. -/
def ofText (s : String) : Output := ⟨1, s, .none⟩

/-- A piece of another type. -/
def ofStray (type : String) : Output := ⟨1, "", some (0, type)⟩

/-- Two outputs in a row. -/
def append (a b : Output) : Output where
  pieces := a.pieces + b.pieces
  text := a.text ++ b.text
  stray := a.stray.orElse fun _ => b.stray.map fun (n, type) => (a.pieces + n, type)

/-- Outputs in a row. -/
def concat (outputs : Array Output) : Output := outputs.foldl append none

/-- The text of all pieces. -/
def joined (o : Output) : Except Fault String :=
  match o.stray with
  | .none => .ok o.text
  | some (n, type) =>
    .error (.wrongType ("sequence item " ++ toString n ++ ": expected str instance, " ++ type ++ " found"))

theorem append_none (o : Output) : o.append none = o := by
  cases o with
  | mk pieces text stray => cases stray <;> simp [append, none]

theorem none_append (o : Output) : none.append o = o := by
  cases o with
  | mk pieces text stray => cases stray <;> simp [append, none]

end Output

end Courier.Language
