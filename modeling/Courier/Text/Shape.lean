/-!
Shapes of texts: characters of classes, one behind the other, in one of two ways, or repeated. A shape takes the
beginning of a text in all ways that there are, and a text has the shape if nothing is left in one of them.
-/

namespace Courier.Text

/-- What texts look like. -/
inductive Shape
  | one (p : Char → Bool)
  | empty
  | both (first second : Shape)
  | either (first second : Shape)
  /-- At least so many parts, and at most so many more. Without a limit there can be as many as there are characters. -/
  | repeated (least : Nat) (more : Option Nat) (part : Shape)

namespace Shape

/-- What is left behind some steps, at least `least` of them and at most `more` others. -/
def repeats (step : List Char → List (List Char)) : Nat → Nat → List (List Char) → List (List Char)
  | 0, 0, held => held
  | 0, more + 1, held =>
    if held.isEmpty then [] else (held ++ repeats step 0 more (held.flatMap step).eraseDups).eraseDups
  | least + 1, more, held =>
    if held.isEmpty then [] else repeats step least more (held.flatMap step).eraseDups

/-- What is left of a text behind a beginning of that shape. -/
def rests : Shape → List Char → List (List Char)
  | one p, cs =>
    match cs with
    | c :: rest => if p c then [rest] else []
    | [] => []
  | empty, cs => [cs]
  | both a b, cs => ((a.rests cs).flatMap b.rests).eraseDups
  | either a b, cs => (a.rests cs ++ b.rests cs).eraseDups
  | repeated least more a, cs => repeats a.rests least (more.getD cs.length) [cs]

/-- Whether a text has a shape. -/
def fits (shape : Shape) (s : String) : Bool := (shape.rests s.toList).contains []

/-! ### Making shapes -/

/-- Shapes one behind the other. -/
def inTurn : List Shape → Shape
  | [] => empty
  | [shape] => shape
  | shape :: rest => both shape (inTurn rest)

/-- One of some shapes, the first of which is given. -/
def oneOf (first : Shape) : List Shape → Shape
  | [] => first
  | shape :: rest => either first (oneOf shape rest)

/-- A shape or nothing. -/
def possibly (shape : Shape) : Shape := repeated 0 (some 1) shape

/-- One character of a class, or more. -/
def run (p : Char → Bool) : Shape := repeated 1 none (one p)

end Shape

end Courier.Text
