import Courier.Language.Method.Text
import Courier.Language.Sorting

/-!
Values laid out for readers. What fits on a line of limited width stands on one line in its quoted form, with the
entries of maps sorted by their keys; else the items of a container stand on lines of their own, and a long text is
written as pieces of it below each other.
-/

namespace Courier.Language

/-- A laid out value: its form on one line, and the one on several lines for a column that it starts in, a number of
characters that follow its end, and whether it stands alone. -/
structure Pretty where
  line : String
  broken : Nat → Nat → Bool → String

namespace Pretty

/-- The width of a line. -/
def width : Nat := 80

/-- A form that is never broken. -/
def ofLine (s : String) : Pretty := ⟨s, fun _ _ _ => s⟩

/-- The form that there is room for in a column with characters behind it. -/
def fitted (p : Pretty) (column behind : Nat) (alone : Bool) : String :=
  if width < p.line.length + column + behind then p.broken column behind alone else p.line

/-- Blanks up to a column. -/
def blanks (column : Nat) : String := String.ofList (List.replicate column ' ')

/-- Items on lines of their own in a column, each with its heading; `behind` characters follow the last one. -/
def itemLines (column behind : Nat) : List (String × Pretty) → List String
  | [] => []
  | [(heading, p)] => [heading ++ p.fitted (column + heading.length) behind false]
  | (heading, p) :: rest =>
    (heading ++ p.fitted (column + heading.length) 1 false) :: itemLines column behind rest

/-- A container of items with headings between two brackets. -/
def container (opening closing : String) (items : List (String × Pretty)) : Pretty where
  line := opening ++ Text.join ", " (items.map fun (heading, p) => heading ++ p.line) ++ closing
  broken column behind _ :=
    opening ++ Text.join (",\n" ++ blanks (column + 1)) (itemLines (column + 1) (behind + closing.length) items) ++
      closing

/-! ### Long texts -/

/-- Words with the blanks behind them. Blanks in front of the first word are a part by themselves. -/
def partsFrom : List Char → List Char → List (List Char)
  | piece, [] => if piece.isEmpty then [] else [piece.reverse]
  | piece, c :: rest =>
    if piece.head?.any Text.isBlank && !Text.isBlank c then piece.reverse :: partsFrom [c] rest
    else partsFrom (c :: piece) rest

/-- The quoted form of characters. -/
def quotedPiece (cs : List Char) : String := Text.quoted (String.ofList cs)

/-- Pieces of a line that are made of as many parts as there is room for. `behind` characters follow the last one. -/
def piecesOf (room : Int) (behind : Nat) : List Char → List (List Char) → List String
  | piece, [] => if piece.isEmpty then [] else [quotedPiece piece]
  | piece, part :: rest =>
    let room' := if rest.isEmpty then room - behind else room
    if room' < (quotedPiece (piece ++ part)).length then
      let others := piecesOf room behind part rest
      if piece.isEmpty then others else quotedPiece piece :: others
    else piecesOf room behind (piece ++ part) rest

/-- The pieces of the lines of a text. -/
def linePieces (room : Int) (behind : Nat) : List (List Char) → List String
  | [] => []
  | line :: rest =>
    let behindLine := if rest.isEmpty then behind else 0
    let whole := quotedPiece line
    (if whole.length ≤ room - behindLine then [whole] else piecesOf room behindLine [] (partsFrom [] line)) ++
      linePieces room behind rest

/-- A text: in pieces below each other if it is long, and in parentheses if it stands alone. -/
def ofText (s : String) : Pretty where
  line := Text.quoted s
  broken column behind alone :=
    let margin := if alone then 1 else 0
    match linePieces ((width : Int) - (column + margin : Nat)) (behind + margin) (Method.lines true [] s.toList) with
    | [] | [_] => Text.quoted s
    | pieces =>
      let body := Text.join ("\n" ++ blanks (column + margin)) pieces
      if alone then "(" ++ body ++ ")" else body

end Pretty

namespace Value

/-- The name of a value's type as it is compared. -/
def comparedType (v : Value) : String :=
  "<class '" ++ (match v with
    | safeText _ => "markupsafe.Markup"
    | w => w.typeName) ++ "'>"

/-- The order of keys. Those that have none are ordered by their types. -/
def keyBefore (a b : Value) : Except Fault Bool :=
  match ordered .less a b with
  | .error f => if f.kind == .type then .ok (a.comparedType < b.comparedType) else .error f
  | r => r

mutual

/-- A settled value, laid out. -/
def pretty : Value → Except Fault Pretty
  | text _ s => .ok (.ofText s)
  | list _ items => do return .container "[" "]" (← prettyItems items)
  | tuple [] [v] => do return .container "(" ",)" [("", ← pretty v)]
  | tuple [] items => do return .container "(" ")" (← prettyItems items)
  | map _ entries => do
    let entries ← sortBy (fun a b => keyBefore a.1 b.1) (← prettyEntries entries)
    return .container "\x7b" "\x7d" (entries.map (·.2))
  | v => do return .ofLine (← v.shown)

def prettyItems : List Value → Except Fault (List (String × Pretty))
  | [] => .ok []
  | v :: rest => do return ("", ← pretty v) :: (← prettyItems rest)

def prettyEntries : List (Value × Value) → Except Fault (List (Value × String × Pretty))
  | [] => .ok []
  | (k, v) :: rest => do return (k, (← pretty k).line ++ ": ", ← pretty v) :: (← prettyEntries rest)

end

/-- The text of a laid out value. -/
def prettyText (v : Value) : Except Fault String := do return (← v.pretty).fitted 0 0 true

end Value

end Courier.Language
