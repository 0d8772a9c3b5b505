import Courier.Language.Pattern

/-!
Texts with placeholders in braces. A placeholder tells by a path where its value is found: an argument by its number or
its name, and parts of it behind points or in brackets. Behind an exclamation mark it may tell the form that the value
takes, and behind a colon the layout, which may have placeholders of its own. Braces that are doubled stand for
themselves.

What is in front of a mistake is worth its values all the same, so a text is read into the pieces that come before the
first mistake, beside the fault that it is.
-/

namespace Courier.Language

/-- A place for a value. -/
structure Placeholder where
  path : List Char
  form : Option Char
  layout : List Char
  deriving DecidableEq, Repr

namespace Placeholder

/-- A part of a text with placeholders. -/
inductive Piece
  | letter (c : Char)
  | place (p : Placeholder)
  deriving DecidableEq, Repr

/-- A step from a value to a part of it. -/
inductive Step
  | attribute (name : String)
  | item (key : Value)

/-- The path of a placeholder, and the text from the mark behind it on. In brackets no mark ends it. -/
def readPath (inBrackets : Bool) : List Char → Except Fault (List Char × List Char)
  | [] => .error (.wrongValue "expected '\x7d' before end of string")
  | c :: rest =>
    if !inBrackets && c == '{' then .error (.wrongValue "unexpected '\x7b' in field name")
    else if !inBrackets && (c == '}' || c == ':' || c == '!') then .ok ([], c :: rest)
    else do
      let (path, rest) ← readPath (if inBrackets then c != ']' else c == '[') rest
      return (c :: path, rest)

/-- The layout of a placeholder up to the brace that closes it, for a number of open ones inside, and the text behind
that brace. -/
def readLayout : Nat → List Char → Except Fault (List Char × List Char)
  | _, [] => .error (.wrongValue "unmatched '\x7b' in format spec")
  | inside, c :: rest =>
    if c == '}' && inside == 0 then .ok ([], rest)
    else do
      let inside := if c == '{' then inside + 1 else if c == '}' then inside - 1 else inside
      let (layout, rest) ← readLayout inside rest
      return (c :: layout, rest)

/-- The placeholder that a text starts with, behind its opening brace, and the text behind it. -/
def read (cs : List Char) : Except Fault (Placeholder × List Char) := do
  let (path, rest) ← readPath false cs
  match rest with
  | '!' :: [] => throw (Fault.wrongValue "end of string while looking for conversion specifier")
  | '!' :: c :: '}' :: rest => return (⟨path, some c, []⟩, rest)
  | '!' :: c :: rest =>
    if !rest.isEmpty && rest.head? != some ':' then
      throw (Fault.wrongValue "expected ':' after conversion specifier")
    let (layout, rest) ← readLayout 0 rest.tail
    return (⟨path, some c, layout⟩, rest)
  | ':' :: rest =>
    let (layout, rest) ← readLayout 0 rest
    return (⟨path, none, layout⟩, rest)
  | _ => return (⟨path, none, []⟩, rest.tail)

/-- The pieces of a text in front of the first mistake, and the fault that it is. The fuel counts characters. -/
def piecesFrom : Nat → List Char → List Piece × Option Fault
  | 0, _ => ([], none)
  | fuel + 1, cs =>
    let before (piece : Piece) (rest : List Char) : List Piece × Option Fault :=
      let (pieces, fault) := piecesFrom fuel rest
      (piece :: pieces, fault)
    match cs with
    | [] => ([], none)
    | '{' :: '{' :: rest => before (.letter '{') rest
    | '}' :: '}' :: rest => before (.letter '}') rest
    | '{' :: [] => ([], some (.wrongValue "Single '\x7b' encountered in format string"))
    | '}' :: _ => ([], some (.wrongValue "Single '\x7d' encountered in format string"))
    | '{' :: rest =>
      match read rest with
      | .ok (p, rest) => before (.place p) rest
      | .error f => ([], some f)
    | c :: rest => before (.letter c) rest

/-- The pieces of a text in front of the first mistake, and the fault that it is. -/
def pieces (cs : List Char) : List Piece × Option Fault := piecesFrom (cs.length + 1) cs

/-! ### Paths -/

/-- The number that a name or a key of decimal digits stands for. -/
def number? (name : List Char) : Except Fault (Option Nat) :=
  let digits := name.filterMap Courier.Text.decimalValue?
  if name.isEmpty || digits.length < name.length then .ok none
  else
    let n := Number.natOfDigits digits
    if indexLimit < (n : Int) then .error (.wrongValue "Too many decimal digits in format string") else .ok (some n)

/-- Whether a character begins a step. -/
def beginsStep (c : Char) : Bool := c == '.' || c == '['

/-- The argument that a path starts with, and the text of its steps. -/
def argumentOf (path : List Char) : List Char × List Char :=
  (path.takeWhile fun c => !beginsStep c, path.dropWhile fun c => !beginsStep c)

/-- The step that a text starts with, and what is behind it. -/
def readStep (cs : List Char) : Except Fault (Step × List Char) := do
  let nameless : Fault := .wrongValue "Empty attribute in format string"
  match cs with
  | '.' :: rest =>
    let (name, rest) := argumentOf rest
    if name.isEmpty then throw nameless
    return (.attribute (String.ofList name), rest)
  | '[' :: rest =>
    let key := rest.takeWhile (· != ']')
    if key.length == rest.length then throw (Fault.wrongValue "Missing ']' in format string")
    let n ← number? key
    if key.isEmpty then throw nameless
    return (.item (n.elim (.newText (String.ofList key)) fun n => .newInt (n : Int)), rest.drop (key.length + 1))
  | _ => throw (Fault.wrongValue "Only '.' or '[' may follow ']' in format field specifier")

/-- The steps of a path in front of the first mistake, and the fault that it is. The fuel counts characters. -/
def stepsFrom : Nat → List Char → List Step × Option Fault
  | 0, _ => ([], none)
  | fuel + 1, cs =>
    if cs.isEmpty then ([], none)
    else match readStep cs with
      | .error f => ([], some f)
      | .ok (step, rest) =>
        let (steps, fault) := stepsFrom fuel rest
        (step :: steps, fault)

/-- The steps of a path in front of the first mistake, and the fault that it is. -/
def steps (cs : List Char) : List Step × Option Fault := stepsFrom (cs.length + 1) cs

/-! ### Numbers of arguments -/

/-- How the arguments without names are counted: they are taken in turn or told by number, but not both. -/
inductive Count
  | inTurn (next : Nat)
  | told
  deriving DecidableEq, Repr

/-- The fault of numbers beside arguments that are taken in turn. -/
def mixedCount : Fault :=
  .wrongValue "cannot switch from manual field specification to automatic field numbering"

/-- The path of a placeholder with the number of its argument, and how arguments are counted from there on. -/
def Count.next (count : Count) (path : List Char) : Except Fault (List Char × Count) :=
  match count with
  | .inTurn n =>
    if path.isEmpty then .ok ((Nat.repr n).toList, .inTurn (n + 1))
    else if path.all Courier.Text.isDigit then if n == 0 then .ok (path, .told) else .error mixedCount
    else .ok (path, count)
  | .told => if path.isEmpty then .error mixedCount else .ok (path, count)

end Placeholder

end Courier.Language
