import Courier.Language.Access
import Courier.Language.Method.Text
import Courier.Number.Reading

/-!
What filters have in common: how their arguments are matched with parameters, and the attributes of items that they
look at. An attribute is a path of names and positions, written with dots.
-/

namespace Courier.Language

/-- How values are treated in a place of a program: whether undefined values may be asked for attributes, and whether
texts are made fit for HTML. -/
structure Manner where
  chained : Bool
  escaping : Bool

namespace Filter

/-- Numbers of an attribute path become positions, the other parts stay names. -/
def pathPart (part : String) : Except Fault Value :=
  if Method.all Text.isDigit part.toList then
    match Number.readInt part with
    | .ok i => .ok (.newInt i)
    | .error (.tooLong digits) => .error (.numeralTooLong digits)
    | .error .malformed => .error (.badNumeral (Text.quoted part))
  else .ok (.newText part)

/-- The parts of an attribute: a text is split at its dots. -/
def pathParts (path : Value) : Except Fault (List Value) :=
  match path with
  | .none => .ok []
  | .text _ s | .safeText s => (s.splitOn ".").mapM pathPart
  | v => .ok [v]

/-- The attribute of a value at the end of a path; a part that is not there is replaced by the default. -/
def follow (chained : Bool) (default : Value) : List Value → Value → Except Fault Value
  | [], v => .ok v
  | part :: rest, v => do
    let next ← v.item chained part
    let next := match next, default with
      | .undefined _ _, .none => next
      | .undefined _ _, d => d
      | _, _ => next
    follow chained default rest next

/-- Whether a value is text that is marked as fit for HTML. -/
def isMarked : Value → Bool
  | .safeText _ => true
  | _ => false

/-- A value as text that keeps its kind: its text, and how another text takes its place. -/
def softText (v : Value) : Except Fault (String × (String → Value)) :=
  match v with
  | .text _ s => .ok (s, .ownText)
  | .safeText s => .ok (s, .safeText)
  | _ => do return (← v.toText, .ownText)

/-- A text in small letters, any other value as it is. -/
def foldCase : Value → Value
  | .text _ s => .newText (Text.lower s)
  | .safeText s => .safeText (Text.lower s)
  | v => v

/-- A value as it is compared: its attribute, in small letters unless case counts. -/
def comparedBy (chained : Bool) (default : Value) (parts : List Value) (caseCounts : Bool) (v : Value) :
    Except Fault Value := do
  let found ← follow chained default parts v
  return if caseCounts then found else foldCase found

/-- Matches the arguments of a filter with its parameters, the value first. -/
def bound (name : String) (hidden : Nat) (parameters : List Parameter) (v : Value) (a : Arguments)
    (f : List Value → Except Fault Value) : Except Fault Value := do
  f (← (Signature.ofNamed name hidden parameters).accept ⟨v :: a.positional, a.named⟩)

/-- The same for parameters that are given by position alone. -/
def boundByPosition (name : String) (parameters : List Parameter) (v : Value) (a : Arguments)
    (f : List Value → Except Fault Value) : Except Fault Value := do
  f (← (Signature.ofPositional name 0 parameters).accept ⟨v :: a.positional, a.named⟩)

/-- A filter that takes nothing but its value, of a fixed name in messages. -/
def exactlyOne (name : String) (v : Value) (a : Arguments) (f : Value → Except Fault Value) : Except Fault Value :=
  if !a.named.isEmpty then .error (.wrongType (name ++ "() takes no keyword arguments"))
  else if !a.positional.isEmpty then .error (.wrongType (name ++ "() takes exactly one argument (" ++
    toString (a.positional.length + 1) ++ " given)"))
  else f v

end Filter

end Courier.Language
