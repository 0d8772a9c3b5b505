import Courier.Language.Member
import Courier.Language.Method.Map
import Courier.Language.Placeholder
import Courier.Language.Placeholder.Layout

/-!
Texts with their placeholders filled. The values are found among the arguments of a call, one after the other. In a text
that is marked as fit for HTML they are escaped, unless they are marked themselves.
-/

namespace Courier.Language

namespace Placeholder

/-- The forms that a placeholder can ask for: a value as text, quoted, and quoted in ASCII alone. -/
def formed (form : Option Char) (v : Value) : Except Fault Value :=
  match form with
  | none => .ok v
  | some 's' => do return .newText (← v.toText)
  | some 'r' => do return .newText (← v.shown)
  | some 'a' => do return .newText (Text.asciiEscaped (← v.shown))
  | some c => .error (.wrongValue ("Unknown conversion specifier " ++ String.singleton c))

/-- The text of a value in a layout, made fit for HTML if values are escaped. What tells its own form for HTML has no
layouts. -/
def laidOut (escapes : Bool) (layout : String) (v : Value) : Except Fault String :=
  if !escapes then Layout.write layout v
  else match v with
    | .safeText s =>
      if layout.isEmpty then .ok s else .error (.wrongValue "Unsupported format specification for Markup.")
    | .undefined _ true =>
      if layout.isEmpty then .ok ""
      else .error (.wrongValue ("Format specifier " ++ layout ++
        " given, but <class 'jinja2.runtime.ChainableUndefined'> does not define __html_format__. A class that " ++
        "defines __html__ must define __html_format__ to work with format specifiers."))
    | _ => do return Courier.Text.htmlEscaped (← Layout.write layout v)

/-- Where the values of placeholders are found: the arguments by number, and what gives those by name. -/
structure Source where
  numbered : List Value
  named : Value
  escapes : Bool

end Placeholder

namespace Eval

open Placeholder

/-- The argument of a name. -/
def namedArgument (source : Value) (name : String) : Eval Value := do
  match ← present source with
  | .map _ entries =>
    match Value.lookup (.newText name) entries with
    | some v => return v
    | none => throw (.missingKey (Text.quoted name))
  | .builtin .template =>
    match ← blockNamed? name with
    | some block => return block
    | none => throw (.missingKey (Text.quoted name))
  | .undefined message true => return .undefined message true
  | .undefined message false => throw (.undefined message)
  | .text _ _ | .safeText _ => throw (.wrongType "string indices must be integers, not 'str'")
  | .list _ _ | .tuple _ _ | .range _ _ _ =>
    throw (.wrongType (source.typeName ++ " indices must be integers or slices, not str"))
  | v => throw (.notSubscriptable v.typeName)

/-- The value at the end of a path. -/
def valueOfPath (source : Source) (path : List Char) : Eval Value := do
  let (name, tail) := argumentOf path
  let first ← match ← lift (number? name) with
    | some n =>
      match source.numbered[n]? with
      | some v => pure v
      | none => throw (.badIndex "tuple index out of range")
    | none => namedArgument source.named (String.ofList name)
  let (steps, fault) := steps tail
  let v ← steps.foldlM (fun v step => match step with
    | .attribute name => memberOf v name
    | .item key => itemOf v key) first
  match fault with
  | none => return v
  | some f => throw f

/-- A text with its placeholders filled, and how arguments are counted behind it. Layouts have placeholders up to a
number of levels. -/
def filledFrom (source : Source) : Nat → List Char → Count → Eval (String × Count)
  | 0, _, _ => throw (.wrongValue "Max string recursion exceeded")
  | levels + 1, cs, count => do
    let (pieces, fault) := pieces cs
    let (parts, count) ← pieces.foldlM (fun (parts, count) piece => do
      match piece with
      | .letter c => return (parts.push (String.singleton c), count)
      | .place p => do
        let (path, count) ← lift (count.next p.path)
        let v ← lift (formed p.form (← shownForm (← valueOfPath source path)))
        let (layout, count) ← filledFrom source levels p.layout count
        return (parts.push (← lift (laidOut source.escapes layout v)), count)) ((#[] : Array String), count)
    match fault with
    | none => return (Text.join "" parts.toList, count)
    | some f => throw f

/-- The levels of placeholders inside of layouts, with the text itself. -/
def layoutLevels : Nat := 3

/-- The arguments of a call as the source of values. Another method takes a map in their place. -/
def sourceOf (escapes takesMap : Bool) (a : Arguments) : Except Fault Source := do
  if takesMap then
    if !a.named.isEmpty then throw (Fault.wrongType "format_map() takes no keyword arguments")
    match a.positional with
    | [v] => return ⟨[], v, escapes⟩
    | vs => throw (Fault.wrongType
        ("format_map() takes exactly one argument (" ++ toString vs.length ++ " given)"))
  else return ⟨a.positional, .newMap (Method.namedEntries a.named), escapes⟩

/-- The text of a value with its placeholders filled, marked as the text is. -/
def callFilling (owner : Value) (takesMap : Bool) (a : Arguments) : Eval Value := do
  let isMarked := Filter.isMarked owner
  let source ← lift (sourceOf isMarked takesMap a)
  let (s, _) ← filledFrom source layoutLevels (owner.text?.getD "").toList (.inTurn 0)
  return if isMarked then .safeText s else .newText s

end Eval

end Courier.Language
