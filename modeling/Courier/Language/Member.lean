import Courier.Language.Iteration

/-!
The parts of values while a program runs. Containers have their present content, a loop knows its turn, and the template
that runs has its blocks.
-/

namespace Courier.Language

namespace Eval

/-- The undefined value of the block that a block takes the place of. -/
def parentBlock (chained : Bool) (name : String) : Value :=
  .undefined ("there is no parent block called " ++ Text.quoted name ++ ".") chained

/-- The block of a name as a value, if the template that runs has one. -/
def blockNamed? (name : String) : Eval (Option Value) := do
  let setting ← read
  match entryOf? name setting.blocks with
  | none => return none
  | some body =>
    let identity ← newIdentity
    register identity (.block name body (.outermost setting.handed))
    return some (.record identity .block
      [("name", .newText name), ("super", parentBlock setting.manner.chained name)])

/-- An attribute of a value. -/
def memberOf (v : Value) (name : String) : Eval Value := do
  match ← present v with
  | .record identity .loop fields =>
    match ← loopAttribute? identity name with
    | some found => return found
    | none => lift ((Value.record identity .loop fields).attributeOf (← chained) name)
  | .builtin .template =>
    if (Value.builtin .template).isClosed name then lift ((Value.builtin .template).attributeOf (← chained) name)
    else return (← blockNamed? name).getD (Value.noAttribute (← chained) (.builtin .template) name)
  | w => lift (w.attributeOf (← chained) name)

/-- An item of a value. -/
def itemOf (v key : Value) : Eval Value := do
  match ← present v, key.text? with
  | .record _ .loop _, some name => memberOf v name
  | .builtin .template, some name =>
    match ← blockNamed? name with
    | some block => return block
    | none => lift ((Value.builtin .template).item (← chained) key)
  | w, _ => lift (w.item (← chained) key)

/-- A value as text is made of it. -/
def shownForm (v : Value) : Eval Value := do settled (← shownLoop v)

end Eval

end Courier.Language
