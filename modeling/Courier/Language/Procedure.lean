import Courier.Language.Scope
import Courier.Language.Signature

/-!
Bodies that are put aside to be run when they are called: definitions with parameters, the turns of a loop that can be
started anew from inside, and blocks. A body remembers where in the program it stands, because it sees the variables
around it.
-/

namespace Courier.Language

/-- Whether texts are made fit for HTML in a place of a program, as far as that is known before it runs. -/
structure Escaping where
  /-- Whether constants are, and all other values unless that is open. -/
  isOn : Bool
  /-- Whether the program decides about other values when it gets there. -/
  isOpen : Bool
  deriving DecidableEq, Repr

/-- Texts are left as they are. -/
def Escaping.off : Escaping := ⟨false, false⟩

/-- A place in a running program. -/
structure Origin where
  /-- The activation that the place belongs to. -/
  activation : Nat
  /-- The number of the scopes around it. -/
  depth : Nat
  /-- The names that those scopes know. -/
  known : List String
  /-- The variables that were handed to a block around it. -/
  handed : List (String × Value)
  escaping : Escaping

/-- A place outside of all scopes. -/
def Origin.outermost (handed : List (String × Value)) : Origin := ⟨0, 0, [], handed, .off⟩

/-- A body with parameters. The defaults belong to the last of them. -/
structure Definition where
  /-- One that is written beside a call has no name. -/
  name : Option String
  parameters : List String
  defaults : List Expression
  body : List Statement
  place : Origin

/-- A loop that can be started anew from inside. -/
structure Recursion where
  target : Target
  test : Option Expression
  body : List Statement
  otherwise : List Statement
  /-- How many loops of this kind are around it when it starts. -/
  depth : Nat
  place : Origin

/-- A body that was put aside. -/
inductive Procedure
  | definition (d : Definition)
  | recursion (r : Recursion)
  | block (name : String) (body : List Statement) (place : Origin)

/-- Where a body stands. -/
def Procedure.place : Procedure → Origin
  | definition d => d.place
  | recursion r => r.place
  | block _ _ place => place

/-! ### Names that a body may read without declaring them -/

/-- The name of the body that is written beside a call. -/
def callerName : String := "caller"

/-- The name of the map of the arguments by name that no parameter takes. -/
def restNamedName : String := "kwargs"

/-- The name of the tuple of the arguments by position that no parameter takes. -/
def restName : String := "varargs"

/-- A call with another argument by name, for what is written beside it. -/
def Expression.withCaller (caller : Value) : Expression → Expression
  | .call callee arguments =>
    let (plain, spread) := arguments.partition fun | .spreadNamed _ => false | _ => true
    .call callee (plain ++ .named callerName (.constant caller) :: spread)
  | e => e

/-- The names among some that a body reads from elsewhere although they are none of its parameters. -/
def undeclaredNames (parameters : List String) (body : List Statement) : List String :=
  [callerName, restNamedName, restName].filter fun n =>
    isReadFirst n (mentionsOfAll body) && !parameters.contains n

namespace Definition

/-- Whether the body reads what is written beside the call. -/
def readsCaller (d : Definition) : Bool := isReadFirst callerName (mentionsOfAll d.body)

/-- The names that the body reads beside its parameters. -/
def undeclared (d : Definition) : List String := undeclaredNames d.parameters d.body

/-- The default of a parameter by its position. -/
def default? (d : Definition) (position : Nat) : Option Expression :=
  if d.parameters.length ≤ position + d.defaults.length then
    d.defaults[position + d.defaults.length - d.parameters.length]?
  else none

/-- The name of a body in messages. -/
def shownName (d : Definition) : String := d.name.elim "None" Text.quoted

/-- The fault of an argument that nothing takes. -/
def unexpected (d : Definition) (name : String) : Fault :=
  .wrongType ("macro " ++ d.shownName ++ if name == callerName then
      " was invoked with two values for the special caller argument. This is most likely a bug."
    else " takes no keyword argument " ++ Text.quoted name)

/-- The value of the name for what is written beside a call. -/
def callerValue (chained : Bool) (named : List (String × Value)) : Value :=
  match (entryOf? callerName named).getD .none with
  | .none => .undefined "No caller defined" chained
  | v => v

/-- Matches arguments with the parameters, by position and then by name, and with the other names that the body reads.
A parameter may be left without an argument. -/
def accept (chained : Bool) (d : Definition) (a : Arguments) : Except Fault (List (String × Option Value)) := do
  let byPosition := a.positional.take d.parameters.length
  let others := d.parameters.drop byPosition.length
  let given := (d.parameters.zip byPosition).map fun (n, v) => (n, some v)
  let found := others.map fun n => (n, entryOf? n a.named)
  let named := a.named.filter fun (n, _) => !others.contains n
  let declaresCaller := (if others.isEmpty then d.parameters else others).contains callerName
  let takesCaller := d.readsCaller && !declaresCaller
  if takesCaller && d.parameters.contains callerName then
    throw (Fault.wrongType ("root.<locals>.macro() takes " ++ toString d.parameters.length ++
      " positional arguments but " ++ toString (d.parameters.length + 1) ++ " were given"))
  let caller := if takesCaller then [(callerName, some (callerValue chained named))] else []
  let named := if takesCaller then named.filter (·.1 != callerName) else named
  let extras := a.positional.drop d.parameters.length
  let restNamed ←
    if d.undeclared.contains restNamedName then
      pure [(restNamedName, some (.newMap (named.map fun (n, v) => (.newText n, v))))]
    else match named.find? (·.1 == callerName), named with
      | some (n, _), _ | none, (n, _) :: _ => throw (d.unexpected n)
      | none, [] => pure []
  let rest ←
    if d.undeclared.contains restName then pure [(restName, some (.newTuple extras))]
    else if extras.isEmpty then pure []
    else throw (Fault.wrongType ("macro " ++ d.shownName ++ " takes not more than " ++ toString d.parameters.length ++
      " argument(s)"))
  return given ++ found ++ caller ++ restNamed ++ rest

/-- The value of a parameter without argument and default. -/
def notProvided (chained : Bool) (parameter : String) : Value :=
  .undefined ("parameter " ++ Text.quoted parameter ++ " was not provided") chained

/-- The value that stands for the body. -/
def toValue (d : Definition) (identity : Identity) : Value :=
  .record identity .definition
    [("name", d.name.elim .none .newText), ("arguments", .newTuple (d.parameters.map .newText)),
      ("catch_kwargs", .bool (d.undeclared.contains restNamedName)),
      ("catch_varargs", .bool (d.undeclared.contains restName)), ("caller", .bool d.readsCaller),
      ("explicit_caller", .bool (d.parameters.contains callerName))]

end Definition

end Courier.Language
