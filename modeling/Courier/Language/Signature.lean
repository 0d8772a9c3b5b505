import Courier.Language.Value
import Courier.Text.Quoted
import Courier.Text.Search

/-!
How the arguments of a call are matched with the parameters of what is called: by position, then by name, then by
default. Messages count the hidden parameters that a filter receives before its first written one.
-/

namespace Courier.Language

/-- The arguments of a call. -/
structure Arguments where
  positional : List Value
  named : List (String × Value)
  deriving Inhabited

/-- No arguments. -/
def Arguments.empty : Arguments := ⟨[], []⟩

/-- The argument of a parameter by its position. -/
def argument (values : List Value) (position : Nat) : Value := values[position]?.getD .none

/-- A parameter: its name, and its default unless it is required. -/
structure Parameter where
  name : String
  default : Option Value

/-- What can be called with arguments: its name in messages, the number of hidden parameters, the others, and whether
these may be given by name. -/
structure Signature where
  name : String
  hidden : Nat
  parameters : List Parameter
  takesNames : Bool

/-- A required parameter. -/
def required (name : String) : Parameter := ⟨name, none⟩

/-- A parameter with a default. -/
def optional (name : String) (default : Value) : Parameter := ⟨name, some default⟩

namespace Signature

/-- A signature whose parameters may be given by name. -/
def ofNamed (name : String) (hidden : Nat) (parameters : List Parameter) : Signature :=
  ⟨name, hidden, parameters, true⟩

/-- A signature whose parameters are given by position alone. -/
def ofPositional (name : String) (hidden : Nat) (parameters : List Parameter) : Signature :=
  ⟨name, hidden, parameters, false⟩

/-- A list of names as a message spells it. -/
def enumeration : List String → String
  | [] => ""
  | [a] => a
  | [a, b] => a ++ " and " ++ b
  | a :: b :: c :: rest => a ++ ", " ++ Text.join ", " ((b :: c :: rest).dropLast) ++ ", and " ++
      ((b :: c :: rest).getLast?.getD "")

/-- The fault of too many arguments by position. -/
def tooMany (s : Signature) (given : Nat) : Fault :=
  let total := s.hidden + s.parameters.length
  let least := s.hidden + (s.parameters.filter (·.default.isNone)).length
  let expected :=
    if least == total then toString total ++ " positional argument" ++ (if total == 1 then "" else "s")
    else "from " ++ toString least ++ " to " ++ toString total ++ " positional arguments"
  let count := s.hidden + given
  .wrongType (s.name ++ "() takes " ++ expected ++ " but " ++ toString count ++
    (if count == 1 then " was given" else " were given"))

/-- The fault of required parameters without an argument. -/
def missing (s : Signature) (names : List String) : Fault :=
  .wrongType (s.name ++ "() missing " ++ toString names.length ++ " required positional argument" ++
    (if names.length == 1 then "" else "s") ++ ": " ++ enumeration (names.map Text.quoted))

/-- The fault of an argument by name that no parameter takes. -/
def unexpected (s : Signature) (name : String) (named : List (String × Value)) : Fault :=
  let misplaced := s.parameters.filter fun p => named.any (·.1 == p.name)
  .wrongType (s.name ++ (if s.takesNames || misplaced.isEmpty
    then "() got an unexpected keyword argument " ++ Text.quoted name
    else "() got some positional-only arguments passed as keyword arguments: '" ++
      Text.join ", " (misplaced.map (·.name)) ++ "'"))

/-- Checks that every argument by name has a parameter that has no argument by position. -/
def checkNamed (s : Signature) (filled : List String) (all : List (String × Value)) :
    List (String × Value) → Except Fault Unit
  | [] => .ok ()
  | (name, _) :: rest =>
    if !s.takesNames || !(s.parameters.any (·.name == name)) then .error (s.unexpected name all)
    else if filled.contains name then
      .error (.wrongType (s.name ++ "() got multiple values for argument " ++ Text.quoted name))
    else checkNamed s filled all rest

/-- The value of every parameter. -/
def assign : List Parameter → List Value → List (String × Value) → List (Option Value)
  | [], _, _ => []
  | _ :: ps, v :: vs, named => some v :: assign ps vs named
  | p :: ps, [], named => ((entryOf? p.name named).orElse fun _ => p.default) :: assign ps [] named

/-- Matches arguments with parameters: one value for each parameter. -/
def accept (s : Signature) (arguments : Arguments) : Except Fault (List Value) := do
  checkNamed s ((s.parameters.take arguments.positional.length).map (·.name)) arguments.named arguments.named
  if s.parameters.length < arguments.positional.length then
    throw (s.tooMany arguments.positional.length)
  let values := assign s.parameters arguments.positional arguments.named
  let absent := (s.parameters.zip values).filter fun (_, v) => v.isNone
  if !absent.isEmpty then throw (s.missing (absent.map fun (p, _) => p.name))
  return values.filterMap id

end Signature

end Courier.Language
