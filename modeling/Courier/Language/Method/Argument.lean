import Courier.Language.Access
import Courier.Language.Pattern
import Courier.Language.Signature

/-!
What methods have in common: their effects, and how their arguments are counted and converted. A method answers with a
result and, if it changes its owner, with the owner's new form; the evaluator records the change.
-/

namespace Courier.Language

/-- What a method does: its result or its fault, and the new form of its owner if that is changed. A method that fails
may have changed its owner before. -/
structure Effect where
  outcome : Except Fault Value
  change : Option Value

namespace Effect

/-- An outcome without a change. -/
def unchanged (r : Except Fault Value) : Effect := ⟨r, none⟩

/-- The effect of a step, which changes nothing if it fails at once. -/
def ofStep (r : Except Fault Effect) : Effect :=
  match r with
  | .ok effect => effect
  | .error f => unchanged (.error f)

end Effect

namespace Method

/-- No arguments by name. -/
def unnamed (type name : String) (a : Arguments) : Except Fault (List Value) :=
  if a.named.isEmpty then .ok a.positional
  else .error (.wrongType (type ++ "." ++ name ++ "() takes no keyword arguments"))

/-- No arguments at all. -/
def noArguments (type name : String) (a : Arguments) : Except Fault Unit := do
  let vs ← unnamed type name a
  if !vs.isEmpty then
    throw (Fault.wrongType (type ++ "." ++ name ++ "() takes no arguments (" ++ toString vs.length ++ " given)"))

/-- One argument. -/
def oneArgument (type name : String) (a : Arguments) : Except Fault Value := do
  match ← unnamed type name a with
  | [v] => return v
  | vs => throw (Fault.wrongType
      (type ++ "." ++ name ++ "() takes exactly one argument (" ++ toString vs.length ++ " given)"))

/-- A count with the word for what is counted. -/
def arguments (n : Nat) : String := toString n ++ (if n == 1 then " argument" else " arguments")

/-- Between so many and so many arguments. -/
def between (type name : String) (least most : Nat) (a : Arguments) : Except Fault (List Value) := do
  let vs ← unnamed type name a
  if vs.length < least then
    throw (Fault.wrongType (name ++ " expected " ++ (if least == most then "" else "at least ") ++ arguments least ++
      ", got " ++ toString vs.length))
  if most < vs.length then
    throw (Fault.wrongType (name ++ " expected " ++ (if least == most then "" else "at most ") ++ arguments most ++
      ", got " ++ toString vs.length))
  return vs

/-- One to three arguments of a search. -/
def searchArguments (type name : String) (a : Arguments) : Except Fault (List Value) := do
  let vs ← unnamed type name a
  if vs.isEmpty then throw (Fault.wrongType (name ++ "() takes at least 1 argument (0 given)"))
  if 3 < vs.length then
    throw (Fault.wrongType (name ++ "() takes at most 3 arguments (" ++ toString vs.length ++ " given)"))
  return vs

/-- An argument that has to be an integer. -/
def integer (v : Value) : Except Fault Int :=
  match v.int? with
  | some i => .ok i
  | none => .error (.notIndexNumber v.typeName)

/-- An argument that has to be an integer of 64 bits. -/
def sizeArgument (v : Value) : Except Fault Int := do
  let i ← integer v
  if i > indexLimit || i < -indexLimit - 1 then throw Fault.lengthTooLarge
  return i

/-- An argument that has to be an integer of 32 bits. -/
def flagArgument (v : Value) : Except Fault Int := do
  let i ← integer v
  if i ≥ Int.pow 2 31 || i < -Int.pow 2 31 then throw Fault.flagTooLarge
  return i

/-- An argument that has to be a text. -/
def textArgument (v : Value) : Except Fault String :=
  match v.text? with
  | some s => .ok s
  | none => .error (.wrongType ("must be str, not " ++ v.typeName))

/-- An argument that has to be a text, with its place in the message. -/
def textAt (place : String) (v : Value) : Except Fault String :=
  match v with
  | .none => .error (.wrongType (place ++ " must be str, not None"))
  | v => match v.text? with
    | some s => .ok s
    | none => .error (.wrongType (place ++ " must be str, not " ++ v.typeName))

/-- The part of a text between two bounds that may be absent or counted from the end, and where it starts. A start
behind the end leaves nothing, not even an empty part. -/
def window (cs : List Char) (bounds : List Value) : Except Fault (Option (Nat × List Char)) := do
  let length : Int := cs.length
  let first := (← Value.bound? (bounds[0]?.getD .none)).getD 0
  let last := (← Value.bound? (bounds[1]?.getD .none)).getD length
  let back (i : Int) : Int := if i < 0 then max (i + length) 0 else i
  let first := back first
  let last := min (back last) length
  if last < first then return none
  return some (first.toNat, (cs.take last.toNat).drop first.toNat)

end Method

end Courier.Language
