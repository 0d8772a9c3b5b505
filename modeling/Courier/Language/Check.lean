import Courier.Language.Access
import Courier.Language.Operation
import Courier.Language.Signature
import Courier.Text.Case

/-!
The checks that follow the word `is`: what kind of value something is, and how it compares with another.
-/

namespace Courier.Language

namespace Check

/-- The names of all checks. -/
def names : List String :=
  ["odd", "even", "divisibleby", "defined", "undefined", "filter", "test", "none", "boolean", "false", "true",
    "integer", "float", "lower", "upper", "string", "mapping", "number", "sequence", "iterable", "callable", "sameas",
    "escaped", "in", "==", "eq", "equalto", "!=", "ne", ">", "gt", "greaterthan", "ge", ">=", "<", "lt", "lessthan",
    "<=", "le"]

/-- The name under which a check of two values complains about its arguments, and the relation it tests. -/
def relation? (name : String) : Option (String × Relation) :=
  match name with
  | ">" | "gt" | "greaterthan" => some ("gt", .greater)
  | ">=" | "ge" => some ("ge", .greaterEqual)
  | "<" | "lt" | "lessthan" => some ("lt", .less)
  | "<=" | "le" => some ("le", .lessEqual)
  | _ => none

/-- Exactly two values. -/
def two (name : String) (v : Value) (a : Arguments) : Except Fault (Value × Value) :=
  if !a.named.isEmpty then .error (.wrongType (name ++ "() takes no keyword arguments"))
  else match a.positional with
    | [w] => .ok (v, w)
    | vs => .error (.wrongType (name ++ " expected 2 arguments, got " ++ toString (vs.length + 1)))

/-- The remainder of a division by two, or by another value. -/
def remainderIs (v divisor : Value) (rest : Int) : Except Fault Bool := do
  return Value.same (← Operation.binary .remainder v divisor) (.newInt rest)

/-- Whether two identities are those of one object. Nothing loose is the same as anything else. -/
def sameIdentity (i j : Identity) : Bool := i == j && i != .loose && i != .apart

/-- Two values that are the same object wherever they come from. -/
def sameObject (v w : Value) : Bool :=
  match v, w with
  | .none, .none | .tuple _ [], .tuple _ [] => true
  | .bool b, .bool c => b == c
  | .builtin b, .builtin c => b == c
  | .int i m, .int j n => m == n && (v.isUnique || sameIdentity i j)
  | .text i s, .text j t => s == t && ((v.isUnique && w.isUnique) || sameIdentity i j)
  | .bytes b, .bytes c => b == c && v.isUnique
  | .float i x, .float j y => sameIdentity i j && Number.signBit x == Number.signBit y && (x == y || Number.isNaN x)
  | _, _ => match v.identity?, w.identity? with
    | some i, some j => sameIdentity i j
    | _, _ => false

/-- Whether two values may be one object that nothing tells from others of the same content. -/
def mayBeOne (v w : Value) : Bool :=
  match v, w with
  | .tuple _ _, .tuple _ _ | .safeText _, .safeText _ | .bytes _, .bytes _ | .complex _ _, .complex _ _
  | .range _ _ _, .range _ _ _
  | .slice _ _ _, .slice _ _ _ | .method _ _, .method _ _ => Value.alike v w
  | _, _ => false

/-- A check with one parameter or with the parameters given, by its name in messages. -/
def bound (name : String) (parameters : List String) (v : Value) (a : Arguments)
    (f : List Value → Except Fault Bool) : Except Fault Bool := do
  f (← (Signature.ofNamed name 0 (parameters.map required)).accept ⟨v :: a.positional, a.named⟩)

/-- A value that can be iterated. -/
def isIterable (v : Value) : Bool :=
  match v with
  | .record _ .loop _ => true
  | _ => v.iterate.toOption.isSome

/-- A value with a length and items. -/
def isSequence : Value → Bool
  | .text _ _ | .safeText _ | .bytes _ | .list _ _ | .tuple _ _ | .map _ _ | .range _ _ _ | .undefined _ _ => true
  | _ => false

/-- A value that can be called. -/
def isCallable : Value → Bool
  | .builtin .template | .record _ .namespaceOf _ | .record _ .cycler _ => false
  | .method _ _ | .builtin _ | .undefined _ _ | .record _ _ _ => true
  | _ => false

/-- A value that knows how to stand in HTML. -/
def isEscaped : Value → Bool
  | .safeText _ => true
  | .undefined _ chained => chained
  | _ => false

/-- Whether a value names a member of a list. -/
def isNameIn (list : List String) (v : Value) : Except Fault Bool := do
  let _ ← Value.asKey v
  return v.text?.any list.contains

/-- Applies a check of a known name to settled values. `filters` are the names of all filters. -/
def apply (filters : List String) (name : String) (v : Value) (a : Arguments) : Except Fault Bool :=
  let alone (f : Value → Except Fault Bool) := bound ("test_" ++ name) ["value"] v a fun vs => f (argument vs 0)
  match relation? name with
  | some (shown, relation) => do
    let (v, w) ← two shown v a
    Value.ordered relation v w
  | none =>
    match name with
    | "==" | "eq" | "equalto" => do let (v, w) ← two "eq" v a; return Value.same v w
    | "!=" | "ne" => do let (v, w) ← two "ne" v a; return !Value.same v w
    | "odd" => alone fun v => remainderIs v (.newInt 2) 1
    | "even" => alone fun v => remainderIs v (.newInt 2) 0
    | "divisibleby" => bound "test_divisibleby" ["value", "num"] v a fun vs =>
        remainderIs (argument vs 0) (argument vs 1) 0
    | "defined" => alone fun v => .ok !v.isUndefined
    | "undefined" => alone fun v => .ok v.isUndefined
    | "filter" => bound "test_filter" ["value"] v a fun vs => isNameIn filters (argument vs 0)
    | "test" => bound "test_test" ["value"] v a fun vs => isNameIn names (argument vs 0)
    | "none" => alone fun
      | .none => .ok true
      | _ => .ok false
    | "boolean" => alone fun
      | .bool _ => .ok true
      | _ => .ok false
    | "false" => alone fun
      | .bool b => .ok !b
      | _ => .ok false
    | "true" => alone fun
      | .bool b => .ok b
      | _ => .ok false
    | "integer" => alone fun
      | .int _ _ => .ok true
      | _ => .ok false
    | "float" => alone fun
      | .float _ _ => .ok true
      | _ => .ok false
    | "number" => alone fun
      | .int _ _ | .bool _ | .float _ _ | .complex _ _ => .ok true
      | _ => .ok false
    | "lower" => alone fun v => do return Text.isLower (← v.toText)
    | "upper" => alone fun v => do return Text.isUpper (← v.toText)
    | "string" => alone fun v => .ok v.text?.isSome
    | "mapping" => alone fun
      | .map _ _ => .ok true
      | _ => .ok false
    | "sequence" => alone fun v => .ok (isSequence v)
    | "iterable" => alone fun v => .ok (isIterable v)
    | "callable" =>
      if !a.named.isEmpty then .error (.wrongType "callable() takes no keyword arguments")
      else if !a.positional.isEmpty then .error (.wrongType
        ("callable() takes exactly one argument (" ++ toString (a.positional.length + 1) ++ " given)"))
      else .ok (isCallable v)
    | "escaped" => alone fun v => .ok (isEscaped v)
    | "sameas" => bound "test_sameas" ["value", "other"] v a fun vs =>
        .ok (sameObject (argument vs 0) (argument vs 1))
    | "in" => bound "test_in" ["value", "seq"] v a fun vs => Value.holds (argument vs 1) (argument vs 0)
    | _ => .error (.malformed ("No test named " ++ Text.quoted name ++ "."))

end Check

end Courier.Language
