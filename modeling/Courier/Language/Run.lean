import Courier.Language.Filter.Argument
import Courier.Language.Memory
import Courier.Language.Output
import Courier.Language.Procedure
import Courier.Text.Normal

/-!
The state of a running program: its scopes, the bodies that it put aside, the containers that it changed and the streams
that it read. Changes of containers that are older than the run outlive it; those of its own containers and streams do
so only beside such a change, because nothing else could lead to them.

Every body that is called runs in an activation of its own, whose scopes are those around the body as they are now, and
the scopes of the body inside of them. Only the innermost scope of an activation can change, so that the scopes of an
activation that waits for another one stay as they are.
-/

namespace Courier.Language

/-- What kind of body a scope belongs to. -/
inductive ScopeRole
  | root
  | loop
  | block
  | plain
  deriving DecidableEq, Repr

/-- The variables of a body. A variable without a value is undefined. Names that are spelled differently but have one
normal form share a variable. -/
structure Scope where
  role : ScopeRole
  /-- The names that the scope knows. -/
  names : List String
  /-- Those among them that the program gave a value. -/
  assigned : List String
  /-- The values of the variables, by the normal forms of their names. -/
  values : List (String × Option Value)

namespace Scope

/-- The variable that a name stands for: the plain form of the name. -/
def slot (name : String) : String := Text.plainForm name

/-- A scope without variables. -/
def empty (role : ScopeRole) : Scope := ⟨role, [], [], []⟩

/-- Makes a name known with a value. -/
def declare (name : String) (v : Option Value) (s : Scope) : Scope :=
  { s with
    names := if s.names.contains name then s.names else name :: s.names
    values := putEntry (slot name) v s.values }

/-- Gives a name a value. -/
def assign (name : String) (v : Option Value) (s : Scope) : Scope :=
  { s.declare name v with assigned := if s.assigned.contains name then s.assigned else name :: s.assigned }

/-- The value of a name, if the scope knows it. -/
def find? (name : String) (s : Scope) : Option (Option Value) :=
  if s.names.contains name then some ((entryOf? (slot name) s.values).getD none) else none

end Scope

/-- What changes while a program runs. -/
structure Run where
  /-- The changes of containers that are older than the run. -/
  changes : Changes
  /-- The changes of the run's own containers. -/
  own : Changes
  /-- What is left of the run's own streams, and where its loops are. -/
  streams : Changes
  /-- The number of the next container that comes to rest. -/
  serial : Nat
  /-- The variables that were assigned at the top. -/
  exported : List (String × Value)
  /-- The variables that were assigned in the present turn of a loop. -/
  turn : List (String × Value)
  /-- The variables that were assigned in the present block. -/
  block : List (String × Value)
  /-- The scopes of the present activation, the innermost first. -/
  scopes : List Scope
  /-- The number of the present activation. -/
  activation : Nat
  /-- The number of the next activation. -/
  nextActivation : Nat
  /-- The scopes of the activations that wait for another one, or that put bodies aside. -/
  waiting : List (Nat × List Scope)
  /-- The bodies that were put aside, by the values that stand for them. -/
  procedures : List (Identity × Procedure)

/-- What kind of body the program is in. -/
def Run.role? (run : Run) : Option ScopeRole := run.scopes.head?.map Scope.role

/-- The state at the start of a run. -/
def Run.start : Run where
  changes := []
  own := []
  streams := []
  serial := 0
  exported := []
  turn := []
  block := []
  scopes := []
  activation := 0
  nextActivation := 1
  waiting := []
  procedures := []

/-- The scopes of an activation. -/
def Run.scopesOf (run : Run) (activation : Nat) : List Scope :=
  if activation == run.activation then run.scopes
  else ((run.waiting.find? (·.1 == activation)).map (·.2)).getD []

/-- The scopes around a body that was put aside. A name of a scope that was left has no value. -/
def Run.scopesAround (run : Run) (place : Origin) : List Scope :=
  let scopes := run.scopesOf place.activation
  let around := scopes.drop (scopes.length - place.depth)
  let lost := place.known.filter fun n => !around.any (·.names.contains n)
  if lost.isEmpty then around else lost.foldl (fun scope n => scope.declare n none) (Scope.empty .plain) :: around

/-- What a body that is called takes over from the place of the call. -/
structure CallSite where
  manner : Manner
  /-- The next item of a loop around this part. -/
  draw : Identity → ExceptT Fault (StateM Run) (Option Value)

/-- What stays the same while a part of a program runs. -/
structure Setting extends CallSite where
  /-- The values of names that no scope knows. -/
  data : String → Option Value
  /-- The variables that were handed to a block around this part. -/
  handed : List (String × Value)
  escaping : Escaping
  /-- The changes before the run. -/
  before : Changes
  /-- The text of the block that a filter is applied to. -/
  body : String
  /-- The filters and the checks of the program: whether each is a check, and its name. -/
  applied : List (Bool × String)
  /-- The bodies of the blocks of the program. -/
  blocks : List (String × List Statement)
  /-- Runs a body that was put aside. -/
  perform : CallSite → Identity → Arguments → ExceptT Fault (StateM Run) Output

/-- A step of a run. -/
abbrev Eval := ReaderT Setting (ExceptT Fault (StateM Run))

namespace Eval

/-- A result that does not depend on the run. -/
def lift {α : Type} (r : Except Fault α) : Eval α :=
  match r with
  | .ok a => pure a
  | .error f => throw f

/-- A step whose fault is a result. -/
def observe {α : Type} (step : Eval α) : Eval (Except Fault α) := fun setting =>
  ExceptT.mk do return .ok (← (step setting).run)

/-- Whether undefined values may be asked for attributes. -/
def chained : Eval Bool := do return (← read).manner.chained

/-- Whether texts are made fit for HTML in a place of the program. -/
def escapesIn (escaping : Escaping) : Eval Bool := do
  let manner := (← read).manner
  return if escaping.isOpen then manner.escaping else escaping.isOn

/-- Whether texts are made fit for HTML in this place of the program. -/
def escapes : Eval Bool := do return ← escapesIn (← read).escaping

/-! ### Containers -/

/-- All changes of containers. -/
def changes : Eval Changes := do
  let run ← get
  return run.own ++ run.changes ++ (← read).before

/-- A value with the present content of its outermost container. -/
def present (v : Value) : Eval Value := do return v.present (← changes)

/-- A value with the present content of all its parts. -/
def settled (v : Value) : Eval Value := do return v.settle (← changes)

/-- A value with the present content of its items, each of them settled by itself. -/
def unfolded (v : Value) : Eval Value := do return v.unfolded (← changes)

/-- Values with the present content of all their parts. -/
def settledAll (vs : List Value) : Eval (List Value) := do return vs.map (Value.settle (← changes))

/-- Arguments with the present content of all their parts. -/
def settledArguments (a : Arguments) : Eval Arguments := do
  let changes ← changes
  return ⟨a.positional.map (Value.settle changes), a.named.map fun (n, v) => (n, v.settle changes)⟩

/-- Whether a value counts as true at present. -/
def holds (v : Value) : Eval Bool := do return (← present v).isTrue

/-- Gives the loose containers of a value an identity. -/
def bound (v : Value) : Eval Value := do
  let epoch := (← read).before.length
  let run ← get
  let (v, serial) := v.bind epoch run.serial
  set { run with serial }
  return v

/-- The identity of the next container that comes to rest. -/
def newIdentity : Eval Identity := do
  let epoch := (← read).before.length
  let run ← get
  set { run with serial := run.serial + 1 }
  return .bound epoch run.serial

/-- Whether a container was made in this run. -/
def isOwn (identity : Identity) : Eval Bool := do
  match identity with
  | .bound epoch _ => return epoch == (← read).before.length
  | _ => return false

/-- Takes note of the new form of a container. -/
def record (identity : Identity) (v : Value) : Eval Unit := do
  if identity == .loose then pure ()
  else if ← isOwn identity then modify fun run => { run with own := run.own.put identity v }
  else modify fun run => { run with changes := run.changes.put identity v }

/-! ### Streams and loops -/

/-- What is left of a stream, or where a loop is. -/
def remaining (identity : Identity) : Eval (Option Value) := do
  if ← isOwn identity then return (← get).streams.find? identity
  else return Changes.find? ((← get).changes ++ (← read).before) identity

/-- Takes note of what is left of a stream, or where a loop is. -/
def leave (identity : Identity) (v : Value) : Eval Unit := do
  if ← isOwn identity then modify fun run => { run with streams := run.streams.put identity v }
  else record identity v

/-! ### Bodies that are called -/

/-- Puts a body aside under the identity of a value. -/
def register (identity : Identity) (p : Procedure) : Eval Unit :=
  modify fun run => { run with procedures := (identity, p) :: run.procedures }

/-- The body that was put aside under an identity. -/
def procedureOf? (identity : Identity) : Eval (Option Procedure) := do
  return ((← get).procedures.find? (·.1 == identity)).map (·.2)

/-- Runs a body that was put aside. -/
def perform (identity : Identity) (a : Arguments) : Eval Output := fun setting =>
  setting.perform setting.toCallSite identity a

/-- The place in the program where the run is. -/
def origin : Eval Origin := do
  let setting ← read
  let run ← get
  return ⟨run.activation, run.scopes.length, (run.scopes.flatMap Scope.names).eraseDups, setting.handed,
    setting.escaping⟩

/-- Runs a step in an activation of its own, in the scopes around a body. The variables of an activation that put bodies
aside are kept. -/
def apart {α : Type} (place : Origin) (step : Eval α) : Eval α := do
  let caller ← get
  let activation := caller.nextActivation
  set { caller with
    turn := []
    block := []
    scopes := caller.scopesAround place
    activation
    nextActivation := activation + 1
    waiting := (caller.activation, caller.scopes) :: caller.waiting }
  let result ← withReader (fun setting => { setting with handed := place.handed, escaping := place.escaping }) step
  modify fun run => { run with
    turn := caller.turn
    block := caller.block
    scopes := caller.scopes
    activation := caller.activation
    waiting := run.waiting.filter (·.1 != caller.activation) }
  return result

/-- Keeps the variables of the present activation if it put bodies aside. -/
def keepVariables : Eval Unit :=
  modify fun run =>
    if run.procedures.any fun (_, p) => p.place.activation == run.activation then
      { run with waiting := (run.activation, run.scopes) :: run.waiting }
    else run

/-! ### Names -/

/-- The value of a name that no scope knows. -/
def resolve (name : String) : Eval (Option Value) := do
  let setting ← read
  let run ← get
  return ((entryOf? name setting.handed).orElse fun _ => entryOf? name run.exported).orElse fun _ => setting.data name

/-- The value of a name in the scopes, if one of them knows it. -/
def variableOf? (name : String) (scopes : List Scope) : Option (Option Value) := scopes.findSome? (Scope.find? name)

/-- The value of a name, if it has one. -/
def find (name : String) : Eval (Option Value) := do
  match variableOf? name (← get).scopes with
  | some v => return v
  | none => resolve name

/-- The value of a name. -/
def nameValue (name : String) : Eval Value := do
  return (← find name).getD (Value.noName (← chained) name)

/-- The value of a name in a path: in a loop or a block that of the variables assigned there, then that of the top and
of the data. Other variables are not seen. -/
def pathRoot (name : String) : Eval (Option Value) := do
  let run ← get
  let assigned := match run.role? with
    | some .loop => entryOf? name run.turn
    | some .block => entryOf? name run.block
    | _ => none
  match assigned with
  | some v => return some v
  | none => resolve name

/-- Whether the program gave a name its value. -/
def isAssigned (name : String) : Eval Bool := do
  let run ← get
  return match run.scopes.find? (·.names.contains name) with
    | some scope => scope.assigned.contains name
    | none => (entryOf? name run.exported).isSome

end Eval

end Courier.Language
