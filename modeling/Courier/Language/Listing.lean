import Courier.Language.Execution
import Courier.Language.Parts

/-!
The listing of a program: the lines that it has once it is ready to run. The listing opens with a fixed head, a line for
each name that is looked up, and six lines for each filter or check that is used; then each statement has lines of its
own, and expressions stand on the lines of their statements. A call that gives an argument twice is refused when the
listing is complete, with the line that it stands on.
-/

namespace Courier.Language

/-! ### Lines -/

/-- A step that writes lines. The state is the number of lines so far. -/
abbrev Listing := StateT Nat (Except Fault)

namespace Listing

/-- The first name that stands more than once among some names. -/
def firstRepeated? : List String → Option String
  | [] => none
  | n :: rest => if rest.contains n then some n else firstRepeated? rest

/-- The name of the argument that a call gives twice, if it does. Beside a reserved word the names are entries of a map,
where the last one counts. -/
def repeatedName? : Expression → Option String
  | .call _ arguments | .filter _ _ arguments | .check _ _ arguments =>
    if Eval.keepsNames arguments then none
    else firstRepeated? (arguments.filterMap fun
      | .named n _ => some (Scope.slot n)
      | _ => none)
  | _ => none

/-- Writes lines without expressions. -/
def skip (n : Nat) : Listing Unit := modify (· + n)

/-- Writes a line with some expressions on it. -/
def line (expressions : List Expression) : Listing Unit := do
  skip 1
  match (expressions.flatMap Expression.withParts).findSome? repeatedName? with
  | some n => throw (.repeatedArgument n (← get))
  | none => pure ()

/-- Where a statement stands. -/
structure Frame where
  role : ScopeRole
  /-- Whether the text is collected before it is put out. -/
  isCollected : Bool
  /-- The names that the scopes around know. -/
  known : List String
  /-- The number of those scopes but the outermost. -/
  level : Nat

/-- The names of a scope that do not come from its parameters, with how they start. -/
def startsIn (parameters : List String) (symbols : Symbols) : List (String × Start) :=
  symbols.starts.filter fun (n, _) => !parameters.contains n

/-- Writes the lines at the start of a scope: one for each name that starts with a value, and one for all others. -/
def enter (parameters : List String) (symbols : Symbols) : Listing Unit := do
  let (unset, set) := (startsIn parameters symbols).partition fun (_, start) => start == .unset
  skip (set.length + if unset.isEmpty then 0 else 1)

/-- Writes the line at the end of a scope that knows a name. -/
def leave (parameters : List String) (symbols : Symbols) : Listing Unit :=
  skip (if parameters.isEmpty && symbols.starts.isEmpty then 0 else 1)

/-- The frame of a scope inside of a frame. -/
def Frame.inner (frame : Frame) (role : ScopeRole) (parameters : List String) (symbols : Symbols) : Frame :=
  { frame with role, known := parameters ++ symbols.starts.map (·.1) ++ frame.known, level := frame.level + 1 }

/-- The lines after an assignment, which make the names known to paths and to blocks. -/
def publication (role : ScopeRole) (assigned : List String) : Nat :=
  if assigned.isEmpty then 0
  else match role with
    | .root => if assigned.all (·.startsWith "_") then 1 else 2
    | .loop | .block => 1
    | .plain => 0

/-- Writes the lines of the parts of an output. Texts in a row share a line. -/
def pieces : Bool → List Piece → Listing Unit
  | _, [] => pure ()
  | false, .text _ :: rest => do
    skip 1
    pieces true rest
  | true, .text _ :: rest => pieces true rest
  | _, .value e :: rest => do
    line [e]
    pieces false rest

/-- The names that a loop gives values to in each turn. -/
def turnNames (target : Target) (isKnown : Bool) : List String :=
  target.assigned ++ if isKnown then ["loop"] else []

/-- Writes the start of a body with parameters, which is put aside until it is called. `names` are the parameters and
the other names that have their values from the call. -/
def openCallable (frame : Frame) (parameters names : List String) (defaults : List Expression) (symbols : Symbols) :
    Listing Unit := do
  skip 1
  match firstRepeated? (parameters.map Scope.slot) with
  | some n => throw (.repeatedParameter ("l_" ++ toString (frame.level + 1) ++ "_" ++ n) (← get))
  | none => pure ()
  skip 1
  enter names symbols
  skip (2 * (parameters.length - defaults.length))
  defaults.forM fun e => do
    skip 1
    line [e]

/-- The names of a body with parameters. -/
def callableSymbols (frame : Frame) (defaults : List Expression) (body : List Statement) : Symbols :=
  Symbols.afterAll frame.known.contains (Symbols.empty.readAll frame.known.contains (namesOfAll defaults)) body

/-- The names of a body with parameters that have their values from the call. -/
def givenNames (parameters : List String) (body : List Statement) : List String :=
  parameters ++ undeclaredNames parameters body

/-- Writes the part of a loop in front of its turns that picks the items which pass its test. -/
def selection (frame : Frame) (target : Target) (test : Expression) : Listing Unit := do
  skip 1
  enter target.assigned (Symbols.empty.readAll frame.known.contains test.names)
  skip 1
  line [test]
  skip 1

mutual

/-- Writes the lines of a statement. A body opens with a line of its own. -/
def statement (frame : Frame) : Statement → Listing Unit
  | .output ps => do
    if frame.isCollected then skip 1
    pieces false ps
    if frame.isCollected then skip 1
  | .assign target e => do
    skip (2 * target.read.eraseDups.length)
    line [e]
    skip (publication frame.role target.assigned)
  | .assignBody target filter body => do
    let symbols := Symbols.afterAll frame.known.contains .empty body
    enter [] symbols
    skip 2
    statements { frame.inner .plain [] symbols with isCollected := true } body
    line [filter]
    skip (publication frame.role target.assigned)
    leave [] symbols
  | .branch arms otherwise => do
    branches frame arms
    if !otherwise.isEmpty then skip 2
    statements frame otherwise
  | .loop target items test isRecursive body otherwise => do
    let isKnown := Eval.knowsPlace isRecursive body otherwise
    let parameters := turnNames target isKnown
    let symbols := Symbols.afterAll frame.known.contains .empty body
    let elsewhere := Symbols.afterAll frame.known.contains .empty otherwise
    let isCollected := frame.isCollected || isRecursive
    test.forM (selection frame target)
    if isRecursive then skip 2
    if isKnown then skip 1
    if !otherwise.isEmpty then skip 1
    line (if isRecursive then [] else [items])
    enter parameters symbols
    skip 2
    statements { frame.inner .loop parameters symbols with isCollected } body
    if !otherwise.isEmpty then skip 1
    if !isRecursive || !otherwise.isEmpty then leave parameters symbols
    if !otherwise.isEmpty then
      skip 1
      enter [] elsewhere
      skip 1
    statements { frame.inner .plain [] elsewhere with isCollected } otherwise
    if !otherwise.isEmpty then leave [] elsewhere
    if isRecursive then
      skip 1
      line [items]
  | .bindings values body => do
    let parameters := values.flatMap fun (t, _) => t.assigned
    let symbols := Symbols.afterAll frame.known.contains .empty body
    enter parameters symbols
    values.forM fun (_, e) => line [e]
    skip 1
    statements (frame.inner .plain parameters symbols) body
    leave parameters symbols
  | .block _ _ isRequired _ => skip ((if isRequired then 2 else 0) + if frame.isCollected then 5 else 1)
  | .filterBody filter body => do
    let symbols := Symbols.afterAll frame.known.contains .empty body
    enter [] symbols
    skip 2
    statements { frame.inner .plain [] symbols with isCollected := true } body
    line [filter]
    leave [] symbols
  | .escaping isOn _ body => do
    let symbols := Symbols.afterAll frame.known.contains (Symbols.empty.readAll frame.known.contains isOn.names) body
    enter [] symbols
    skip 2
    line [isOn]
    statements (frame.inner .plain [] symbols) body
    skip 1
    leave [] symbols
  | .define name parameters defaults body => do
    let symbols := callableSymbols frame defaults body
    let names := givenNames parameters body
    openCallable frame parameters names defaults symbols
    skip 1
    statements { frame.inner .plain names symbols with isCollected := true } body
    skip (if frame.role == .root && !name.startsWith "_" then 3 else 2)
  | .callBody parameters defaults call body => do
    let symbols := callableSymbols frame defaults body
    let names := givenNames parameters body
    openCallable frame parameters names defaults symbols
    skip 1
    statements { frame.inner .plain names symbols with isCollected := true } body
    skip 2
    line [call.withCaller .none]
  | .reference _ e => line [e]

/-- Writes the lines of statements, in turn. -/
def statements (frame : Frame) : List Statement → Listing Unit
  | [] => pure ()
  | s :: rest => do
    statement frame s
    statements frame rest

/-- Writes the lines of the branches of a condition. -/
def branches (frame : Frame) : List (Expression × List Statement) → Listing Unit
  | [] => pure ()
  | (test, body) :: rest => do
    line [test]
    skip 1
    statements frame body
    branches frame rest

end

/-- Writes the lines in front of a body: some that are always there, one for each variable that is set up, and the
names, filters and checks that the body uses. -/
def head (fixed : Nat) (parameters : List String) (symbols : Symbols) (body : List Statement) : Listing Unit := do
  skip (fixed + parameters.length)
  enter parameters symbols
  skip (6 * (appliedIn (expressionsOfAll body)).length)

/-- The names of a body that are read before they are set up, among some. -/
def setUp (names : List String) (body : List Statement) : List String :=
  names.filter fun n => isReadFirst n (mentionsOfAll body)

/-- Writes a body of the outermost level. -/
def outermost (role : ScopeRole) (fixed : Nat) (names : List String) (body : List Statement) : Listing Unit := do
  let parameters := setUp names body
  let symbols := Symbols.afterAll (fun _ => false) .empty body
  head fixed parameters symbols body
  skip 1
  statements ⟨role, false, parameters ++ symbols.starts.map (·.1), 0⟩ body

/-- Writes the listing of a program: its statements, and then its blocks. -/
def program (p : Program) : Listing Unit := do
  outermost .root 9 ["self"] p.statements
  p.blocks.forM fun (_, body) => outermost .block 8 ["self", "super"] body

end Listing

/-- Checks the listing of a program. -/
def Program.checkListing (p : Program) : Except Fault Unit := do
  let _ ← (Listing.program p).run 0

end Courier.Language
