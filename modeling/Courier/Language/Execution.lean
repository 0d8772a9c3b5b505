import Courier.Language.Evaluation
import Courier.Language.Parts

/-!
The text of a template. Every statement adds to the text, and assignments at the top are seen by paths and by blocks.
A run starts with the present content of all containers and hands on the changes it made; the changes of a run
without calls are those it started with.
-/

namespace Courier.Language

namespace Eval

/-- Whether one of the scopes knows a name. -/
def known (scopes : List Scope) (name : String) : Bool := (variableOf? name scopes).isSome

/-- The value that a name of a new scope starts with. -/
def startValue (outside : List Scope) (name : String) : Start → Eval (Option Value)
  | .unset => return none
  | .resolved => resolve name
  | .inherited => return (variableOf? name outside).getD none

/-- A scope with the variables that it starts with. -/
def started (outside : List Scope) : List (String × Start) → Scope → Eval Scope
  | [], scope => return scope
  | (n, start) :: rest, scope => do
    let v ← startValue outside n start
    started outside rest (scope.declare n v)

/-- Runs a step in a new scope inside of some scopes, and leaves them as they are then. The parameters of the scope
have their values from the start, and what has no value yet is settled last. -/
def within {α : Type} (role : ScopeRole) (parameters : List (String × Option Value)) (symbols : Symbols)
    (step : Eval α) : Eval α := do
  let outside := (← get).scopes
  let scope := parameters.foldl (fun scope (n, v) => scope.assign n v) (Scope.empty role)
  let starts := symbols.starts.filter fun (n, _) => (entryOf? n parameters).isNone
  let (unset, set) := starts.partition fun (_, start) => start == .unset
  let scope ← started outside (set ++ unset) scope
  modify fun run => { run with scopes := scope :: run.scopes }
  let result ← step
  modify fun run => { run with scopes := run.scopes.tail }
  return result

/-- Sets a variable of the innermost scope. -/
def setVariable (name : String) (v : Value) : List Scope → List Scope
  | [] => []
  | scope :: rest => scope.assign name (some v) :: rest

/-- Assigns a variable, which is seen by paths if it stands at the top, in a loop or in a block. -/
def assignName (name : String) (v : Value) : Eval Unit :=
  modify fun run =>
    let run := { run with scopes := setVariable name v run.scopes }
    match run.role? with
    | some .root => { run with exported := putEntry name v run.exported }
    | some .loop => { run with turn := putEntry name v run.turn }
    | some .block => { run with block := putEntry name v run.block }
    | _ => run

/-- Gives a name to a body with parameters, which is seen by paths if it stands at the top. -/
def nameDefinition (name : String) (v : Value) : Eval Unit :=
  modify fun run =>
    let run := { run with scopes := setVariable name v run.scopes }
    if run.role? == some .root then { run with exported := putEntry name v run.exported } else run

/-! ### Targets -/

/-- So many items of a cursor, or all it has, and the cursor behind them. -/
def takeItems : Nat → Cursor → Eval (List Value × Cursor)
  | 0, cursor => return ([], cursor)
  | n + 1, cursor => do
    match ← advance stepLimit cursor with
    | none => return ([], .done)
    | some (v, rest) =>
      let (more, rest) ← takeItems n rest
      return (v :: more, rest)

/-- The items for the parts of a target. -/
def unpack (count : Nat) (v : Value) : Eval (List Value) := do
  let cursor ← match ← observe (cursorOf v) with
    | .ok cursor => pure cursor
    | .error _ => throw (.wrongType ("cannot unpack non-iterable " ++ v.typeName ++ " object"))
  let (items, rest) ← takeItems count cursor
  if items.length < count then
    throw (.wrongValue ("not enough values to unpack (expected " ++ toString count ++ ", got " ++
      toString items.length ++ ")"))
  match ← advance stepLimit rest with
  | some _ => throw (.wrongValue ("too many values to unpack (expected " ++ toString count ++ ")"))
  | none => return items

mutual

/-- The variables that a target gives to a value, before they are assigned. -/
def matched : Target → Value → Eval (List (Target × Value))
  | .tuple items, v => do matchedAll items (← unpack items.length v)
  | .name n, v => return [(.name n, v)]
  | .field owner n, v => return [(.field owner n, v)]

def matchedAll : List Target → List Value → Eval (List (Target × Value))
  | t :: ts, v :: vs => do
    let first ← matched t v
    return first ++ (← matchedAll ts vs)
  | _, _ => return []

end

mutual

/-- A value in the shape of a target: its parts as tuples. -/
def shaped : Target → Value → Eval Value
  | .tuple items, v => do return .newTuple (← shapedAll items (← unpack items.length v))
  | _, v => return v

def shapedAll : List Target → List Value → Eval (List Value)
  | t :: ts, v :: vs => do
    let first ← shaped t v
    return first :: (← shapedAll ts vs)
  | _, _ => return []

end

/-- The variables that the target of a loop gives to an item. -/
def turnVariables (target : Target) (v : Value) : Eval (List (String × Option Value)) := do
  return (← matched target v).filterMap fun (t, v) => match t with
    | .name n => some (n, some v)
    | _ => none

/-- The fields that a target needs owners for. -/
def checkOwners (owners : List String) : Eval Unit :=
  owners.forM fun owner => do
    match ← nameValue owner with
    | .record _ .namespaceOf _ => pure ()
    | _ => throw (.malformed "cannot assign attribute on non-namespace object")

/-- Sets a field of a namespace. The text of a body can be made an entry of a map in the same way. -/
def setField (owner name : String) (v : Value) : Eval Unit := do
  match ← find owner with
  | none => throw (.notAssignable "MissingType")
  | some holder =>
    match ← settled holder with
    | .record identity .namespaceOf fields =>
      record identity (.record identity .namespaceOf (putEntry name v fields))
    | .map identity entries => record identity (.map identity (Value.putKeys [(.newText name, v)] entries))
    | .list _ _ => throw .notListPosition
    | w => throw (.notAssignable w.typeName)

/-- Assigns a value to a target. -/
def assign (target : Target) (v : Value) : Eval Unit := do
  for (t, v) in ← matched target (← bound v) do
    match t with
    | .name n => assignName n v
    | .field owner n =>
      setField owner n v
    | .tuple _ => pure ()

/-- The variable for the template itself, where it is read before it is assigned. -/
def selfVariables (mentions : List Mention) : List (String × Option Value) :=
  if isReadFirst "self" mentions then [("self", some (.builtin .template))] else []

/-! ### Output -/

/-- The text of a value in the output. -/
def outputText (escaping : Bool) (v : Value) : Except Fault String :=
  match v with
  | .safeText s => .ok s
  | _ => do
    let s ← v.finalized
    return if escaping then Text.htmlEscaped s else s

/-- Puts a value out. -/
def written (v : Value) : Eval String := do
  let v ← shownForm v
  lift (outputText (← escapes) v)

/-- The output of pieces, one after another. Texts in a row are one piece; `afterText` tells that one stands in front.
-/
def writePieces (afterText : Bool) : List Piece → Eval Output
  | [] => return Output.none
  | .text s :: rest => do
    let output ← writePieces true rest
    let first : Output := if afterText then ⟨0, s, none⟩ else .ofText s
    return first.append output
  | .value e :: rest => do
    let s ← written (← evaluate e)
    return (Output.ofText s).append (← writePieces false rest)

/-- The text of a collected output, which is one text. -/
def collected (step : Eval Output) : Eval String := do lift (← step).joined

/-! ### Loops -/

/-- Runs the turns of a loop: `next` gives the variables of the next one. The outputs of the turns are collected. -/
def runTurns {α : Type} (next : α → Eval (Option (List (String × Option Value) × α)))
    (turn : List (String × Option Value) → Eval Output) : Nat → Array Output → α → Eval (Array Output)
  | 0, outputs, _ => return outputs
  | fuel + 1, outputs, place => do
    match ← next place with
    | none => return outputs
    | some (given, place) =>
      modify fun run => { run with turn := [] }
      let output ← turn given
      runTurns next turn fuel (outputs.push output) place

/-- The next item of a loop that passes its test, with the cursor behind it. -/
def nextPassing (target : Target) (test : Option Expression) : Nat → Cursor → Eval (Option (Value × Cursor))
  | 0, _ => return none
  | fuel + 1, cursor => do
    match ← advance stepLimit cursor with
    | none => return none
    | some (v, rest) =>
      let v ← bound v
      match test with
      | none => return some (v, rest)
      | some e =>
        let v ← shaped target v
        let given ← turnVariables target v
        let symbols := Symbols.empty.readAll (known (← get).scopes) e.names
        let passes ← within .plain given symbols do holds (← evaluate e)
        if passes then return some (v, rest) else nextPassing target test fuel rest

/-- Where a loop without a name for itself stands, and the given of its next turn. -/
def nextTurn (target : Target) (test : Option Expression) (cursor : Cursor) :
    Eval (Option (List (String × Option Value) × Cursor)) := do
  match ← nextPassing target test stepLimit cursor with
  | none => return none
  | some (v, rest) => return some (← turnVariables target v, rest)

/-- The next item of a loop that knows its place, seen from the scopes around the loop. `source` is where its cursor is
kept. -/
def drawPassing (target : Target) (test : Option Expression) (source : Identity) (outside : List Scope) :
    Eval (Option Value) := do
  match ← remaining source with
  | some (.stream _ type cursor) =>
    let inside := (← get).scopes
    modify fun run => { run with scopes := outside }
    let drawn ← nextPassing target test stepLimit cursor
    modify fun run => { run with scopes := inside }
    leave source (.stream source type ((drawn.map (·.2)).getD .done))
    return drawn.map (·.1)
  | _ => return none

/-- Runs the turns of a loop that knows its place. One that can be started anew is put aside for that. -/
def runKnownTurns (target : Target) (test : Option Expression) (items : Value) (anew : Option Recursion)
    (turn : List (String × Option Value) → Eval Output) : Eval (Array Output) := do
  let cursor ← cursorOf items
  let identity ← newIdentity
  let source ← newIdentity
  let outside := (← get).scopes
  let setting ← read
  let iterable := if test.isSome then .stream .loose "generator" .done else items
  let loop := Value.record identity .loop (loopStart iterable (anew.elim 0 Recursion.depth))
  leave identity loop
  leave source (.stream source "generator" cursor)
  anew.forM fun r => register identity (.recursion { r with depth := r.depth + 1 })
  let draw (i : Identity) : ExceptT Fault (StateM Run) (Option Value) :=
    if i == identity then drawPassing target test source outside setting else setting.draw i
  let next (_ : Unit) : Eval (Option (List (String × Option Value) × Unit)) := do
    match ← beginTurn identity with
    | none => return none
    | some v => return some ((← turnVariables target v) ++ [("loop", some loop)], ())
  withReader (fun setting => { setting with draw }) (runTurns next turn stepLimit #[] ())

/-- Whether a loop knows its place: its body reads that, or holds a block that may. -/
def knowsPlace (isRecursive : Bool) (body otherwise : List Statement) : Bool :=
  isRecursive || isReadFirst "loop" (mentionsOfAll body) ||
    (blocksOfAll body ++ blocksOfAll otherwise).any Block.isScoped

/-- The output of a loop, whose turns and alternative are run by steps. -/
def loopOutput (target : Target) (test : Option Expression) (items : Value) (isKnown : Bool) (anew : Option Recursion)
    (turn : List (String × Option Value) → Eval Output) (alternative : Eval Output) : Eval Output := do
  let outputs ←
    if isKnown then runKnownTurns target test items anew turn
    else runTurns (nextTurn target test) turn stepLimit #[] (← cursorOf items)
  if outputs.isEmpty then alternative else return .concat outputs

/-- The output of a value that is not made a text. -/
def putOut (v : Value) : Output := v.text?.elim (.ofStray v.typeName) .ofText

/-- The variables of all scopes around a place, as a block that sees them finds them. -/
def visibleVariables : Eval (List (String × Value)) := do
  let scopes := (← get).scopes
  return ((scopes.flatMap Scope.names).eraseDups).filterMap fun n =>
    (variableOf? n scopes).join.map fun v => (n, v)

/-- Whether a value is a choice of templates without any. A single template is a text, or not there; any other value has
to hold the names of some. -/
def isEmptyChoice (v : Value) : Eval Bool := do
  let v ← present v
  if v.text?.isSome || v.isUndefined then return false
  else if !v.isTrue then return true
  else
    let _ ← cursorOf v
    return false

mutual

/-- The output of a statement. -/
def execute : Statement → Eval Output
  | .output pieces => writePieces false pieces
  | .assign target e => do
    checkOwners target.read
    assign target (← evaluate e)
    return Output.none
  | .assignBody target filter body => do
    let outside := (← get).scopes
    let v ← within .plain [] (Symbols.afterAll (known outside) .empty body) do
      let text ← collected (executeAll body)
      match filter with
      | .enclosed => return .newText text
      | _ => withReader (fun setting => { setting with body := text }) (evaluate filter)
    if (← read).manner.escaping then assign target (.safeText (← lift (← shownForm v).toText))
    else assign target v
    return Output.none
  | .branch arms otherwise => do
    match ← executeArms arms with
    | some output => return output
    | none => executeAll otherwise
  | .loop target items test isRecursive body otherwise => do
    let v ← evaluate items
    if isRecursive then
      let identity ← newIdentity
      register identity (.recursion ⟨target, test, body, otherwise, 0, ← origin⟩)
      return putOut (← callBody identity ⟨[v], []⟩)
    else
      let outside := (← get).scopes
      let turn (given : List (String × Option Value)) : Eval Output :=
        within .loop given (Symbols.afterAll (known outside) .empty body) (executeAll body)
      loopOutput target test v (knowsPlace false body otherwise) none turn
        (within .plain [] (Symbols.afterAll (known outside) .empty otherwise) (executeAll otherwise))
  | .bindings values body => do
    let outside := (← get).scopes
    let pairs ← values.mapM fun (t, e) => do return (t, ← evaluate e)
    let names := values.flatMap fun (t, _) => t.assigned
    within .plain (names.map fun n => (n, none)) (Symbols.afterAll (known outside) .empty body) do
      for (t, v) in pairs do assign t v
      executeAll body
  | .block name isScoped isRequired _ => do
    if isRequired then throw (.malformed ("Required block " ++ Text.quoted name ++ " not found"))
    let handed := (← read).handed
    let handed ← if isScoped then do pure (putEntries (← visibleVariables) handed) else pure handed
    let identity ← newIdentity
    register identity (.block name ((entryOf? name (← read).blocks).getD []) (.outermost handed))
    perform identity .empty
  | .filterBody filter body => do
    let outside := (← get).scopes
    let v ← within .plain [] (Symbols.afterAll (known outside) .empty body) do
      let text ← collected (executeAll body)
      withReader (fun setting => { setting with body := text }) (evaluate filter)
    return putOut v
  | .escaping isOn isKnown body => do
    let outside := (← get).scopes
    within .plain [] (Symbols.afterAll (known outside) (Symbols.empty.readAll (known outside) isOn.names) body) do
      let escaping ← holds (← evaluate isOn)
      withReader (fun setting => { setting with
        manner := { setting.manner with escaping }
        escaping :=
          isKnown.elim { setting.escaping with isOpen := true } fun b => { setting.escaping with isOn := b } })
        (executeAll body)
  | .define name parameters defaults body => do
    let identity ← newIdentity
    let d : Definition := ⟨some name, parameters, defaults, body, ← origin⟩
    register identity (.definition d)
    nameDefinition name (d.toValue identity)
    return Output.none
  | .callBody parameters defaults e body => do
    let identity ← newIdentity
    let d : Definition := ⟨none, parameters, defaults, body, ← origin⟩
    register identity (.definition d)
    return putOut (← evaluate (e.withCaller (d.toValue identity)))
  | .reference kind e => do
    let v ← evaluate e
    match kind with
    | .including true =>
      if ← isEmptyChoice v then return Output.none
    | .including false =>
      if ← isEmptyChoice v then throw (.malformed "Tried to select from an empty list of templates.")
    | _ => pure ()
    throw (.wrongType "no loader for this environment specified")

/-- The output of statements, in turn. -/
def executeAll : List Statement → Eval Output
  | [] => return Output.none
  | s :: rest => do
    let output ← execute s
    return output.append (← executeAll rest)

/-- The output of the first branch whose condition holds. -/
def executeArms : List (Expression × List Statement) → Eval (Option Output)
  | [] => return none
  | (test, body) :: rest => do
    if ← holds (← evaluate test) then return some (← executeAll body)
    else executeArms rest

end

/-! ### Bodies that are called -/

/-- Settles the parameters that got no argument, in turn: each by its default if it has one. -/
def settleParameters (d : Definition) : Eval Unit :=
  d.parameters.zipIdx.forM fun (n, position) => do
    match (variableOf? n (← get).scopes).join with
    | some _ => pure ()
    | none =>
      let v ← match d.default? position with
        | some e => do bound (← evaluate e)
        | none => do pure (Definition.notProvided (← chained) n)
      modify fun run => { run with scopes := setVariable n v run.scopes }

/-- The output of a body with parameters. -/
def runDefinition (d : Definition) (a : Arguments) : Eval Output := do
  let given ← lift (d.accept (← chained) a)
  let given ← given.mapM fun (n, v) => do return (n, ← v.mapM bound)
  let outside := d.place.known.contains
  apart d.place do
    within .plain given (Symbols.afterAll outside (Symbols.empty.readAll outside (namesOfAll d.defaults)) d.body) do
      settleParameters d
      let output ← executeAll d.body
      keepVariables
      return output

/-- The output of a loop that is started anew on a value. -/
def runRecursion (r : Recursion) (items : Value) : Eval Output := do
  let outside := r.place.known.contains
  let turn (given : List (String × Option Value)) : Eval Output :=
    within .loop given (Symbols.afterAll outside .empty r.body) (executeAll r.body)
  apart r.place do
    loopOutput r.target r.test items true (some r) turn
      (within .plain [] (Symbols.afterAll outside .empty r.otherwise) (executeAll r.otherwise))

/-- The variables of a block for the template itself and for the block that it takes the place of, where they are
read. -/
def blockVariables (chained : Bool) (name : String) (mentions : List Mention) : List (String × Option Value) :=
  selfVariables mentions ++ if isReadFirst "super" mentions then [("super", some (parentBlock chained name))] else []

/-- The output of a body that was put aside. -/
def runProcedure (identity : Identity) (a : Arguments) : Eval Output := do
  match ← procedureOf? identity with
  | some (.definition d) => runDefinition d a
  | some (.recursion r) => runRecursion r (argument a.positional 0)
  | some (.block name body place) =>
    apart place do
      within .block (blockVariables (← chained) name (mentionsOfAll body))
        (Symbols.afterAll (fun _ => false) .empty body) do
        let output ← executeAll body
        keepVariables
        return output
  | none => throw (.notCallable "Macro")

/-- How many bodies can call each other. -/
def depthLimit : Nat := 195

/-- Runs bodies that were put aside, where calls in them may go so deep. -/
def performTo (setting : Setting) : Nat → CallSite → Identity → Arguments → ExceptT Fault (StateM Run) Output
  | 0, _, _, _ => throw .tooDeep
  | depth + 1, site, identity, a =>
    runProcedure identity a { setting with toCallSite := site, perform := performTo setting depth }

/-- Runs a step on data and hands on the changes of containers. What the run made itself is handed on only if an older
container was changed that may hold it. -/
def run {α : Type} (chained : Bool) (expressions : List Expression) (blocks : List (String × List Statement))
    (data : String → Option Value) (memory : Memory) (step : Eval α) : Except Fault α × Memory :=
  let setting : Setting :=
    { manner := ⟨chained, false⟩, draw := fun _ => pure none, data, handed := [], escaping := .off
      before := memory.changes, body := "", applied := appliedIn expressions, blocks
      perform := fun _ _ _ => throw .tooDeep }
  let (result, after) := (step { setting with perform := performTo setting depthLimit }).run.run .start
  (result, if after.changes.isEmpty then memory
    else ⟨after.changes ++ after.own ++ after.streams ++ memory.changes⟩)

end Eval

/-- The value of an expression that is ready to run, with the changes that it makes. A value that is not there counts
as `none`. -/
def Expression.run (e : Expression) (data : String → Option Value) (memory : Memory) : Except Fault Value × Memory :=
  let mentions := Mention.writes ["result"] ++ Mention.reads e.names
  Eval.run false [e] [] data memory do
    Eval.within .root (Eval.selfVariables mentions) (Symbols.empty.readAll (fun _ => false) e.names) do
      let v ← Eval.settled (← Eval.evaluate e)
      return if v.isUndefined then .none else v

/-- The text of a program that is ready to run, with the changes that it makes. -/
def Program.run (p : Program) (data : String → Option Value) (memory : Memory) : Except Fault String × Memory :=
  Eval.run true (expressionsOfAll p.statements) p.blocks data memory
    (Eval.within .root (Eval.selfVariables (mentionsOfAll p.statements))
      (Symbols.afterAll (fun _ => false) .empty p.statements) (Eval.collected (Eval.executeAll p.statements)))

end Courier.Language
