import Courier.Language.Iteration
import Courier.Language.Method
import Courier.Language.Scope

/-!
What is known of an expression before it runs. An expression without names and calls has a constant value, which is
worked out once; where that fails the expression is left as it is and fails when it runs. Filters and checks have to
exist, except inside of conditions, where a missing one counts only if it is reached. The statements of a loop leave the
name `loop` alone.
-/

namespace Courier.Language

/-- Values that can be written into a program. -/
def Value.isWritable : Value → Bool
  | .none | .bool _ | .int _ _ | .float _ _ | .complex _ _ | .text _ _ | .safeText _ | .range _ _ _ => true
  | .tuple names items => names.isEmpty && all items
  | .list _ items => all items
  | .map _ entries => allEntries entries
  | _ => false
where
  all : List Value → Bool
    | [] => true
    | v :: rest => v.isWritable && all rest
  allEntries : List (Value × Value) → Bool
    | [] => true
    | (k, v) :: rest => k.isWritable && v.isWritable && allEntries rest

/-- The name by which a number without digits stands in a program, if one does. -/
def Value.unwritable? : Value → Option String
  | .float _ x | .complex _ x => if Number.isFinite x then Option.none
      else some (if Number.isInfinite x then "inf" else "nan")
  | .tuple _ items | .list _ items => first items
  | .map _ entries => firstEntry entries
  | _ => Option.none
where
  first : List Value → Option String
    | [] => Option.none
    | v :: rest => v.unwritable?.orElse fun _ => first rest
  firstEntry : List (Value × Value) → Option String
    | [] => Option.none
    | (k, v) :: rest => (k.unwritable?.orElse fun _ => v.unwritable?).orElse fun _ => firstEntry rest

/-- Compares two values. -/
def Eval.compare (c : Comparison) (a b : Value) : Eval Bool := do
  match c with
  | .equal => return Value.same (← settled a) (← settled b)
  | .notEqual => return !Value.same (← settled a) (← settled b)
  | .ordered relation => lift (Value.ordered relation (← settled a) (← settled b))
  | .within => contains stepLimit b a
  | .notWithin => return !(← contains stepLimit b a)

/-- The text of values put together. -/
def joinedText (values : List Value) : Except Fault Value := do
  return .ownText (String.join (← values.mapM Value.toText))

/-- The text of values put together where texts are made fit for HTML: as soon as one of them is marked, all others are
escaped. -/
def joinedMarked (values : List Value) : Except Fault Value := do
  if values.any fun | .safeText _ => true | _ => false then
    return .safeText (String.join (← values.mapM Method.escaped))
  else joinedText values

/-- A map of key and value pairs; later values of a key win. -/
def mapOf (entries : List (Value × Value)) : Except Fault Value := do
  for (k, _) in entries do
    let _ ← Value.asKey k
  return .newMap (Value.putKeys entries [])

namespace Constant

/-- What is known of a place in a program before it runs. -/
structure Place where
  /-- Which undefined values arise there, and whether texts are made fit for HTML. -/
  manner : Manner
  /-- Whether the program decides about making texts fit for HTML when it gets there. -/
  isOpen : Bool

/-- A place outside of all bodies. -/
def Place.outermost (chained : Bool) : Place := ⟨⟨chained, false⟩, false⟩

/-- The setting in which constants are worked out. -/
def Place.setting (place : Place) : Setting where
  manner := place.manner
  draw _ := pure none
  data _ := none
  handed := []
  escaping := ⟨place.manner.escaping, place.isOpen⟩
  before := []
  body := ""
  applied := []
  blocks := []
  perform _ _ _ := pure Output.none

/-- The outcome of a step that needs neither data nor scopes. -/
def outcome {α : Type} (place : Place) (step : Eval α) : Except Fault α :=
  ((step place.setting).run.run .start).1

/-- A value that is unknown before the program runs where it fails. -/
def unknown (r : Except Fault Value) : Except Fault (Option Value) := .ok r.toOption

/-- A part whose fault only means that its value is unknown. -/
def absorbed (r : Except Fault (Option Value)) : Option Value := r.toOption.join

/-- The items of a constant that is spread over arguments. -/
def spreadItems? (place : Place) (v : Value) : Option (List Value) :=
  (outcome place (Eval.itemsOf Eval.stepLimit v)).toOption

/-- The arguments by name of a constant that is spread over them. -/
def spreadEntries? (v : Value) : Option (List (String × Value)) := do
  let entries ← (Method.entriesOf v).toOption
  entries.mapM fun (k, w) => k.text?.map fun n => (n, w)

mutual

/-- The constant value of an expression, if it has one. A place that is open leaves filters and checks to the program.
-/
def valueOf? (place : Place) : Expression → Except Fault (Option Value)
  | .constant v => .ok (some v)
  | .name _ | .call _ _ | .enclosed => .ok none
  | .tuple items => do return (← valuesOf? place items).map .newTuple
  | .list items => do return (← valuesOf? place items).map .newList
  | .map entries => do
    match ← entriesOf? place entries with
    | some es => return some (← mapOf es)
    | none => return none
  | .unary operator e =>
    match absorbed (valueOf? place e) with
    | some v => unknown (Operation.unary operator v)
    | none => .ok none
  | .binary operator a b =>
    match absorbed (valueOf? place a), absorbed (valueOf? place b) with
    | some v, some w => unknown (Operation.binary operator v w)
    | _, _ => .ok none
  | .both a b => do
    match ← valueOf? place a with
    | some v => if v.isTrue then valueOf? place b else return some v
    | none => return none
  | .either a b => do
    match ← valueOf? place a with
    | some v => if v.isTrue then return some v else valueOf? place b
    | none => return none
  | .joined parts => do
    match ← valuesOf? place parts with
    | some vs => return some (← joinedText vs)
    | none => return none
  | .compare first rest => do
    match ← valueOf? place first with
    | some v => return compared? place v rest
    | none => return none
  | .choice test body otherwise _ => do
    match ← valueOf? place test with
    | none => return none
    | some v =>
      if v.isTrue then valueOf? place body
      else optionOf? place otherwise
  | .member owner name =>
    match absorbed (valueOf? place owner) with
    | some v => unknown (v.attributeOf place.manner.chained name)
    | none => .ok none
  | .item owner key =>
    match absorbed (valueOf? place owner), absorbed (valueOf? place key) with
    | some v, some k => unknown (v.item place.manner.chained k)
    | _, _ => .ok none
  | .slice start stop step => do
    match ← boundOf? place start with
    | none => return none
    | some a => match ← boundOf? place stop with
      | none => return none
      | some b => match ← boundOf? place step with
        | none => return none
        | some c => return some (.slice a b c)
  | .filter subject name arguments => do
    if place.isOpen || !Filter.names.contains name || Filter.contextual.contains name then return none
    match ← argumentsOf? place arguments .empty with
    | none => return none
    | some a => match ← valueOf? place subject with
      | some v => unknown (outcome place (Eval.applyFilter Eval.stepLimit name v a))
      | none => return none
  | .check subject name arguments => do
    if place.isOpen || !Check.names.contains name then return none
    match ← argumentsOf? place arguments .empty with
    | none => return none
    | some a => match ← valueOf? place subject with
      | some v => unknown ((outcome place (Eval.applyCheck Eval.stepLimit name v a)).map .bool)
      | none => return none

def valuesOf? (place : Place) : List Expression → Except Fault (Option (List Value))
  | [] => .ok (some [])
  | e :: rest => do
    match ← valueOf? place e with
    | none => return none
    | some v => return (← valuesOf? place rest).map (v :: ·)

def entriesOf? (place : Place) : List (Expression × Expression) → Except Fault (Option (List (Value × Value)))
  | [] => .ok (some [])
  | (k, e) :: rest => do
    match ← valueOf? place k with
    | none => return none
    | some key => match ← valueOf? place e with
      | none => return none
      | some v => return (← entriesOf? place rest).map ((key, v) :: ·)

/-- A chain of comparisons ends with the first that fails. -/
def compared? (place : Place) (left : Value) : List (Comparison × Expression) → Option Value
  | [] => some (.bool true)
  | (c, e) :: rest => do
    let right ← absorbed (valueOf? place e)
    if ← (outcome place (Eval.compare c left right)).toOption then compared? place right rest
    else return .bool false

def optionOf? (place : Place) : Option Expression → Except Fault (Option Value)
  | none => .ok none
  | some e => valueOf? place e

/-- A bound of a slice; a missing one is the value `none`. -/
def boundOf? (place : Place) : Option Expression → Except Fault (Option Value)
  | none => .ok (some .none)
  | some e => valueOf? place e

/-- Constant arguments behind those that are known already. Of arguments of one name the last one counts. -/
def argumentsOf? (place : Place) : List Argument → Arguments → Except Fault (Option Arguments)
  | [], a => .ok (some a)
  | .positional e :: rest, a => do
    match ← valueOf? place e with
    | none => return none
    | some v => argumentsOf? place rest { a with positional := a.positional ++ [v] }
  | .named n e :: rest, a => do
    match ← valueOf? place e with
    | none => return none
    | some v => argumentsOf? place rest { a with named := putEntry n v a.named }
  | .spread e :: rest, a =>
    match (absorbed (valueOf? place e)).bind (spreadItems? place) with
    | none => .ok none
    | some items => argumentsOf? place rest { a with positional := a.positional ++ items }
  | .spreadNamed e :: rest, a =>
    match (absorbed (valueOf? place e)).bind spreadEntries? with
    | none => .ok none
    | some entries => argumentsOf? place rest { a with named := putEntries entries a.named }

end

/-- The constant in place of an expression that has a value which can be written down. -/
def settled (place : Place) (e : Expression) : Except Fault Expression := do
  match ← valueOf? place e with
  | some v => return if v.isWritable then .constant v.loosened else e
  | none => return e

mutual

/-- The expression with its constant parts worked out, from the inside out. -/
def fold (place : Place) : Expression → Except Fault Expression
  | .constant v => .ok (.constant v)
  | .name n => .ok (.name n)
  | .enclosed => .ok .enclosed
  | .tuple items => do settled place (.tuple (← foldAll place items))
  | .list items => do settled place (.list (← foldAll place items))
  | .map entries => do settled place (.map (← foldEntries place entries))
  | .unary operator e => do settled place (.unary operator (← fold place e))
  | .binary operator a b => do settled place (.binary operator (← fold place a) (← fold place b))
  | .both a b => do settled place (.both (← fold place a) (← fold place b))
  | .either a b => do settled place (.either (← fold place a) (← fold place b))
  | .joined parts => do settled place (.joined (← foldAll place parts))
  | .compare first rest => do settled place (.compare (← fold place first) (← foldRest place rest))
  | .choice test body otherwise line => do
    settled place (.choice (← fold place test) (← fold place body) (← foldOption place otherwise) line)
  | .member owner name => do settled place (.member (← fold place owner) name)
  | .item owner key => do settled place (.item (← fold place owner) (← fold place key))
  | .slice a b c => do
    return .slice (← foldOption place a) (← foldOption place b) (← foldOption place c)
  | .call callee arguments => do return .call (← fold place callee) (← foldArguments place arguments)
  | .filter subject name arguments => do
    settled place (.filter (← fold place subject) name (← foldArguments place arguments))
  | .check subject name arguments => do
    settled place (.check (← fold place subject) name (← foldArguments place arguments))

def foldAll (place : Place) : List Expression → Except Fault (List Expression)
  | [] => .ok []
  | e :: rest => do return (← fold place e) :: (← foldAll place rest)

def foldEntries (place : Place) : List (Expression × Expression) → Except Fault (List (Expression × Expression))
  | [] => .ok []
  | (k, e) :: rest => do return (← fold place k, ← fold place e) :: (← foldEntries place rest)

def foldRest (place : Place) : List (Comparison × Expression) → Except Fault (List (Comparison × Expression))
  | [] => .ok []
  | (c, e) :: rest => do return (c, ← fold place e) :: (← foldRest place rest)

def foldOption (place : Place) : Option Expression → Except Fault (Option Expression)
  | none => .ok none
  | some e => do return some (← fold place e)

def foldArguments (place : Place) : List Argument → Except Fault (List Argument)
  | [] => .ok []
  | .positional e :: rest => do return .positional (← fold place e) :: (← foldArguments place rest)
  | .named n e :: rest => do return .named n (← fold place e) :: (← foldArguments place rest)
  | .spread e :: rest => do return .spread (← fold place e) :: (← foldArguments place rest)
  | .spreadNamed e :: rest => do return .spreadNamed (← fold place e) :: (← foldArguments place rest)

end

mutual

/-- The expression with its constant parts worked out. Lists, tuples and maps at the outside are kept, and each of
their parts is worked out. -/
def simplify (place : Place) : Expression → Except Fault Expression
  | .tuple items => do return .tuple (← simplifyAll place items)
  | .list items => do return .list (← simplifyAll place items)
  | .map entries => do return .map (← simplifyEntries place entries)
  | e => fold place e

def simplifyAll (place : Place) : List Expression → Except Fault (List Expression)
  | [] => .ok []
  | e :: rest => do return (← simplify place e) :: (← simplifyAll place rest)

def simplifyEntries (place : Place) :
    List (Expression × Expression) → Except Fault (List (Expression × Expression))
  | [] => .ok []
  | (k, e) :: rest => do return (← simplify place k, ← simplify place e) :: (← simplifyEntries place rest)

end

/-- The complaint about a filter or a check that does not exist. -/
def missing (kind name : String) : Fault := .malformed ("No " ++ kind ++ " named " ++ Text.quoted name ++ ".")

mutual

/-- Checks that the filters and checks of an expression exist, unless it stands in a condition, and that its constants
can be written down. -/
def check (lenient : Bool) : Expression → Except Fault Unit
  | .constant v => do
    let _ ← v.shown
  | .name _ | .enclosed => .ok ()
  | .tuple items | .list items | .joined items => checkAll lenient items
  | .map entries => checkEntries lenient entries
  | .unary _ e => check lenient e
  | .binary _ a b | .both a b | .either a b | .item a b => do
    check lenient a
    check lenient b
  | .compare first rest => do
    check lenient first
    checkRest lenient rest
  | .choice test body otherwise _ => do
    check true body
    check true test
    checkOption true otherwise
  | .member owner _ => check lenient owner
  | .slice a b c => do
    checkOption lenient a
    checkOption lenient b
    checkOption lenient c
  | .call callee arguments => do
    check lenient callee
    checkArguments lenient arguments
  | .filter subject name arguments => do
    if !lenient && !Filter.names.contains name then throw (missing "filter" name)
    check lenient subject
    checkArguments lenient arguments
  | .check subject name arguments => do
    if !lenient && !Check.names.contains name then throw (missing "test" name)
    check lenient subject
    checkArguments lenient arguments

def checkAll (lenient : Bool) : List Expression → Except Fault Unit
  | [] => .ok ()
  | e :: rest => do
    check lenient e
    checkAll lenient rest

def checkEntries (lenient : Bool) : List (Expression × Expression) → Except Fault Unit
  | [] => .ok ()
  | (k, e) :: rest => do
    check lenient k
    check lenient e
    checkEntries lenient rest

def checkRest (lenient : Bool) : List (Comparison × Expression) → Except Fault Unit
  | [] => .ok ()
  | (_, e) :: rest => do
    check lenient e
    checkRest lenient rest

def checkOption (lenient : Bool) : Option Expression → Except Fault Unit
  | none => .ok ()
  | some e => check lenient e

def checkArguments (lenient : Bool) : List Argument → Except Fault Unit
  | [] => .ok ()
  | .positional e :: rest | .named _ e :: rest | .spread e :: rest | .spreadNamed e :: rest => do
    check lenient e
    checkArguments lenient rest

end

/-- An expression that is ready to run. -/
def ready (place : Place) (lenient : Bool) (e : Expression) : Except Fault Expression := do
  let e ← if place.isOpen then pure e else simplify place e
  check lenient e
  return e

end Constant

/-- The text of a value in the output of a template: nothing for `none`, JSON for lists and maps. -/
def Value.finalized : Value → Except Fault String
  | .none => .ok ""
  | .bool b => .ok (if b then "true" else "false")
  | .list identity items => (Value.list identity items).toJson
  | .map identity entries => (Value.map identity entries).toJson
  | v => v.toText

namespace Constant

/-- The text of an output piece, if it is known. What fails is left to fail when the program gets there. -/
def knownText? (place : Place) (e : Expression) : Option String := do
  let v ← absorbed (valueOf? place e)
  if place.manner.escaping then (Method.escaped v).toOption else v.finalized.toOption

/-- An output piece, as a text if that is known. -/
def knownPiece (place : Place) : Piece → Piece
  | .text s => .text s
  | .value e => (knownText? place e).elim (.value e) .text

/-- An output piece that is ready to run. -/
def readyPiece (place : Place) (lenient : Bool) : Piece → Except Fault Piece
  | .text s => .ok (.text s)
  | .value e => do return .value (← ready place lenient e)

/-- What is known inside of a body in which texts are made fit for HTML or not. -/
def Place.within (place : Place) (known : Option Bool) : Place :=
  match known with
  | some isOn => { place with manner := { place.manner with escaping := isOn } }
  | none => { place with isOpen := true }

/-- Checks that what is written beside a call has a default if it is a parameter of a body that reads it. -/
def checkCaller (parameters : List String) (defaults : List Expression) (body : List Statement) : Except Fault Unit :=
  if isReadFirst callerName (mentionsOfAll body) &&
      (parameters.take (parameters.length - defaults.length)).contains callerName then
    .error (.malformed ("When defining macros or call blocks the special \"caller\" argument must be omitted or be " ++
      "given a default."))
  else .ok ()

mutual

/-- A statement that is ready to run. The bodies of blocks are made ready by themselves. -/
def readyStatement (place : Place) (lenient : Bool) : Statement → Except Fault Statement
  | .output pieces => do return .output (← (pieces.map (knownPiece place)).mapM (readyPiece place lenient))
  | .assign target e => do return .assign target (← ready place lenient e)
  | .assignBody target filter body => do
    let body ← readyStatements place false body
    return .assignBody target (← ready place false filter) body
  | .branch arms otherwise => do
    return .branch (← readyArms place arms) (← readyStatements place true otherwise)
  | .loop target items test isRecursive body otherwise => do
    let test ← match test with
      | some e => do pure (some (← ready place false e))
      | none => pure none
    if (target.assigned ++ storedByAll body ++ storedByAll otherwise).contains "loop" then
      throw (.malformed "Can't assign to special loop variable in for-loop")
    let items ← ready place lenient items
    return .loop target items test isRecursive (← readyStatements place false body)
      (← readyStatements place false otherwise)
  | .bindings values body => do
    let values ← values.mapM fun (t, e) => do return (t, ← ready place lenient e)
    return .bindings values (← readyStatements place false body)
  | .block name isScoped isRequired body => .ok (.block name isScoped isRequired body)
  | .filterBody filter body => do
    let body ← readyStatements place false body
    return .filterBody (← ready place false filter) body
  | .escaping isOn _ body => do
    let known := (absorbed (valueOf? place isOn)).map Value.isTrue
    return .escaping (← ready place lenient isOn) known (← readyStatements (place.within known) false body)
  | .define name parameters defaults body => do
    checkCaller parameters defaults body
    return .define name parameters (← defaults.mapM (ready place false)) (← readyStatements place false body)
  | .callBody parameters defaults call body => do
    checkCaller parameters defaults body
    let defaults ← defaults.mapM (ready place false)
    let body ← readyStatements place false body
    return .callBody parameters defaults (← ready place lenient call) body
  | .reference kind e => do return .reference kind (← ready place lenient e)

def readyStatements (place : Place) (lenient : Bool) : List Statement → Except Fault (List Statement)
  | [] => .ok []
  | s :: rest => do return (← readyStatement place lenient s) :: (← readyStatements place lenient rest)

def readyArms (place : Place) : List (Expression × List Statement) → Except Fault (List (Expression × List Statement))
  | [] => .ok []
  | (e, body) :: rest => do
    let test ← ready place true e
    let body ← readyStatements place true body
    return (test, body) :: (← readyArms place rest)

end

end Constant

/-- A program that is ready to run. -/
def Program.ready (p : Program) : Except Fault Program := do
  let place := Constant.Place.outermost true
  let statements ← Constant.readyStatements place false p.statements
  return ⟨statements, ← p.blocks.mapM fun (n, body) => do return (n, ← Constant.readyStatements place false body)⟩

end Courier.Language
