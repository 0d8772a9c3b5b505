import Courier.Language.Call
import Courier.Language.Constant

/-!
The value of an expression. Names stand for the variables of the scopes around them, then for what the template
assigned at its top, then for the data. Operations work on settled values, access to parts on the present content of a
container, and streams are read where they stand.
-/

namespace Courier.Language

namespace Eval

/-! ### Sameness -/

/-- Whether two expressions name the same place: the same name, or the same part of one place. -/
def samePlace : Expression → Expression → Bool
  | .name n, .name m => n == m
  | .member a n, .member b m => n == m && samePlace a b
  | .item a (.constant k), .item b (.constant l) => k.typeName == l.typeName && Value.same k l && samePlace a b
  | .item a k, .item b l => samePlace k l && samePlace a b
  | _, _ => false

/-- Whether an expression names a place, and not what was made just now. -/
def isPlace : Expression → Bool
  | .name _ => true
  | .member a _ => isPlace a
  | .item a (.constant _) => isPlace a
  | .item a k => isPlace a && isPlace k
  | _ => false

/-- Whether an expression is a name that the program gave its value. -/
def isVariable : Expression → Eval Bool
  | .name n => isAssigned n
  | _ => return false

/-- Whether the values of two expressions are one object. Of values without identity this is known by the places where
they were found, while a variable may hold the value of any place. -/
def sameValues (a b : Expression) (v w : Value) : Eval Bool := do
  if Check.sameObject v w then return true
  else if isPlace a && isPlace b && Check.mayBeOne v w then
    return samePlace a b || (← isVariable a) || (← isVariable b)
  else return false

/-! ### Arguments -/

/-- The undefined value of a missing alternative. -/
def missingAlternative (line : Nat) : Value :=
  .undefined ("the inline if-expression on line " ++ toString line ++
    " evaluated to false and no else section was defined.") false

/-- The named arguments in the entries of a present map. `shown` is the name of what is called. -/
def spreadEntries (shown : String) (v : Value) : Except Fault (List (String × Value)) :=
  match v with
  | .map _ entries => entries.mapM fun (k, w) => match k.text? with
    | some n => .ok (n, w)
    | none => .error .keywordsNotText
  | .undefined m _ => .error (.undefined m)
  | _ => .error (.wrongType (shown ++ "() argument after ** must be a mapping, not " ++ v.typeName))

/-- Adds arguments by name, which must not be given twice. -/
def addNamed (shown : String) (named : List (String × Value)) (a : Arguments) : Except Fault Arguments :=
  match named.find? fun (n, _) => (entryOf? n a.named).isSome with
  | some (n, _) =>
    .error (.wrongType (shown ++ "() got multiple values for keyword argument " ++ Text.quoted n))
  | none => .ok { a with named := a.named ++ named }

/-- Words that cannot name an argument in so many letters. Beside one of them all names stay as they are written. -/
def reservedWords : List String :=
  ["False", "None", "True", "and", "as", "assert", "async", "await", "break", "class", "continue", "def", "del", "elif",
    "else", "except", "finally", "for", "from", "global", "if", "import", "in", "is", "lambda", "nonlocal", "not", "or",
    "pass", "raise", "return", "try", "while", "with", "yield"]

/-- Whether the names of some arguments stay as they are written. -/
def keepsNames (arguments : List Argument) : Bool :=
  arguments.any fun
    | .named n _ => reservedWords.contains n
    | _ => false

/-- The items of a value that is spread over arguments. -/
def spreadItems (v : Value) : Eval (List Value) := do
  match ← observe (cursorOf v) with
  | .ok _ => itemsOf stepLimit v
  | .error (.notIterable type) => throw (.wrongType ("Value after * must be an iterable, not " ++ type))
  | .error f => throw f

/-- The name of a filter or a check in messages about its arguments. One that does not exist goes by its number. -/
def shownName (isCheck : Bool) (name : String) : Eval String := do
  if (if isCheck then Check.names else Filter.names).contains name then
    return if isCheck then Check.fullName name else Filter.fullName name
  return "root.<locals>.t_" ++ toString (((← read).applied.findIdx (· == (isCheck, name))) + 1)

/-- The fault of applying a filter or a check that does not exist. It takes arguments by position alone. -/
def missing (shown kind name : String) (a : Arguments) : Fault :=
  match a.named with
  | (n, _) :: _ => .wrongType (shown ++ "() got an unexpected keyword argument " ++ Text.quoted n)
  | [] => .malformed ("No " ++ kind ++ " named " ++ Text.quoted name ++ " found.")

/-- The name of what calls are made through, in messages. -/
def callName : String := "jinja2.sandbox.SandboxedEnvironment.call"

/-! ### Expressions -/

mutual

/-- The value of an expression. -/
def evaluate : Expression → Eval Value
  | .constant v =>
    match v.unwritable? with
    | some n => throw (.unboundName n)
    | none => return v.inProgram (← read).before.length
  | .name n => nameValue n
  | .enclosed => do
    let text := (← read).body
    return if ← escapes then .safeText text else .newText text
  | .tuple items => do return .newTuple (← evaluateAll items)
  | .list items => do return .newList (← evaluateAll items)
  | .map entries => do lift (mapOf (← evaluateEntries entries))
  | .unary operator e => do lift (Operation.unary operator (← settled (← evaluate e)))
  | .binary operator a b => do
    let v ← evaluate a
    let w ← evaluate b
    lift (Operation.binary operator (← settled v) (← settled w))
  | .both a b => do
    let v ← evaluate a
    if ← holds v then evaluate b else return v
  | .either a b => do
    let v ← evaluate a
    if ← holds v then return v else evaluate b
  | .joined parts => do
    let vs ← (← evaluateAll parts).mapM shownForm
    let escaping := (← read).escaping
    lift (if escaping.isOn && !escaping.isOpen then joinedMarked vs else joinedText vs)
  | .compare first rest => do evaluateComparisons (← evaluate first) rest
  | .choice test body otherwise line => do
    if ← holds (← evaluate test) then evaluate body
    else return (← evaluateOption otherwise).getD (missingAlternative line)
  | .member owner name => do memberOf (← evaluate owner) name
  | .item owner (.slice start stop step) => do
    let v ← evaluate owner
    let a ← evaluateOption start
    let b ← evaluateOption stop
    let c ← evaluateOption step
    lift ((← present v).sliced (a.getD .none) (b.getD .none) (c.getD .none))
  | .item owner key => do
    let v ← evaluate owner
    let k ← evaluate key
    itemOf v (← settled k)
  | .slice start stop step => do
    return .slice ((← evaluateOption start).getD .none) ((← evaluateOption stop).getD .none)
      ((← evaluateOption step).getD .none)
  | .call callee arguments => do
    let f ← evaluate callee
    let a ← evaluateArguments callName (keepsNames arguments) arguments .empty
    let positional ← a.positional.mapM bound
    let named ← a.named.mapM fun (n, v) => do return (n, ← bound v)
    call f ⟨positional, named⟩
  | .filter subject name arguments => do
    let v ← evaluate subject
    let shown ← shownName false name
    let a ← evaluateArguments shown (keepsNames arguments) arguments .empty
    if !Filter.names.contains name then throw (missing shown "filter" name a)
    applyFilter stepLimit name v a
  | .check subject "sameas" [.positional other] => do
    let v ← evaluate subject
    let w ← evaluate other
    return .bool (← sameValues subject other (← settled v) (← settled w))
  | .check subject name arguments => do
    let v ← evaluate subject
    let shown ← shownName true name
    let a ← evaluateArguments shown (keepsNames arguments) arguments .empty
    if !Check.names.contains name then throw (missing shown "test" name a)
    return .bool (← applyCheck stepLimit name v a)

/-- The values of expressions, in turn. -/
def evaluateAll : List Expression → Eval (List Value)
  | [] => return []
  | e :: rest => do
    let v ← evaluate e
    return v :: (← evaluateAll rest)

/-- The keys and values of entries, in turn. -/
def evaluateEntries : List (Expression × Expression) → Eval (List (Value × Value))
  | [] => return []
  | (k, e) :: rest => do
    let key ← evaluate k
    let v ← evaluate e
    return (key, v) :: (← evaluateEntries rest)

/-- A chain of comparisons ends with the first that fails. -/
def evaluateComparisons (left : Value) : List (Comparison × Expression) → Eval Value
  | [] => return .bool true
  | (c, e) :: rest => do
    let right ← evaluate e
    if ← compare c left right then evaluateComparisons right rest else return .bool false

/-- The value of an expression that may be missing. -/
def evaluateOption : Option Expression → Eval (Option Value)
  | none => return none
  | some e => do return some (← evaluate e)

/-- The arguments of a call behind those that are known already. `shown` is the name of what is called, and `exact`
tells that names stay as they are written. -/
def evaluateArguments (shown : String) (exact : Bool) : List Argument → Arguments → Eval Arguments
  | [], a => return a
  | .positional e :: rest, a => do
    let v ← evaluate e
    evaluateArguments shown exact rest { a with positional := a.positional ++ [v] }
  | .named n e :: rest, a => do
    let v ← evaluate e
    let named := if exact then putEntry n v a.named else a.named ++ [(Scope.slot n, v)]
    evaluateArguments shown exact rest { a with named }
  | .spread e :: rest, a => do
    let v ← evaluate e
    evaluateArguments shown exact rest { a with positional := a.positional ++ (← spreadItems v) }
  | .spreadNamed e :: rest, a => do
    let v ← present (← evaluate e)
    evaluateArguments shown exact rest (← lift (addNamed shown (← lift (spreadEntries shown v)) a))

end

end Eval

end Courier.Language
