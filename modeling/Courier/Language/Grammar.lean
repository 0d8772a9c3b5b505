import Courier.Language.Expression
import Courier.Language.Token.Reader

/-!
The grammar of expressions. From weak to strong: a choice, `or`, `and`, `not`, comparisons, sums, `~`, products,
powers, signs, and then what follows a value: attributes, items, calls, filters and checks. Powers bind weaker than
signs and to the left. The parser's state is the list of tokens ahead; the fuel is above their number wherever the
grammar can go on.
-/

namespace Courier.Language

namespace Grammar

/-- A parser: a function of the tokens ahead. -/
abbrev Parse (α : Type) := StateT (List PlacedToken) (Except Fault) α

/-- Stops with a message. -/
def fail {α : Type} (message : String) : Parse α := throw (.malformed message)

/-- The token ahead with its line. -/
def ahead : Parse PlacedToken := do
  return (← get).headD ⟨.ending, 1⟩

/-- The token ahead. -/
def current : Parse Token := do return (← ahead).token

/-- Moves to the next token. A fault counts once it is reached. -/
def advance : Parse Unit := do
  match ← get with
  | _ :: next :: rest =>
    match next.token with
    | .fault cause => throw cause
    | _ => set (next :: rest)
  | _ => pure ()

/-- The token after the one ahead. -/
def second : Parse Token := do
  match ← get with
  | _ :: next :: _ =>
    match next.token with
    | .fault cause => throw cause
    | token => return token
  | _ => return .ending

/-- Takes the token ahead if it passes a test, and complains with the words for what was expected if not. -/
def expect (expected : String) (test : Token → Bool) : Parse Token := do
  let token ← current
  if test token then
    advance
    return token
  match token with
  | .ending => fail ("unexpected end of template, expected " ++ Text.quoted expected ++ ".")
  | _ => fail ("expected token " ++ Text.quoted expected ++ ", got " ++ Text.quoted token.described)

/-- Takes an operator. -/
def expectOperator (sign : String) : Parse Unit := do let _ ← expect sign (Token.isOperator sign)

/-- Takes a word. -/
def expectWord (word : String) : Parse Unit := do let _ ← expect word (Token.isWord word)

/-- Takes any name. -/
def expectName : Parse String := do
  match ← expect "name" fun
    | .name _ => true
    | _ => false with
  | .name n => return n
  | _ => return ""

/-- Takes the token ahead if it passes a test. -/
def skipIf (test : Token → Bool) : Parse Bool := do
  if test (← current) then
    advance
    return true
  return false

/-- The comparison that a token stands for. -/
def comparison? : Token → Option Comparison
  | .operator "==" => some .equal
  | .operator "!=" => some .notEqual
  | .operator "<" => some (.ordered .less)
  | .operator "<=" => some (.ordered .lessEqual)
  | .operator ">" => some (.ordered .greater)
  | .operator ">=" => some (.ordered .greaterEqual)
  | _ => none

/-- The operators of sums. -/
def sumOperator? : Token → Option BinaryOperator
  | .operator "+" => some .add
  | .operator "-" => some .subtract
  | _ => none

/-- The operators of products. -/
def productOperator? : Token → Option BinaryOperator
  | .operator "*" => some .multiply
  | .operator "/" => some .divide
  | .operator "//" => some .floorDivide
  | .operator "%" => some .remainder
  | _ => none

/-- The operator of powers. -/
def powerOperator? : Token → Option BinaryOperator
  | .operator "**" => some .power
  | _ => none

/-- How a list of expressions stands: whether its items may be choices, whether there are parentheses around it, and
what ends it beside the usual. -/
structure TupleStyle where
  withChoice : Bool
  inParentheses : Bool
  /-- A word that ends the list. -/
  endWord : Option String

/-- The list in an output tag. -/
def outputStyle : TupleStyle := ⟨true, false, none⟩

/-- The list between parentheses. -/
def parenthesisStyle : TupleStyle := ⟨true, true, none⟩

/-- Whether a token ends a list of expressions. -/
def endsTuple (endWord : Option String) (token : Token) : Bool :=
  token.endsTag || token.isOperator ")" || endWord.any fun w => token.isWord w

/-- Tokens that start the argument of a check written without parentheses. -/
def startsArgument : Token → Bool
  | .name w => w != "else" && w != "or" && w != "and"
  | .string _ | .integer _ | .float _ => true
  | .operator s => s == "(" || s == "[" || s == "\x7b"
  | _ => false

/-- What was given so far between the parentheses of a call. -/
structure Given where
  hasNamed : Bool
  hasSpread : Bool
  hasSpreadNamed : Bool

/-- Texts next to each other are one text. -/
def adjacentStrings : Nat → Parse String
  | 0 => return ""
  | fuel + 1 => do
    match ← current with
    | .string s => do
      advance
      return s ++ (← adjacentStrings fuel)
    | _ => return ""

/-- A name with points in it, after its first part. -/
def dottedName : Nat → String → Parse String
  | 0, name => return name
  | fuel + 1, name => do
    if ← skipIf (Token.isOperator ".") then
      let part ← expectName
      dottedName fuel (name ++ "." ++ part)
    else return name

/-- The names that stand for constants. -/
def namedConstant? (name : String) : Option Value :=
  if name == "true" || name == "True" then some (.bool true)
  else if name == "false" || name == "False" then some (.bool false)
  else if name == "none" || name == "None" then some .none
  else none

/-- Fails where an expression should stand. -/
def missingExpression {α : Type} : Parse α := do
  fail ("Expected an expression, got " ++ Text.quoted (← current).described)

mutual

/-- Any expression. -/
def expression : Nat → Parse Expression
  | 0 => fail "expression nested too deeply"
  | fuel + 1 => do
    let line := (← ahead).line
    let first ← disjunction fuel
    choices fuel line first

/-- Choices that follow an expression. -/
def choices : Nat → Nat → Expression → Parse Expression
  | 0, _, first => return first
  | fuel + 1, line, first => do
    if ← skipIf (Token.isWord "if") then
      let test ← disjunction fuel
      let otherwise ← if ← skipIf (Token.isWord "else") then do pure (some (← expression fuel)) else pure none
      let next := (← ahead).line
      choices fuel next (.choice test first otherwise line)
    else return first

def disjunction : Nat → Parse Expression
  | 0 => fail "expression nested too deeply"
  | fuel + 1 => do
    let first ← conjunction fuel
    moreDisjuncts fuel first

def moreDisjuncts : Nat → Expression → Parse Expression
  | 0, left => return left
  | fuel + 1, left => do
    if ← skipIf (Token.isWord "or") then
      let right ← conjunction fuel
      moreDisjuncts fuel (.either left right)
    else return left

def conjunction : Nat → Parse Expression
  | 0 => fail "expression nested too deeply"
  | fuel + 1 => do
    let first ← negation fuel
    moreConjuncts fuel first

def moreConjuncts : Nat → Expression → Parse Expression
  | 0, left => return left
  | fuel + 1, left => do
    if ← skipIf (Token.isWord "and") then
      let right ← negation fuel
      moreConjuncts fuel (.both left right)
    else return left

def negation : Nat → Parse Expression
  | 0 => fail "expression nested too deeply"
  | fuel + 1 => do
    if ← skipIf (Token.isWord "not") then
      return .unary .not (← negation fuel)
    else comparisons fuel

def comparisons : Nat → Parse Expression
  | 0 => fail "expression nested too deeply"
  | fuel + 1 => do
    let first ← sum fuel
    match ← moreComparisons fuel with
    | [] => return first
    | rest => return .compare first rest

def moreComparisons : Nat → Parse (List (Comparison × Expression))
  | 0 => return []
  | fuel + 1 => do
    let token ← current
    match comparison? token with
    | some c => do
      advance
      let right ← sum fuel
      return (c, right) :: (← moreComparisons fuel)
    | none =>
      if ← skipIf (Token.isWord "in") then
        let right ← sum fuel
        return (.within, right) :: (← moreComparisons fuel)
      else if token.isWord "not" then
        if (← second).isWord "in" then
          advance
          advance
          let right ← sum fuel
          return (.notWithin, right) :: (← moreComparisons fuel)
        else return []
      else return []

def sum : Nat → Parse Expression
  | 0 => fail "expression nested too deeply"
  | fuel + 1 => do
    let first ← joining fuel
    moreTerms fuel first

def moreTerms : Nat → Expression → Parse Expression
  | 0, left => return left
  | fuel + 1, left => do
    match sumOperator? (← current) with
    | some operator => do
      advance
      let right ← joining fuel
      moreTerms fuel (.binary operator left right)
    | none => return left

def joining : Nat → Parse Expression
  | 0 => fail "expression nested too deeply"
  | fuel + 1 => do
    let first ← product fuel
    match ← moreParts fuel with
    | [] => return first
    | rest => return .joined (first :: rest)

def moreParts : Nat → Parse (List Expression)
  | 0 => return []
  | fuel + 1 => do
    if ← skipIf (Token.isOperator "~") then
      let part ← product fuel
      return part :: (← moreParts fuel)
    else return []

def product : Nat → Parse Expression
  | 0 => fail "expression nested too deeply"
  | fuel + 1 => do
    let first ← power fuel
    moreFactors fuel first

def moreFactors : Nat → Expression → Parse Expression
  | 0, left => return left
  | fuel + 1, left => do
    match productOperator? (← current) with
    | some operator => do
      advance
      let right ← power fuel
      moreFactors fuel (.binary operator left right)
    | none => return left

def power : Nat → Parse Expression
  | 0 => fail "expression nested too deeply"
  | fuel + 1 => do
    let first ← signed fuel true
    morePowers fuel first

def morePowers : Nat → Expression → Parse Expression
  | 0, left => return left
  | fuel + 1, left => do
    match powerOperator? (← current) with
    | some operator => do
      advance
      let right ← signed fuel true
      morePowers fuel (.binary operator left right)
    | none => return left

/-- A value with its signs, and what follows it; filters and checks belong to the outermost sign. -/
def signed : Nat → Bool → Parse Expression
  | 0, _ => fail "expression nested too deeply"
  | fuel + 1, withFilters => do
    let token ← current
    let value ←
      if token.isOperator "-" then do
        advance
        pure (.unary .negate (← signed fuel false))
      else if token.isOperator "+" then do
        advance
        pure (.unary .affirm (← signed fuel false))
      else primary fuel
    let value ← suffixes fuel value
    if withFilters then filters fuel value else return value

/-- A name, a literal, or something in brackets. -/
def primary : Nat → Parse Expression
  | 0 => fail "expression nested too deeply"
  | fuel + 1 => do
    let token ← current
    match token with
    | .name n =>
      advance
      return ((namedConstant? n).map .constant).getD (.name n)
    | .string _ => return .constant (.newText (← adjacentStrings fuel))
    | .integer i =>
      advance
      return .constant (.newInt i)
    | .float x =>
      advance
      return .constant (.newFloat x)
    | .operator "(" =>
      advance
      let value ← tuple fuel parenthesisStyle
      expectOperator ")"
      return value
    | .operator "[" =>
      advance
      let items ← listItems fuel true
      expectOperator "]"
      return .list items
    | .operator "\x7b" =>
      advance
      let entries ← mapEntries fuel true
      expectOperator "\x7d"
      return .map entries
    | _ => fail ("unexpected " ++ Text.quoted token.described)

/-- Expressions between commas, as a tuple if there is a comma. -/
def tuple : Nat → TupleStyle → Parse Expression
  | 0, _ => fail "expression nested too deeply"
  | fuel + 1, style => do
    let (items, isTuple) ← tupleItems fuel style true
    match items, isTuple with
    | [item], false => return item
    | [], false =>
      if style.inParentheses then return .tuple []
      else missingExpression
    | _, _ => return .tuple items

/-- The items of a tuple, and whether a comma follows one of them. -/
def tupleItems : Nat → TupleStyle → Bool → Parse (List Expression × Bool)
  | 0, _, _ => return ([], false)
  | fuel + 1, style, isFirst => do
    if !isFirst then expectOperator ","
    if endsTuple style.endWord (← current) then return ([], false)
    let item ← if style.withChoice then expression fuel else disjunction fuel
    if (← current).isOperator "," then
      let (rest, _) ← tupleItems fuel style false
      return (item :: rest, true)
    else return ([item], false)

def listItems : Nat → Bool → Parse (List Expression)
  | 0, _ => return []
  | fuel + 1, isFirst => do
    if (← current).isOperator "]" then return []
    if !isFirst then expectOperator ","
    if (← current).isOperator "]" then return []
    let item ← expression fuel
    return item :: (← listItems fuel false)

def mapEntries : Nat → Bool → Parse (List (Expression × Expression))
  | 0, _ => return []
  | fuel + 1, isFirst => do
    if (← current).isOperator "\x7d" then return []
    if !isFirst then expectOperator ","
    if (← current).isOperator "\x7d" then return []
    let key ← expression fuel
    expectOperator ":"
    let value ← expression fuel
    return (key, value) :: (← mapEntries fuel false)

/-- Attributes, items and calls that follow a value. -/
def suffixes : Nat → Expression → Parse Expression
  | 0, value => return value
  | fuel + 1, value => do
    let token ← current
    if token.isOperator "." then
      advance
      let part ← current
      advance
      match part with
      | .name n => suffixes fuel (.member value n)
      | .integer i => suffixes fuel (.item value (.constant (.newInt i)))
      | _ => fail "expected name or number"
    else if token.isOperator "[" then
      advance
      let keys ← subscripts fuel true
      expectOperator "]"
      match keys with
      | [key] => suffixes fuel (.item value key)
      | _ => suffixes fuel (.item value (.tuple keys))
    else if token.isOperator "(" then
      advance
      let given ← arguments fuel true ⟨false, false, false⟩
      suffixes fuel (.call value given)
    else return value

def subscripts : Nat → Bool → Parse (List Expression)
  | 0, _ => return []
  | fuel + 1, isFirst => do
    if (← current).isOperator "]" then return []
    if !isFirst then expectOperator ","
    let key ← subscript fuel
    return key :: (← subscripts fuel false)

/-- A key or a slice. -/
def subscript : Nat → Parse Expression
  | 0 => fail "expression nested too deeply"
  | fuel + 1 => do
    if ← skipIf (Token.isOperator ":") then
      sliceEnd fuel none
    else
      let key ← expression fuel
      if ← skipIf (Token.isOperator ":") then sliceEnd fuel (some key) else return key

/-- The end and the step of a slice. -/
def sliceEnd : Nat → Option Expression → Parse Expression
  | 0, _ => fail "expression nested too deeply"
  | fuel + 1, start => do
    let stop ← if (← current).isOperator ":" then pure none else bound fuel
    let step ← if ← skipIf (Token.isOperator ":") then bound fuel else pure none
    return .slice start stop step

/-- A bound of a slice, if there is one. -/
def bound : Nat → Parse (Option Expression)
  | 0 => return none
  | fuel + 1 => do
    let token ← current
    if token.isOperator "]" || token.isOperator "," then return none
    return some (← expression fuel)

/-- The arguments of a call after its parenthesis. -/
def arguments : Nat → Bool → Given → Parse (List Argument)
  | 0, _, _ => return []
  | fuel + 1, isFirst, given => do
    if ← skipIf (Token.isOperator ")") then return []
    if !isFirst then expectOperator ","
    if !isFirst && (← current).isOperator ")" then
      advance
      return []
    let token ← current
    if token.isOperator "*" then
      if given.hasSpread || given.hasSpreadNamed then fail "invalid syntax for function call expression"
      advance
      let value ← expression fuel
      return .spread value :: (← arguments fuel false { given with hasSpread := true })
    else if token.isOperator "**" then
      if given.hasSpreadNamed then fail "invalid syntax for function call expression"
      advance
      let value ← expression fuel
      return .spreadNamed value :: (← arguments fuel false { given with hasSpreadNamed := true })
    else
      let named ← match token with
        | .name n => do if (← second).isOperator "=" then pure (some n) else pure none
        | _ => pure none
      match named with
      | some n =>
        if given.hasSpreadNamed then fail "invalid syntax for function call expression"
        advance
        advance
        let value ← expression fuel
        return .named n value :: (← arguments fuel false { given with hasNamed := true })
      | none =>
        if given.hasSpread || given.hasSpreadNamed || given.hasNamed then
          fail "invalid syntax for function call expression"
        let value ← expression fuel
        return .positional value :: (← arguments fuel false given)

/-- Arguments in parentheses, if there are any. -/
def optionalArguments : Nat → Parse (List Argument)
  | 0 => return []
  | fuel + 1 => do
    if ← skipIf (Token.isOperator "(") then arguments fuel true ⟨false, false, false⟩ else return []

/-- Filters, checks and calls that follow a value. -/
def filters : Nat → Expression → Parse Expression
  | 0, value => return value
  | fuel + 1, value => do
    let token ← current
    if token.isOperator "|" then
      advance
      let value ← filter fuel value
      filters fuel value
    else if token.isWord "is" then
      advance
      let value ← check fuel value
      filters fuel value
    else if token.isOperator "(" then
      advance
      let given ← arguments fuel true ⟨false, false, false⟩
      filters fuel (.call value given)
    else return value

/-- The name and the arguments of a filter. -/
def filter : Nat → Expression → Parse Expression
  | 0, value => return value
  | fuel + 1, value => do
    let name ← dottedName fuel (← expectName)
    let given ← optionalArguments fuel
    return .filter value name given

/-- The name and the arguments of a check, and whether it is turned round. -/
def check : Nat → Expression → Parse Expression
  | 0, value => return value
  | fuel + 1, value => do
    let negated ← skipIf (Token.isWord "not")
    let name ← dottedName fuel (← expectName)
    let token ← current
    let given ←
      if token.isOperator "(" then do
        advance
        arguments fuel true ⟨false, false, false⟩
      else if startsArgument token then do
        if token.isWord "is" then fail "You cannot chain multiple tests with is"
        let value ← primary fuel
        pure [.positional (← suffixes fuel value)]
      else pure []
    let result := Expression.check value name given
    return if negated then .unary .not result else result

end

/-- The fuel for a number of tokens: more than the depth of the grammar for each. -/
def fuelFor (tokens : List PlacedToken) : Nat := 32 * tokens.length + 64

/-- Starts a parser on a list of tokens. -/
def start {α : Type} (parse : Parse α) (tokens : List PlacedToken) : Except Fault α := do
  return (← parse.run tokens).1

/-- An expression that makes up the whole text. -/
def parseExpression (source : String) : Except Fault Expression := do
  let tokens := Token.readExpression source
  match tokens with
  | ⟨.fault cause, line⟩ :: _ =>
    match cause with
    | .malformed message => throw (.malformed (message ++ "\n  line " ++ toString line))
    | other => throw other
  | _ => pure ()
  start (do
    let e ← expression (fuelFor tokens)
    match ← current with
    | .ending => return e
    | _ => fail "chunk after expression") tokens

end Grammar

end Courier.Language
