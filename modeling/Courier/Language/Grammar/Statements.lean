import Courier.Language.Grammar
import Courier.Language.Statement

/-!
The grammar of templates. Tags that enclose other statements look for the words that end them; the messages about a
missing or misplaced end name the words that are looked for and the tag that is still open.
-/

namespace Courier.Language

namespace Grammar

/-- The tags that are open, the innermost first, and the words that each of them looks for. -/
structure Open where
  tags : List String
  ends : List (List String)

/-- The complaint about an unknown tag, or about the end of the text. -/
def misplaced (opened : Open) (tag : Option String) : String :=
  let start := match tag with
    | none => "Unexpected end of template."
    | some t => "Encountered unknown tag " ++ Text.quoted t ++ "."
  let looking := match opened.ends with
    | [] => ""
    | words :: _ => Text.join " or " (words.map fun w => "'" ++ w ++ "'")
  let expectation :=
    if opened.ends.isEmpty then ""
    else if tag.any fun t => opened.ends.any (·.contains t) then
      " You probably made a nesting mistake. Jinja is expecting this tag, but currently looking for " ++ looking ++ "."
    else " Jinja was looking for the following tags: " ++ looking ++ "."
  let innermost := match opened.tags with
    | [] => ""
    | t :: _ => " The innermost block that needs to be closed is " ++ Text.quoted t ++ "."
  start ++ expectation ++ innermost

/-- Takes the end of a statement tag. -/
def expectBlockEnd : Parse Unit := do
  let _ ← expect "end of statement block" fun
    | .blockEnd => true
    | _ => false

/-- Collected pieces of output as a statement. -/
def flush (pieces : List Piece) : List Statement := if pieces.isEmpty then [] else [.output pieces]

mutual

/-- A target, if an expression is one. -/
def asTarget? : Expression → Option Target
  | .name n => some (.name n)
  | .tuple items => (asTargets? items).map .tuple
  | _ => none

def asTargets? : List Expression → Option (List Target)
  | [] => some []
  | e :: rest => do
    let t ← asTarget? e
    let ts ← asTargets? rest
    some (t :: ts)

end

/-- What stands where a target should: the target, or else the form of the expression in its place. -/
abbrev Candidate := Except String Target

/-- A name, perhaps with a field behind it, or something else in the place of a target. -/
def candidate (fuel : Nat) (withFields : Bool) : Parse Candidate := do
  match ← current with
  | .name n =>
    if withFields && (namedConstant? n).isNone then
      if (← second).isOperator "." then
        advance
        advance
        return .ok (.field n (← expectName))
  | _ => pure ()
  let e ← primary fuel
  return (asTarget? e).elim (.error e.formName) .ok

/-- Candidates between commas, and whether a comma follows one of them. -/
def candidates : Nat → Bool → Option String → Bool → Parse (List Candidate × Bool)
  | 0, _, _, _ => return ([], false)
  | fuel + 1, withFields, endWord, isFirst => do
    if !isFirst then expectOperator ","
    if endsTuple endWord (← current) then return ([], false)
    let first ← candidate fuel withFields
    if (← current).isOperator "," then
      let (rest, _) ← candidates fuel withFields endWord false
      return (first :: rest, true)
    else return ([first], false)

/-- What a value is assigned to. `withFields` tells that fields of namespaces may stand in it. -/
def target (fuel : Nat) (withFields : Bool) (endWord : Option String) : Parse Target := do
  let refused (form : String) : Parse Target := fail ("can't assign to " ++ Text.quoted form)
  match ← candidates fuel withFields endWord true with
  | ([], false) => missingExpression
  | ([.ok t], false) => return t
  | ([.error form], false) => refused form
  | (all, _) => match all.mapM Except.toOption with
    | some ts => return .tuple ts
    | none => refused "tuple"

/-- A single name as a target. -/
def targetName : Parse String := do
  let n ← expectName
  if (namedConstant? n).isSome then fail "can't assign to 'name'" else return n

/-- The names and defaults of parameters, after their parenthesis. -/
def parameters : Nat → Bool → Bool → Parse (List String × List Expression)
  | 0, _, _ => return ([], [])
  | fuel + 1, isFirst, hasDefaults => do
    if (← current).isOperator ")" then return ([], [])
    if !isFirst then expectOperator ","
    let n ← targetName
    if ← skipIf (Token.isOperator "=") then
      let default ← expression fuel
      let (names, defaults) ← parameters fuel false true
      return (n :: names, default :: defaults)
    else
      if hasDefaults then fail "non-default argument follows default argument"
      let (names, defaults) ← parameters fuel false false
      return (n :: names, defaults)

/-- The parameters of a definition in parentheses. -/
def signature (fuel : Nat) : Parse (List String × List Expression) := do
  expectOperator "("
  let result ← parameters fuel true false
  expectOperator ")"
  return result

/-- Words that say whether the names of the context are passed on. -/
def contextWords : Parse Bool := do
  let token ← current
  if token.isWord "with" || token.isWord "without" then
    if (← second).isWord "context" then
      advance
      advance
      return true
  return false

/-- The names that are taken out of another template. -/
def importedNames : Nat → Bool → Parse Unit
  | 0, _ => return ()
  | fuel + 1, isFirst => do
    if !isFirst then expectOperator ","
    match ← current with
    | .name _ =>
      if ← contextWords then return ()
      let n ← targetName
      if n.startsWith "_" then fail "names starting with an underline can not be imported"
      if ← skipIf (Token.isWord "as") then
        let _ ← targetName
      if ← contextWords then return ()
      if (← current).isOperator "," then importedNames fuel false
    | _ =>
      let _ ← expectName
      return ()

/-- Expressions between commas up to the end of the tag. -/
def printed : Nat → Bool → Parse (List Piece)
  | 0, _ => return []
  | fuel + 1, isFirst => do
    match ← current with
    | .blockEnd => return []
    | _ =>
      if !isFirst then expectOperator ","
      let e ← expression fuel
      return .value e :: (← printed fuel false)

/-- Targets with their values up to the end of the tag. -/
def bindingList : Nat → Bool → Parse (List (Target × Expression))
  | 0, _ => return []
  | fuel + 1, isFirst => do
    match ← current with
    | .blockEnd => return []
    | _ =>
      if !isFirst then expectOperator ","
      let t ← target fuel false none
      expectOperator "="
      let e ← expression fuel
      return (t, e) :: (← bindingList fuel false)

/-- The filters of a block, each applied to the one before. -/
def blockFilters : Nat → Expression → Parse Expression
  | 0, value => return value
  | fuel + 1, value => do
    if ← skipIf (Token.isOperator "|") then
      blockFilters fuel (← filter fuel value)
    else return value

/-- Whether a statement puts out nothing but blanks. -/
def isBlankOutput : Statement → Bool
  | .output pieces => pieces.all fun
    | .text s => !s.isEmpty && Text.isBlankText s
    | .value _ => false
  | _ => false

mutual

/-- Statements up to one of the words that end them, or to the end of the text; `pieces` is the output collected so
far. -/
def statements : Nat → Open → List String → List Piece → Parse (List Statement)
  | 0, _, _, pieces => return flush pieces
  | fuel + 1, opened, stops, pieces => do
    match ← current with
    | .text s =>
      advance
      statements fuel opened stops (pieces ++ [.text s])
    | .variableBegin =>
      advance
      let e ← tuple fuel outputStyle
      let _ ← expect "end of print statement" fun
        | .variableEnd => true
        | _ => false
      statements fuel opened stops (pieces ++ [.value e])
    | .blockBegin =>
      advance
      let token ← current
      if stops.any fun w => token.isWord w then return flush pieces
      let s ← statement fuel opened
      expectBlockEnd
      return flush pieces ++ s :: (← statements fuel opened stops [])
    | _ => return flush pieces

/-- The statements of a tag, up to one of the words that end it; the word is still ahead. -/
def enclosed : Nat → Open → List String → Parse (List Statement)
  | 0, _, _ => return []
  | fuel + 1, opened, stops => do
    let _ ← skipIf (Token.isOperator ":")
    expectBlockEnd
    let inner : Open := ⟨opened.tags, stops :: opened.ends⟩
    let result ← statements fuel inner stops []
    match ← current with
    | .ending => fail (misplaced inner none)
    | _ => return result

/-- The statements of a tag, with the one word that ends it. -/
def closed : Nat → Open → String → Parse (List Statement)
  | 0, _, _ => return []
  | fuel + 1, opened, stop => do
    let result ← enclosed fuel opened [stop]
    advance
    return result

/-- The branches of a condition after the first word. -/
def arms : Nat → Open → Parse (List (Expression × List Statement) × List Statement)
  | 0, _ => return ([], [])
  | fuel + 1, opened => do
    let test ← tuple fuel ⟨false, false, none⟩
    let body ← enclosed fuel opened ["elif", "else", "endif"]
    let token ← current
    advance
    if token.isWord "elif" then
      let (rest, otherwise) ← arms fuel opened
      return ((test, body) :: rest, otherwise)
    else if token.isWord "else" then
      return ([(test, body)], ← closed fuel opened "endif")
    else return ([(test, body)], [])

/-- One statement; its tag is open while it is read. -/
def statement : Nat → Open → Parse Statement
  | 0, _ => fail "statement nested too deeply"
  | fuel + 1, outer => do
    match ← current with
    | .name tag =>
      let opened : Open := ⟨tag :: outer.tags, outer.ends⟩
      match tag with
      | "for" =>
        advance
        let t ← target fuel false (some "in")
        expectWord "in"
        let items ← tuple fuel ⟨false, false, some "recursive"⟩
        let test ← if ← skipIf (Token.isWord "if") then do pure (some (← expression fuel)) else pure none
        let isRecursive ← skipIf (Token.isWord "recursive")
        let body ← enclosed fuel opened ["endfor", "else"]
        let token ← current
        advance
        let otherwise ← if token.isWord "endfor" then pure [] else closed fuel opened "endfor"
        return .loop t items test isRecursive body otherwise
      | "if" =>
        advance
        let (branches, otherwise) ← arms fuel opened
        return .branch branches otherwise
      | "set" =>
        advance
        let t ← target fuel true none
        if ← skipIf (Token.isOperator "=") then
          return .assign t (← tuple fuel outputStyle)
        else
          let filter ← blockFilters fuel .enclosed
          return .assignBody t filter (← closed fuel opened "endset")
      | "with" =>
        advance
        let values ← bindingList fuel true
        return .bindings values (← closed fuel opened "endwith")
      | "autoescape" =>
        advance
        let isOn ← expression fuel
        return .escaping isOn none (← closed fuel opened "endautoescape")
      | "block" =>
        advance
        let name ← expectName
        let isScoped ← skipIf (Token.isWord "scoped")
        let isRequired ← skipIf (Token.isWord "required")
        if (← current).isOperator "-" then
          fail ("Block names in Jinja have to be valid Python identifiers and may not contain hyphens, use an " ++
            "underscore instead.")
        let body ← closed fuel opened "endblock"
        if isRequired && !body.all isBlankOutput then
          fail "Required blocks can only contain comments or whitespace"
        let _ ← skipIf (Token.isWord name)
        return .block name isScoped isRequired body
      | "filter" =>
        advance
        let filter ← blockFilters fuel (← filter fuel .enclosed)
        return .filterBody filter (← closed fuel opened "endfilter")
      | "print" =>
        advance
        return .output (← printed fuel true)
      | "macro" =>
        advance
        let name ← targetName
        let (names, defaults) ← signature fuel
        return .define name names defaults (← closed fuel opened "endmacro")
      | "call" =>
        advance
        let (names, defaults) ← if (← current).isOperator "(" then signature fuel else pure ([], [])
        let call ← expression fuel
        match call with
        | .call _ _ => return .callBody names defaults call (← closed fuel opened "endcall")
        | _ => fail "expected call"
      | "extends" =>
        advance
        return .reference .extending (← expression fuel)
      | "include" =>
        advance
        let template ← expression fuel
        let maySkip := (← current).isWord "ignore" && (← second).isWord "missing"
        if maySkip then
          advance
          advance
        let _ ← contextWords
        return .reference (.including maySkip) template
      | "import" =>
        advance
        let template ← expression fuel
        expectWord "as"
        let _ ← targetName
        let _ ← contextWords
        return .reference .importing template
      | "from" =>
        advance
        let template ← expression fuel
        expectWord "import"
        importedNames fuel true
        return .reference .importing template
      | _ => fail (misplaced outer (some tag))
    | _ => fail "tag name expected"

end

/-- The program of a template. -/
def parseTemplate (source : String) : Except Fault Program := do
  let tokens := Token.readTemplate source
  match tokens with
  | ⟨.fault cause, _⟩ :: _ => throw cause
  | _ => do Program.ofStatements (← start (statements (fuelFor tokens) ⟨[], []⟩ [] []) tokens)

end Grammar

end Courier.Language
