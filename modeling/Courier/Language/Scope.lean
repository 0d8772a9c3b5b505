import Courier.Language.Statement

/-!
The names of a template and the scopes they belong to. A body has one scope; the statements in it that open a scope of
their own are not looked into. Every name of a scope is settled when the scope is entered: a name of a scope outside
starts with the value it has there, a name that is read first starts with its value in the data, and one that is
assigned first starts without a value, unless only some branches of a condition assign it.
-/

namespace Courier.Language

mutual

/-- The names that an expression reads. -/
def Expression.names : Expression → List String
  | .constant _ | .enclosed => []
  | .name n => [n]
  | .tuple items | .list items | .joined items => namesOfAll items
  | .map entries => namesOfEntries entries
  | .unary _ e | .member e _ => e.names
  | .binary _ a b | .both a b | .either a b | .item a b => a.names ++ b.names
  | .compare first rest => first.names ++ namesOfRest rest
  | .choice test body otherwise _ => test.names ++ body.names ++ namesOfOption otherwise
  | .slice a b c => namesOfOption a ++ namesOfOption b ++ namesOfOption c
  | .call e arguments | .filter e _ arguments | .check e _ arguments => e.names ++ namesOfArguments arguments

def namesOfAll : List Expression → List String
  | [] => []
  | e :: rest => e.names ++ namesOfAll rest

def namesOfEntries : List (Expression × Expression) → List String
  | [] => []
  | (k, e) :: rest => k.names ++ e.names ++ namesOfEntries rest

def namesOfRest : List (Comparison × Expression) → List String
  | [] => []
  | (_, e) :: rest => e.names ++ namesOfRest rest

def namesOfOption : Option Expression → List String
  | none => []
  | some e => e.names

def namesOfArguments : List Argument → List String
  | [] => []
  | .positional e :: rest | .named _ e :: rest | .spread e :: rest | .spreadNamed e :: rest =>
    e.names ++ namesOfArguments rest

end

mutual

/-- The names that a target assigns. The owner of a field is read. -/
def Target.assigned : Target → List String
  | .name n => [n]
  | .tuple items => assignedByAll items
  | .field _ _ => []

def assignedByAll : List Target → List String
  | [] => []
  | t :: rest => t.assigned ++ assignedByAll rest

end

mutual

/-- The names that a target reads. -/
def Target.read : Target → List String
  | .name _ => []
  | .tuple items => readByAll items
  | .field owner _ => [owner]

def readByAll : List Target → List String
  | [] => []
  | t :: rest => t.read ++ readByAll rest

end

mutual

/-- The names that a statement and the statements below it assign. Parameters and the names of bindings have their
values from elsewhere. -/
def Statement.stored : Statement → List String
  | .output _ | .reference _ _ => []
  | .assign target _ => target.assigned
  | .assignBody target _ body => target.assigned ++ storedByAll body
  | .branch arms otherwise => storedByArms arms ++ storedByAll otherwise
  | .loop target _ _ _ body otherwise => target.assigned ++ storedByAll body ++ storedByAll otherwise
  | .bindings _ body | .block _ _ _ body | .filterBody _ body | .escaping _ _ body | .define _ _ _ body
  | .callBody _ _ _ body => storedByAll body

def storedByAll : List Statement → List String
  | [] => []
  | s :: rest => s.stored ++ storedByAll rest

def storedByArms : List (Expression × List Statement) → List String
  | [] => []
  | (_, body) :: rest => storedByAll body ++ storedByArms rest

end

/-- A mention of a name: whether it is read there, or gets a value. -/
structure Mention where
  name : String
  isRead : Bool

/-- Mentions of names that are read. -/
def Mention.reads (names : List String) : List Mention := names.map fun n => ⟨n, true⟩

/-- Mentions of names that get values. -/
def Mention.writes (names : List String) : List Mention := names.map fun n => ⟨n, false⟩

mutual

/-- The names that a statement and the statements below it mention, in their order. The body of a block is a text of
its own, and the target of an assignment comes before the value. -/
def Statement.mentions : Statement → List Mention
  | .output pieces => Mention.reads (pieces.flatMap fun
      | .text _ => []
      | .value e => e.names)
  | .assign target e => Mention.writes target.assigned ++ Mention.reads e.names
  | .assignBody target filter body => Mention.writes target.assigned ++ Mention.reads filter.names ++ mentionsOfAll body
  | .branch arms otherwise => mentionsOfArms arms ++ mentionsOfAll otherwise
  | .loop target items test _ body otherwise =>
    Mention.writes target.assigned ++ Mention.reads items.names ++ mentionsOfAll body ++ mentionsOfAll otherwise ++
      Mention.reads (namesOfOption test)
  | .bindings values body =>
    Mention.writes (values.flatMap fun (t, _) => t.assigned) ++ Mention.reads (values.flatMap fun (_, e) => e.names) ++
      mentionsOfAll body
  | .block _ _ _ _ => []
  | .filterBody filter body => mentionsOfAll body ++ Mention.reads filter.names
  | .escaping isOn _ body => Mention.reads isOn.names ++ mentionsOfAll body
  | .define _ parameters defaults body =>
    Mention.writes parameters ++ Mention.reads (namesOfAll defaults) ++ mentionsOfAll body
  | .callBody parameters defaults call body =>
    Mention.reads call.names ++ Mention.writes parameters ++ Mention.reads (namesOfAll defaults) ++ mentionsOfAll body
  | .reference _ e => Mention.reads e.names

def mentionsOfAll : List Statement → List Mention
  | [] => []
  | s :: rest => s.mentions ++ mentionsOfAll rest

def mentionsOfArms : List (Expression × List Statement) → List Mention
  | [] => []
  | (test, body) :: rest => Mention.reads test.names ++ mentionsOfAll body ++ mentionsOfArms rest

end

/-- Whether the first mention of a name reads it, so that its value has to come from elsewhere. -/
def isReadFirst (name : String) (mentions : List Mention) : Bool :=
  (mentions.find? (·.name == name)).any (·.isRead)

/-- How a name of a scope starts. -/
inductive Start
  /-- Without a value. -/
  | unset
  /-- With its value in the data. -/
  | resolved
  /-- With its value in a scope outside. -/
  | inherited
  deriving DecidableEq, Repr

/-- The names of a scope, and those among them that are assigned in it. -/
structure Symbols where
  starts : List (String × Start)
  assigned : List String

namespace Symbols

/-- No names. -/
def empty : Symbols := ⟨[], []⟩

/-- Reads a name. `outside` tells the names of the scopes outside. -/
def read (outside : String → Bool) (name : String) (s : Symbols) : Symbols :=
  if (entryOf? name s.starts).isSome || outside name then s else { s with starts := putEntry name .resolved s.starts }

/-- Assigns a name. -/
def assign (outside : String → Bool) (name : String) (s : Symbols) : Symbols :=
  { starts :=
      if (entryOf? name s.starts).isSome then s.starts
      else putEntry name (if outside name then .inherited else .unset) s.starts
    assigned := if s.assigned.contains name then s.assigned else name :: s.assigned }

/-- Reads names in turn. -/
def readAll (outside : String → Bool) (names : List String) (s : Symbols) : Symbols :=
  names.foldl (fun s n => s.read outside n) s

/-- Assigns names in turn. -/
def assignAll (outside : String → Bool) (names : List String) (s : Symbols) : Symbols :=
  names.foldl (fun s n => s.assign outside n) s

/-- The names after the branches of a condition. What was not assigned before starts with the value it has
elsewhere. -/
def merge (outside : String → Bool) (s : Symbols) (branches : List Symbols) : Symbols :=
  let starts := branches.foldl (fun acc b => putEntries b.starts acc) s.starts
  let assigned := branches.foldl (fun acc b => b.assigned ++ acc) s.assigned
  let inBranches := assigned.filter fun n => !s.assigned.contains n
  { starts := inBranches.foldl (fun acc n => putEntry n (if outside n then .inherited else .resolved) acc) starts
    assigned }

mutual

/-- The names after a statement. -/
def after (outside : String → Bool) (s : Symbols) : Statement → Symbols
  | .output pieces =>
    s.readAll outside (pieces.flatMap fun
      | .text _ => []
      | .value e => e.names)
  | .assign target e =>
    ((s.readAll outside e.names).readAll outside target.read).assignAll outside target.assigned
  | .assignBody target _ _ => (s.readAll outside target.read).assignAll outside target.assigned
  | .branch arms otherwise =>
    match arms with
    | [] => s
    | (test, body) :: rest =>
      let s := s.readAll outside test.names
      s.merge outside [afterAll outside s body, afterArms outside s rest, afterAll outside s otherwise]
  | .loop _ items _ _ _ _ => s.readAll outside items.names
  | .bindings values _ => s.readAll outside (values.flatMap fun (_, e) => e.names)
  | .block _ _ _ _ | .escaping _ _ _ => s
  | .filterBody filter _ => s.readAll outside filter.names
  | .define name _ _ _ => s.assign outside name
  | .callBody _ _ call _ => s.readAll outside call.names
  | .reference _ e => s.readAll outside e.names

/-- The names after statements. -/
def afterAll (outside : String → Bool) (s : Symbols) : List Statement → Symbols
  | [] => s
  | first :: rest => afterAll outside (after outside s first) rest

/-- The names after further branches, each of which is a condition of its own. -/
def afterArms (outside : String → Bool) (s : Symbols) : List (Expression × List Statement) → Symbols
  | [] => s
  | (test, body) :: rest =>
    let s := s.readAll outside test.names
    afterArms outside (s.merge outside [afterAll outside s body, s, s]) rest

end

end Symbols

end Courier.Language
