import Courier.Language.Expression

/-!
The form of templates: a list of statements. A program is what they are read for: its statements, and beside them the
bodies of its blocks, each under a name of its own.
-/

namespace Courier.Language

/-- What a value is assigned to. -/
inductive Target
  | name (name : String)
  | tuple (items : List Target)
  /-- A field of a namespace. -/
  | field (owner name : String)

/-- A part of the output: text as it is, or an expression. -/
inductive Piece
  | text (value : String)
  | value (expression : Expression)

/-- What a template asks another template for. -/
inductive Reference
  | extending
  /-- Its output, or nothing if it is missing and may be so. -/
  | including (maySkip : Bool)
  | importing
  deriving DecidableEq, Repr

/-- A statement. -/
inductive Statement
  | output (pieces : List Piece)
  | assign (target : Target) (value : Expression)
  /-- The text of a body, perhaps through a filter, as a value. -/
  | assignBody (target : Target) (filter : Expression) (body : List Statement)
  | branch (arms : List (Expression × List Statement)) (otherwise : List Statement)
  | loop (target : Target) (items : Expression) (test : Option Expression) (isRecursive : Bool)
      (body otherwise : List Statement)
  | bindings (values : List (Target × Expression)) (body : List Statement)
  | block (name : String) (isScoped isRequired : Bool) (body : List Statement)
  | filterBody (filter : Expression) (body : List Statement)
  /-- A body in which texts are made fit for HTML or not; `known` tells so if that is known before the program runs. -/
  | escaping (isOn : Expression) (known : Option Bool) (body : List Statement)
  | define (name : String) (parameters : List String) (defaults : List Expression) (body : List Statement)
  | callBody (parameters : List String) (defaults : List Expression) (call : Expression) (body : List Statement)
  | reference (kind : Reference) (template : Expression)
  deriving Inhabited

/-! ### Blocks -/

/-- A block of a template. -/
structure Block where
  name : String
  isScoped : Bool
  body : List Statement

mutual

/-- The blocks in a statement, each before the ones in it. -/
def Statement.blocks : Statement → List Block
  | .output _ | .assign _ _ | .reference _ _ => []
  | .block name isScoped _ body => ⟨name, isScoped, body⟩ :: blocksOfAll body
  | .assignBody _ _ body | .bindings _ body | .filterBody _ body | .escaping _ _ body | .define _ _ _ body
  | .callBody _ _ _ body => blocksOfAll body
  | .branch arms otherwise => blocksOfArms arms ++ blocksOfAll otherwise
  | .loop _ _ _ _ body otherwise => blocksOfAll body ++ blocksOfAll otherwise

def blocksOfAll : List Statement → List Block
  | [] => []
  | s :: rest => s.blocks ++ blocksOfAll rest

def blocksOfArms : List (Expression × List Statement) → List Block
  | [] => []
  | (_, body) :: rest => blocksOfAll body ++ blocksOfArms rest

end

/-- A program: the statements of a template, and the bodies of its blocks. -/
structure Program where
  statements : List Statement
  blocks : List (String × List Statement)
  deriving Inhabited

/-- The program of a template, in which no two blocks have one name. -/
def Program.ofStatements (statements : List Statement) : Except Fault Program :=
  let blocks := blocksOfAll statements
  match firstSeenAgain [] (blocks.map Block.name) with
  | some n => .error (.malformed ("block " ++ Text.quoted n ++ " defined twice"))
  | none => .ok ⟨statements, blocks.map fun b => (b.name, b.body)⟩
where
  /-- The first name that stands behind itself. -/
  firstSeenAgain (seen : List String) : List String → Option String
    | [] => none
    | n :: rest => if seen.contains n then some n else firstSeenAgain (n :: seen) rest

end Courier.Language
