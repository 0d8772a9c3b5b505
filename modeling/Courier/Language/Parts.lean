import Courier.Language.Statement

/-!
The parts of programs: the expressions in an expression or a statement, and the filters and checks that they apply.
-/

namespace Courier.Language

/-! ### Expressions -/

mutual

/-- An expression and the expressions in it, in the order in which they are worked out, each before its parts. -/
def Expression.withParts : Expression → List Expression
  | .choice test body otherwise line =>
    .choice test body otherwise line :: (test.withParts ++ body.withParts ++ partsOfOption otherwise)
  | e@(.constant _) | e@(.name _) | e@.enclosed => [e]
  | e@(.tuple items) | e@(.list items) | e@(.joined items) => e :: partsOfAll items
  | e@(.map entries) => e :: partsOfEntries entries
  | e@(.unary _ a) | e@(.member a _) => e :: a.withParts
  | e@(.binary _ a b) | e@(.both a b) | e@(.either a b) | e@(.item a b) => e :: (a.withParts ++ b.withParts)
  | e@(.compare first rest) => e :: (first.withParts ++ partsOfRest rest)
  | e@(.slice a b c) => e :: (partsOfOption a ++ partsOfOption b ++ partsOfOption c)
  | e@(.call a arguments) | e@(.filter a _ arguments) | e@(.check a _ arguments) =>
    e :: (a.withParts ++ partsOfArguments arguments)

def partsOfAll : List Expression → List Expression
  | [] => []
  | e :: rest => e.withParts ++ partsOfAll rest

def partsOfEntries : List (Expression × Expression) → List Expression
  | [] => []
  | (k, e) :: rest => k.withParts ++ e.withParts ++ partsOfEntries rest

def partsOfRest : List (Comparison × Expression) → List Expression
  | [] => []
  | (_, e) :: rest => e.withParts ++ partsOfRest rest

def partsOfOption : Option Expression → List Expression
  | none => []
  | some e => e.withParts

def partsOfArguments : List Argument → List Expression
  | [] => []
  | .positional e :: rest | .named _ e :: rest | .spread e :: rest | .spreadNamed e :: rest =>
    e.withParts ++ partsOfArguments rest

end

/-! ### Statements -/

mutual

/-- The expressions of a statement and of the statements below it. The body of a block is a text of its own. -/
def Statement.expressions : Statement → List Expression
  | .output pieces => pieces.filterMap fun
      | .text _ => none
      | .value e => some e
  | .assign _ e | .reference _ e => [e]
  | .assignBody _ filter body | .filterBody filter body | .escaping filter _ body => filter :: expressionsOfAll body
  | .branch arms otherwise => expressionsOfArms arms ++ expressionsOfAll otherwise
  | .loop _ items test _ body otherwise =>
    items :: test.toList ++ expressionsOfAll body ++ expressionsOfAll otherwise
  | .bindings values body => values.map (·.2) ++ expressionsOfAll body
  | .block _ _ _ _ => []
  | .define _ _ defaults body => defaults ++ expressionsOfAll body
  | .callBody _ defaults call body => call :: defaults ++ expressionsOfAll body

def expressionsOfAll : List Statement → List Expression
  | [] => []
  | s :: rest => s.expressions ++ expressionsOfAll rest

def expressionsOfArms : List (Expression × List Statement) → List Expression
  | [] => []
  | (test, body) :: rest => test :: expressionsOfAll body ++ expressionsOfArms rest

end

/-- The filter or the check that an expression applies: whether it is a check, and its name. -/
def Expression.applied? : Expression → Option (Bool × String)
  | .filter _ n _ => some (false, n)
  | .check _ n _ => some (true, n)
  | _ => none

/-- The filters and then the checks that some expressions apply, each kind in the order of the names. -/
def appliedIn (expressions : List Expression) : List (Bool × String) :=
  let all := ((expressions.flatMap Expression.withParts).filterMap Expression.applied?).eraseDups
  let ofKind (isCheck : Bool) := (all.filter (·.1 == isCheck)).mergeSort fun a b => !(b.2 < a.2)
  ofKind false ++ ofKind true

end Courier.Language
