import Courier.Language.Operation

/-!
The form of expressions.
-/

namespace Courier.Language

/-- The comparisons that can be chained. -/
inductive Comparison
  | equal
  | notEqual
  | ordered (relation : Relation)
  | within
  | notWithin
  deriving DecidableEq, Repr

mutual

/-- An expression. -/
inductive Expression
  | constant (value : Value)
  | name (name : String)
  | tuple (items : List Expression)
  | list (items : List Expression)
  | map (entries : List (Expression × Expression))
  | unary (operator : UnaryOperator) (operand : Expression)
  | binary (operator : BinaryOperator) (left right : Expression)
  | both (left right : Expression)
  | either (left right : Expression)
  /-- Texts put together. -/
  | joined (parts : List Expression)
  | compare (first : Expression) (rest : List (Comparison × Expression))
  /-- One of two values; the line tells where a missing second one is missing. -/
  | choice (test body : Expression) (otherwise : Option Expression) (line : Nat)
  | member (owner : Expression) (name : String)
  | item (owner key : Expression)
  | slice (start stop step : Option Expression)
  | call (callee : Expression) (arguments : List Argument)
  | filter (subject : Expression) (name : String) (arguments : List Argument)
  | check (subject : Expression) (name : String) (arguments : List Argument)
  /-- The text of the block that a filter is applied to. -/
  | enclosed

/-- An argument of a call. -/
inductive Argument
  | positional (value : Expression)
  | named (name : String) (value : Expression)
  /-- All items of a value, by position. -/
  | spread (value : Expression)
  /-- All entries of a map, by name. -/
  | spreadNamed (value : Expression)

end

instance : Inhabited Expression := ⟨.enclosed⟩

/-- The word for the form of an expression in the message that it is no target. -/
def Expression.formName : Expression → String
  | constant _ => "const"
  | name _ => "name"
  | tuple _ => "tuple"
  | list _ => "list"
  | map _ => "dict"
  | unary .negate _ => "neg"
  | unary .affirm _ => "pos"
  | unary .not _ => "not"
  | binary .add _ _ => "add"
  | binary .subtract _ _ => "sub"
  | binary .multiply _ _ => "mul"
  | binary .divide _ _ => "div"
  | binary .floorDivide _ _ => "floordiv"
  | binary .remainder _ _ => "mod"
  | binary .power _ _ => "pow"
  | both _ _ => "and"
  | either _ _ => "or"
  | joined _ => "concat"
  | compare _ _ => "compare"
  | choice _ _ _ _ => "condexpr"
  | member _ _ => "getattr"
  | item _ _ => "getitem"
  | slice _ _ _ => "slice"
  | call _ _ => "call"
  | filter _ _ _ => "filter"
  | check _ _ _ => "test"
  | enclosed => "templatedata"

end Courier.Language
