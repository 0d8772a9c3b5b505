import Courier.Language.Pattern

/-!
The operators on settled values. Truth values count as integers; an integer becomes a float when the other operand
is one; texts, lists and tuples are joined by `+` and repeated by `*`; `%` fills the places of a text. An operand
that is not there is a fault of its own.
-/

namespace Courier.Language

/-- Operators with two operands. -/
inductive BinaryOperator
  | add
  | subtract
  | multiply
  | divide
  | floorDivide
  | remainder
  | power
  deriving DecidableEq, Repr

/-- Operators with one operand. -/
inductive UnaryOperator
  | negate
  | affirm
  | not
  deriving DecidableEq, Repr

/-- The sign of an operator in messages. -/
def BinaryOperator.sign : BinaryOperator → String
  | add => "+"
  | subtract => "-"
  | multiply => "*"
  | divide => "/"
  | floorDivide => "//"
  | remainder => "%"
  | power => "** or pow()"

namespace Operation

/-- The operands as floats. -/
def floats (f : Float → Float → Except Fault Value) (a b : Value) : Except Fault Value :=
  let convert : Value → Except Fault Float
    | .float _ x => .ok x
    | v => (Number.floatOfInt? (v.int?.getD 0)).mapError .arithmetic
  do f (← convert a) (← convert b)

/-- A float as a result, or the fault of the arithmetic. -/
def ofFloat (r : Except Number.ArithmeticFault Float) : Except Fault Value :=
  (r.mapError Fault.arithmetic).map .newFloat

/-- A power with a negative base and a fractional exponent. -/
def complexPower (x y : Float) : Value :=
  let length := Float.pow (-x) y
  let angle := Float.atan2 0 x * y
  .complex (length * Float.cos angle) (length * Float.sin angle)

/-- The power of two floats. -/
def floatPower (x y : Float) : Except Fault Value :=
  match Number.power x y with
  | .error .notReal => .ok (complexPower x y)
  | r => ofFloat r

/-- An operator on two integers. -/
def ofInts (operator : BinaryOperator) (i j : Int) : Except Fault Value :=
  match operator with
  | .add => .ok (.newInt (i + j))
  | .subtract => .ok (.newInt (i - j))
  | .multiply => .ok (.newInt (i * j))
  | .divide => if j == 0 then .error (.zeroDivisor "division by zero") else ofFloat (Number.divideInts i j)
  | .floorDivide =>
    if j == 0 then .error (.zeroDivisor "integer division or modulo by zero") else .ok (.newInt (i.fdiv j))
  | .remainder => if j == 0 then .error (.zeroDivisor "integer modulo by zero") else .ok (.newInt (i.fmod j))
  | .power => if 0 ≤ j then .ok (.newInt (i.pow j.toNat)) else floats floatPower (.newInt i) (.newInt j)

/-- An operator on two floats. -/
def ofFloats (operator : BinaryOperator) (x y : Float) : Except Fault Value :=
  match operator with
  | .add => .ok (.newFloat (x + y))
  | .subtract => .ok (.newFloat (x - y))
  | .multiply => .ok (.newFloat (x * y))
  | .divide => if y == 0 then .error (.zeroDivisor "float division by zero") else .ok (.newFloat (x / y))
  | .floorDivide =>
    if y == 0 then .error (.zeroDivisor "float floor division by zero")
    else .ok (.newFloat (Number.floorDivide x y).1)
  | .remainder =>
    if y == 0 then .error (.zeroDivisor "float modulo") else .ok (.newFloat (Number.floorDivide x y).2)
  | .power => floatPower x y

/-- An operator on two numbers, if the values are numbers. -/
def onNumbers (operator : BinaryOperator) (a b : Value) : Option (Except Fault Value) :=
  match a, b with
  | .float _ x, .float _ y => some (ofFloats operator x y)
  | .float _ _, _ => b.int?.map fun _ => floats (ofFloats operator) a b
  | _, .float _ _ => a.int?.map fun _ => floats (ofFloats operator) a b
  | _, _ => do some (ofInts operator (← a.int?) (← b.int?))

/-- Joins the left operand, a text, list or tuple, and the right one. -/
def joined (a b : Value) : Except Fault Value :=
  match a, b with
  | .text i s, .text j t =>
    .ok (if t.isEmpty then .text i s else if s.isEmpty then .text j t else .newText (s ++ t))
  | .safeText s, .text _ t => .ok (.safeText (s ++ Text.htmlEscaped t))
  | .text _ s, .safeText t => .ok (.safeText (Text.htmlEscaped s ++ t))
  | .safeText s, .safeText t => .ok (.safeText (s ++ t))
  | .list _ xs, .list _ ys => .ok (.newList (xs ++ ys))
  | .tuple _ xs, .tuple _ ys => .ok (.newTuple (xs ++ ys))
  | .bytes x, .bytes y => .ok (.bytes (x ++ y))
  | .text _ _, _ => .error (.notJoinable "str" b.typeName)
  | .list _ _, _ => .error (.notJoinable "list" b.typeName)
  | .tuple _ _, _ => .error (.notJoinable "tuple" b.typeName)
  | .bytes _, _ => .error (.wrongType ("can't concat " ++ b.typeName ++ " to bytes"))
  | _, _ => .error (.unsupportedOperands "+" a.typeName b.typeName)

/-- Texts, bytes, lists and tuples. -/
def isSequence : Value → Bool
  | .text _ _ | .bytes _ | .list _ _ | .tuple _ _ => true
  | _ => false

/-- How often a sequence of some length is repeated. -/
def repetitions (length : Nat) (i : Int) : Except Fault Nat :=
  if i > indexLimit || i < -indexLimit - 1 then .error .indexTooLarge
  else if lengthLimit < length * i.toNat then .error .tooLarge
  else .ok (if length == 0 then 0 else i.toNat)

/-- Repeats items. -/
def repeatItems {α : Type} (items : List α) (i : Int) : Except Fault (List α) := do
  return (List.replicate (← repetitions items.length i) items).flatten

/-- Repeats a sequence. -/
def repeated (sequence count : Value) : Except Fault Value :=
  match count.int? with
  | none => .error (.notRepeatable count.typeName)
  | some i =>
    match sequence with
    | .text identity s => do
      if i == 1 then return .text identity s
      return .newText (String.ofList (← repeatItems s.toList i))
    | .bytes b => do return .bytes (← repeatItems b i)
    | .list _ items => do return .newList (← repeatItems items i)
    | .tuple _ items => do return .newTuple (← repeatItems items i)
    | _ => .error (.notRepeatable sequence.typeName)

/-- Repeats text that is marked as fit for HTML. It takes any other operand for the count. -/
def repeatedMarked (s : String) (count : Value) : Except Fault Value :=
  match count.int? with
  | none => .error (.notIndexNumber count.typeName)
  | some i => do return .safeText (String.ofList (← repeatItems s.toList i))

/-- The result of filling the places of a text. A pattern that is one place for a text hands that text on. -/
def placed (pattern : String) (v : Value) (result : String) : Value :=
  match v with
  | .text identity s | .tuple _ [.text identity s] =>
    if pattern == "%s" && result == s then .text identity s else .newText result
  | _ => .newText result

/-! ### The operators -/

/-- An operator on operands that are not both numbers. -/
def onOthers (operator : BinaryOperator) (a b : Value) : Except Fault Value :=
  match operator with
  | .add => joined a b
  | .multiply =>
    match a, b with
    | .safeText s, _ => repeatedMarked s b
    | _, .safeText t => repeatedMarked t a
    | _, _ =>
      if isSequence a then repeated a b
      else if isSequence b then repeated b a
      else .error (.unsupportedOperands "*" a.typeName b.typeName)
  | .remainder =>
    match a with
    | .text _ s => do return placed s b (← Pattern.filled false s b)
    | .safeText s => do return .safeText (← Pattern.filled true s b)
    | _ => .error (.unsupportedOperands "%" a.typeName b.typeName)
  | _ => .error (.unsupportedOperands operator.sign a.typeName b.typeName)

/-- Applies an operator to two settled values. -/
def binary (operator : BinaryOperator) (a b : Value) : Except Fault Value :=
  match onNumbers operator a b with
  | some result => result
  | none =>
    match a, b, operator with
    | .undefined m _, _, _ => .error (.undefined m)
    | .text _ _, .undefined _ _, .remainder => onOthers operator a b
    | .safeText _, .undefined _ _, .remainder | .safeText _, .undefined _ _, .multiply => onOthers operator a b
    | .safeText s, .undefined _ true, .add => .ok (.safeText s)
    | _, .undefined m _, _ => .error (.undefined m)
    | _, _, _ => onOthers operator a b

/-- Applies an operator to one settled value. -/
def unary (operator : UnaryOperator) (v : Value) : Except Fault Value :=
  match operator, v with
  | .not, _ => .ok (.bool !v.isTrue)
  | _, .undefined m _ => .error (.undefined m)
  | .negate, .float _ x => .ok (.newFloat (-x))
  | .affirm, .float identity x => .ok (.float identity x)
  | .negate, .complex x y => .ok (.complex (-x) (-y))
  | .affirm, .complex x y => .ok (.complex x y)
  | .negate, _ => match v.int? with
    | some i => .ok (.newInt (-i))
    | none => .error (.unsupportedOperand "unary -" v.typeName)
  | .affirm, _ => match v.asInt? with
    | some i => .ok i
    | none => .error (.unsupportedOperand "unary +" v.typeName)

end Operation

end Courier.Language
