import Courier.Number.Arithmetic
import Courier.Number.Layout

/-!
What can go wrong while a template or an expression is read or evaluated. A fault names its cause; the wording
shown to the user is in `Fault.message`, and `Fault.kind` sorts the causes by the family that callers tell apart.
-/

namespace Courier.Language

/-- The families of faults. -/
inductive FaultKind
  | type
  | value
  | zeroDivision
  | overflow
  | memory
  | index
  | key
  | attribute
  | language
  | unboundName
  | recursion
  | form
  | state
  | assertion
  deriving DecidableEq, Repr

/-- The cause of a failure. Types are given by their names. -/
inductive Fault
  /-- The text is no expression or template, or it names something that does not exist. -/
  | malformed (message : String)
  /-- A value that is not there was used. -/
  | undefined (message : String)
  /-- An infinite or undefined number stands in the program itself, where it has a name but no value. -/
  | unboundName (name : String)
  /-- Definitions call each other without end. -/
  | tooDeep
  | unsupportedOperands (operator left right : String)
  | unsupportedOperand (operator operand : String)
  | notOrdered (operator left right : String)
  | notJoinable (left right : String)
  | notRepeatable (count : String)
  | notIterable (type : String)
  | notContainer (type : String)
  | notMapping (type : String)
  | notListPosition
  | notAssignable (type : String)
  | notSearchable (type : String)
  | notIndexNumber (type : String)
  | notSlicing
  | noLength (type : String)
  | notCallable (type : String)
  | notSubscriptable (type : String)
  | notBytes (type : String)
  | unhashable (type : String)
  | notSerializable (type : String)
  | badEntryKey (type : String)
  | circular
  | keywordsNotText
  | pairExpected (position : Nat)
  | pairLength (position length : Nat)
  /-- A text or list too long to be built. -/
  | tooLarge
  | indexTooLarge
  | lengthTooLarge
  | flagTooLarge
  | rangeTooLarge (limit : Nat)
  | outOfRange (wording : String)
  | infinityAsInteger
  | integerTooLong
  | numeralTooLong (digits : Nat)
  | badNumeral (shown : String)
  /-- A number in the program that has digits of another script. -/
  | foreignDigits (wording : String)
  /-- A call that gives an argument twice, with the line of the listing that it stands on. -/
  | repeatedArgument (name : String) (line : Nat)
  /-- A body that names a parameter twice, with the line of the listing that it starts on. -/
  | repeatedParameter (name : String) (line : Nat)
  /-- A map that became larger or smaller, or got other keys, while its entries were handed out. -/
  | unsteady (wording : String)
  | arithmetic (cause : Number.ArithmeticFault)
  | zeroDivisor (wording : String)
  | badIndex (wording : String)
  | missingKey (shown : String)
  | noAttribute (type name : String)
  /-- Arguments of a filter that do not go together. -/
  | notMet (wording : String)
  /-- A wrong argument of a filter, a check or a method, of the wrong type. -/
  | wrongType (wording : String)
  /-- A wrong argument of a filter, a check or a method, of the right type. -/
  | wrongValue (wording : String)
  deriving DecidableEq, Repr

namespace Fault

/-- The wording of a fault of arithmetic. -/
def arithmeticWording : Number.ArithmeticFault → String
  | .quotientOverflow => "integer division result too large for a float"
  | .conversionOverflow => "int too large to convert to float"
  | .resultOverflow => "(34, 'Numerical result out of range')"
  | .roundingOverflow => "rounded value too large to represent"
  | .zeroToNegativePower => "0.0 cannot be raised to a negative power"
  | .notReal => "negative number cannot be raised to a fractional power"

/-- The wording of a fault. -/
def message : Fault → String
  | malformed m | undefined m => m
  | unboundName n => "name '" ++ n ++ "' is not defined"
  | tooDeep => "maximum recursion depth exceeded"
  | unsupportedOperands op l r => "unsupported operand type(s) for " ++ op ++ ": '" ++ l ++ "' and '" ++ r ++ "'"
  | unsupportedOperand op t => "bad operand type for " ++ op ++ ": '" ++ t ++ "'"
  | notOrdered op l r => "'" ++ op ++ "' not supported between instances of '" ++ l ++ "' and '" ++ r ++ "'"
  | notJoinable l r => "can only concatenate " ++ l ++ " (not \"" ++ r ++ "\") to " ++ l
  | notRepeatable t => "can't multiply sequence by non-int of type '" ++ t ++ "'"
  | notIterable t => "'" ++ t ++ "' object is not iterable"
  | notListPosition => "list indices must be integers or slices, not str"
  | notAssignable t => "'" ++ t ++ "' object does not support item assignment"
  | notMapping t => "'" ++ t ++ "' object is not a mapping"
  | notContainer t => "argument of type '" ++ t ++ "' is not iterable"
  | notSearchable t => "'in <string>' requires string as left operand, not " ++ t
  | notIndexNumber t => "'" ++ t ++ "' object cannot be interpreted as an integer"
  | notSlicing => "slice indices must be integers or None or have an __index__ method"
  | noLength t => "object of type '" ++ t ++ "' has no len()"
  | notCallable t => "'" ++ t ++ "' object is not callable"
  | notSubscriptable t => "'" ++ t ++ "' object is not subscriptable"
  | notBytes t => "a bytes-like object is required, not '" ++ t ++ "'"
  | unhashable t => "unhashable type: '" ++ t ++ "'"
  | notSerializable t => "Object of type " ++ t ++ " is not JSON serializable"
  | badEntryKey t => "keys must be str, int, float, bool or None, not " ++ t
  | circular => "Circular reference detected"
  | keywordsNotText => "keywords must be strings"
  | pairExpected n => "cannot convert dictionary update sequence element #" ++ toString n ++ " to a sequence"
  | pairLength n length =>
    "dictionary update sequence element #" ++ toString n ++ " has length " ++ toString length ++ "; 2 is required"
  | tooLarge => ""
  | indexTooLarge => "cannot fit 'int' into an index-sized integer"
  | lengthTooLarge => "Python int too large to convert to C ssize_t"
  | flagTooLarge => "Python int too large to convert to C int"
  | rangeTooLarge limit =>
    "Range too big. The sandbox blocks ranges larger than MAX_RANGE (" ++ toString limit ++ ")."
  | infinityAsInteger => "cannot convert float infinity to integer"
  | integerTooLong =>
    "Exceeds the limit (" ++ toString Number.digitLimit ++
      " digits) for integer string conversion; use sys.set_int_max_str_digits() to increase the limit"
  | numeralTooLong digits =>
    "Exceeds the limit (" ++ toString Number.digitLimit ++ " digits) for integer string conversion: value has " ++
      toString digits ++ " digits; use sys.set_int_max_str_digits() to increase the limit"
  | badNumeral shown =>
    "invalid literal for int() with base 10: " ++ String.ofList (shown.toList.take Number.shownNumeralLimit)
  | arithmetic cause => arithmeticWording cause
  | zeroDivisor wording | badIndex wording | missingKey wording | wrongType wording | wrongValue wording
  | unsteady wording | outOfRange wording | notMet wording => wording
  | repeatedArgument name line =>
    "keyword argument repeated: " ++ name ++ " (<template>, line " ++ toString line ++ ")"
  | repeatedParameter name line =>
    "duplicate argument '" ++ name ++ "' in function definition (<template>, line " ++ toString line ++ ")"
  | foreignDigits wording => wording ++ " (<unknown>, line 1)"
  | noAttribute t n => "'" ++ t ++ "' object has no attribute '" ++ n ++ "'"

/-- The family of a fault. -/
def kind : Fault → FaultKind
  | malformed _ | undefined _ => .language
  | unboundName _ => .unboundName
  | tooDeep => .recursion
  | circular | pairLength _ _ | integerTooLong | numeralTooLong _ | badNumeral _ | wrongValue _ => .value
  | arithmetic .zeroToNegativePower | zeroDivisor _ => .zeroDivision
  | arithmetic .notReal => .value
  | arithmetic _ | indexTooLarge | lengthTooLarge | flagTooLarge | rangeTooLarge _ | outOfRange _
  | infinityAsInteger => .overflow
  | tooLarge => .memory
  | foreignDigits _ | repeatedArgument _ _ | repeatedParameter _ _ => .form
  | unsteady _ => .state
  | notMet _ => .assertion
  | badIndex _ => .index
  | missingKey _ => .key
  | noAttribute _ _ => .attribute
  | _ => .type

/-- Faults that a mapping turns into a diagnostic text. A program that names a number without digits or with digits of
another script, one that gives an argument twice, one that never ends, one that changes a map it goes through, and one
that asks for less room than it needs are not among them. -/
def isAbsorbed (f : Fault) : Bool :=
  match f.kind with
  | .unboundName | .recursion | .memory | .form | .state | .assertion => false
  | _ => true

end Fault

end Courier.Language
