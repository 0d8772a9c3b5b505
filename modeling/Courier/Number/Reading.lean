import Courier.Number.Layout
import Courier.Text.Property

/-!
Reading numbers from text. A decimal numeral is an integer times a power of ten, rounded once when it becomes a
float. Numerals in running text may have blanks around them, underscores between digits and digits of any
script.
-/

namespace Courier.Number

/-- An exact decimal number. -/
structure Decimal where
  negative : Bool
  digits : Nat
  exponent : Int

/-- The nearest float. Numbers far beyond the range need no arithmetic. -/
def Decimal.toFloat (d : Decimal) : Float :=
  let size : Int := (Nat.repr d.digits).length + d.exponent
  if d.digits == 0 || size < -330 then Binary64.ofRatio d.negative 0 1
  else if 310 < size then (if d.negative then -infinity else infinity)
  else if 0 ≤ d.exponent then Binary64.ofRatio d.negative (d.digits * Nat.pow 10 d.exponent.toNat) 1
  else Binary64.ofRatio d.negative d.digits (Nat.pow 10 (-d.exponent).toNat)

/-- The number written by decimal digits, most significant first. -/
def natOfDigits (digits : List Nat) : Nat := digits.foldl (fun n d => 10 * n + d) 0

/-- Why a text is no integer. -/
inductive NumeralFault
  | malformed
  | tooLong (digits : Nat)
  deriving DecidableEq, Repr

/-- A run of decimal digits with single underscores between them: the digits and the rest of the text. -/
def digitRun : List Char → List Nat × List Char
  | [] => ([], [])
  | '_' :: c :: rest =>
    match Text.decimalValue? c with
    | some d => let (ds, tail) := digitRun rest; (d :: ds, tail)
    | none => ([], '_' :: c :: rest)
  | c :: rest =>
    match Text.decimalValue? c with
    | some d => let (ds, tail) := digitRun rest; (d :: ds, tail)
    | none => ([], c :: rest)

/-- A run of digits that starts with a digit and not with an underscore. -/
def digits (cs : List Char) : List Nat × List Char :=
  match cs with
  | '_' :: _ => ([], cs)
  | _ => digitRun cs

/-- Blanks that can stand around a numeral. The separators of ASCII files are not among them. -/
def isOuterBlank (c : Char) : Bool := Text.isBlank c && !(28 ≤ c.toNat && c.toNat ≤ 31)

/-- The characters of a numeral without the blanks around it. -/
def withoutBlanks (text : String) : List Char :=
  Text.dropTrailingList isOuterBlank (text.toList.dropWhile isOuterBlank)

/-- Takes an optional sign off a text. -/
def signed : List Char → Bool × List Char
  | '-' :: rest => (true, rest)
  | '+' :: rest => (false, rest)
  | cs => (false, cs)

/-- An integer with an optional sign and blanks around it. Too many digits are noticed before what follows them. -/
def readInt (text : String) : Except NumeralFault Int :=
  let (negative, cs) := signed (withoutBlanks text)
  match digits cs with
  | ([], _) | (_, '_' :: _) => .error .malformed
  | (ds, rest) =>
    if digitLimit < ds.length then .error (.tooLong ds.length)
    else if rest.isEmpty then .ok (if negative then -(natOfDigits ds : Int) else natOfDigits ds)
    else .error .malformed

/-- An exponent part with at least one digit: its value and the rest. -/
def exponentPart : List Char → Option (Int × List Char)
  | c :: rest =>
    if c == 'e' || c == 'E' then
      let (negative, cs) := signed rest
      match digits cs with
      | ([], _) => none
      | (ds, tail) => some (if negative then -(natOfDigits ds : Int) else natOfDigits ds, tail)
    else none
  | [] => none

/-- The number whose whole digits, fraction digits and exponent are given. -/
def assemble (negative : Bool) (whole fraction : List Nat) (exponent : Int) : Decimal :=
  ⟨negative, natOfDigits (whole ++ fraction), exponent - fraction.length⟩

/-- A decimal number with an optional point and exponent, without sign: it needs a digit before or after the
point, and nothing may follow. -/
def unsignedDecimal? (negative : Bool) (cs : List Char) : Option Decimal :=
  let (whole, rest) := digits cs
  let (fraction, rest) := match rest with
    | '.' :: tail => digits tail
    | _ => ([], rest)
  if whole.isEmpty && fraction.isEmpty then none
  else
    match rest with
    | [] => some (assemble negative whole fraction 0)
    | _ :: _ =>
      match exponentPart rest with
      | some (exponent, []) => some (assemble negative whole fraction exponent)
      | _ => none

/-- A float with an optional sign and blanks around it, or one of the names of infinity and the undefined number. -/
def readFloat? (text : String) : Option Float :=
  let (negative, cs) := signed (withoutBlanks text)
  let name := String.ofList (cs.map Char.toLower)
  if name == "inf" || name == "infinity" then some (if negative then -infinity else infinity)
  else if name == "nan" then some undefinedNumber
  else (unsignedDecimal? negative cs).map Decimal.toFloat

end Courier.Number
