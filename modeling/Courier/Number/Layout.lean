import Courier.Number.Binary64
import Courier.Number.Shortest

/-!
How numbers are written. A layout fixes what the digits leave open: where positional notation ends, how the
exponent looks, and the names of the numbers without digits.

To a given number of places the exact value of a float is rounded once, to the nearest decimal and to the even one at a
tie. Three layouts are written: all places behind the point, one digit before the point and an exponent, and the shorter
of these two to a number of significant digits.
-/

/-! ### Digits to a number of places -/

namespace Courier.Number

/-- The digits of a number, with zeros in front up to a count. -/
def digitsFrom (count n : Nat) : List Char :=
  let digits := (Nat.repr n).toList
  List.replicate (count - digits.length) '0' ++ digits

/-- A numeral with a point in front of its last places; without places a point is written only if it is asked for. -/
def withPoint (places : Nat) (keepsPoint : Bool) (digits : List Char) : String :=
  let whole := digits.take (digits.length - places)
  let fraction := digits.drop (digits.length - places)
  String.ofList (if fraction.isEmpty && !keepsPoint then whole else whole ++ '.' :: fraction)

/-- A quotient with a number of places behind the point. -/
def fixedPlaces (num den places : Nat) (keepsPoint : Bool) : String :=
  withPoint places keepsPoint
    (digitsFrom (places + 1) (Binary64.roundHalfEven (num * Nat.pow 10 places) den))

/-- A quotient times a power of ten, rounded to an integer. -/
def roundScaled (num den : Nat) (power : Int) : Nat :=
  if 0 ≤ power then Binary64.roundHalfEven (num * Nat.pow 10 power.toNat) den
  else Binary64.roundHalfEven num (den * Nat.pow 10 (-power).toNat)

/-- The exponent of ten of the first digit of a positive quotient. -/
def leadingExponent (num den : Nat) : Int :=
  let guess : Int := ((Nat.repr num).length : Int) - ((Nat.repr den).length : Int)
  let isBelow := if 0 ≤ guess then num < den * Nat.pow 10 guess.toNat else num * Nat.pow 10 (-guess).toNat < den
  if isBelow then guess - 1 else guess

/-- The significant digits of a quotient, one more than there are places, and the exponent of the first one. -/
def significant (num den places : Nat) : Nat × Int :=
  if num == 0 then (0, 0)
  else
    let exponent := leadingExponent num den
    let digits := roundScaled num den ((places : Int) - exponent)
    if Nat.pow 10 (places + 1) ≤ digits then (digits / 10, exponent + 1) else (digits, exponent)

/-- An exponent with its sign and at least two digits. -/
def exponentText (letter : Char) (exponent : Int) : String :=
  String.ofList (letter :: (if exponent < 0 then '-' else '+') :: digitsFrom 2 exponent.natAbs)

/-- A quotient with one digit before the point and a number of places behind it. -/
def scientificPlaces (num den places : Nat) (keepsPoint : Bool) (letter : Char) : String :=
  let (digits, exponent) := significant num den places
  withPoint places keepsPoint (digitsFrom (places + 1) digits) ++ exponentText letter exponent

/-- A numeral without the zeros at its end, and without the point if nothing follows it. -/
def withoutTrailingZeros (s : String) : String :=
  if s.toList.contains '.' then
    String.ofList ((s.toList.reverse.dropWhile (· == '0')).dropWhile (· == '.')).reverse
  else s

/-- A quotient to a number of significant digits: positional unless the exponent is below -4 or as large as their
number. Zeros at the end are kept only if they are asked for. -/
def significantPlaces (num den precision : Nat) (keepsZeros : Bool) (letter : Char) : String :=
  let precision := max precision 1
  let (digits, exponent) := significant num den (precision - 1)
  let trimmed (s : String) := if keepsZeros then s else withoutTrailingZeros s
  if exponent < -4 || (precision : Int) ≤ exponent then
    trimmed (withPoint (precision - 1) keepsZeros (digitsFrom precision digits)) ++ exponentText letter exponent
  else
    let places := ((precision : Int) - 1 - exponent).toNat
    trimmed (withPoint places keepsZeros (digitsFrom (places + 1) digits))

/-- A quotient to a number of significant digits where no layout is asked for: as before, but a whole number has a place
behind the point, which counts among the digits. -/
def plainPlaces (num den precision : Nat) (keepsZeros : Bool) : String :=
  let precision := max precision 1
  let (digits, exponent) := significant num den (precision - 1)
  let trimmed (s : String) := if keepsZeros then s else withoutTrailingZeros s
  if exponent < -4 || (precision : Int) - 1 ≤ exponent then
    trimmed (withPoint (precision - 1) keepsZeros (digitsFrom precision digits)) ++ exponentText 'e' exponent
  else
    let places := ((precision : Int) - 1 - exponent).toNat
    let s := trimmed (withPoint places keepsZeros (digitsFrom (places + 1) digits))
    if s.toList.contains '.' then s else s ++ ".0"

/-! ### Layouts -/

/-- The decisions of a float format. -/
structure FloatLayout where
  /-- The smallest exponent that is written without an exponent part. -/
  leastFixed : Int
  /-- The largest exponent that is written without an exponent part. -/
  greatestFixed : Int
  /-- An exponent has at least this many digits. -/
  exponentWidth : Nat
  /-- The name of infinity; its negative has a minus sign in front. -/
  infinity : String
  /-- The name of the undefined number. -/
  undefined : String

/-- Floats in texts: positional from `10 ^ -4` to below `10 ^ 16`, then with a signed exponent of two digits or
more; a whole number keeps its `.0`. -/
def plainLayout : FloatLayout := ⟨-4, 15, 2, "inf", "nan"⟩

/-- Floats in JSON: as in texts, but the numbers without digits have the names that JSON readers accept. -/
def jsonLayout : FloatLayout := { plainLayout with infinity := "Infinity", undefined := "NaN" }

/-- A text of zeros. -/
def zeroText (count : Nat) : String := String.ofList (List.replicate count '0')

/-- Positional notation with at least one digit on either side of the point. -/
def positional (d : DecimalDigits) : String :=
  let digits := (Nat.repr d.digits)
  let count : Int := digits.length
  if d.point ≤ 0 then "0." ++ zeroText (-d.point).toNat ++ digits
  else if count ≤ d.point then digits ++ zeroText (d.point - count).toNat ++ ".0"
  else
    let cs := digits.toList
    String.ofList (cs.take d.point.toNat) ++ "." ++ String.ofList (cs.drop d.point.toNat)

/-- One digit before the point, the others after it, and the exponent with its sign. -/
def scientific (layout : FloatLayout) (d : DecimalDigits) : String :=
  let exponent := d.point - 1
  let power := Nat.repr exponent.natAbs
  let sign := if exponent < 0 then "-" else "+"
  let mantissa := match (Nat.repr d.digits).toList with
    | [] => ""
    | [c] => String.singleton c
    | c :: rest => String.ofList (c :: '.' :: rest)
  mantissa ++ "e" ++ sign ++ zeroText (layout.exponentWidth - power.length) ++ power

/-- The text of a float. -/
def FloatLayout.write (layout : FloatLayout) (x : Float) : String :=
  match Binary64.ofFloat x with
  | .notANumber => layout.undefined
  | .infinite negative => (if negative then "-" else "") ++ layout.infinity
  | .finite value =>
    let sign := if value.negative then "-" else ""
    if value.mantissa == 0 then sign ++ "0.0"
    else
      let d := shortestDigits value.mantissa value.exponent
      let exponent := d.point - 1
      if layout.leastFixed ≤ exponent && exponent ≤ layout.greatestFixed then sign ++ positional d
      else sign ++ scientific layout d

/-- Integers of more decimal digits than this are neither read nor written. -/
def digitLimit : Nat := 4300

/-- How much of a text that is no numeral is shown in the complaint about it. -/
def shownNumeralLimit : Nat := 200

/-- The text of an integer, unless it has too many digits. -/
def writeInt? (i : Int) : Option String :=
  let text := Nat.repr i.natAbs
  if digitLimit < text.length then none else some (if i < 0 then "-" ++ text else text)

/-- The text of an integer, whatever its length. -/
def writeInt (i : Int) : String := if i < 0 then "-" ++ Nat.repr i.natAbs else Nat.repr i.natAbs

end Courier.Number
