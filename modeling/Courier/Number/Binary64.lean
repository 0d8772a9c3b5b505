/-!
Binary floating-point numbers of 64 bits, taken apart into an integer times a power of two and put together
again from an exact quotient. Every conversion and every operation that has to round goes through
`Binary64.ofRatio`, which rounds once, to the nearest number and to the even one at a tie.
-/

namespace Courier.Number

/-- An exact binary fraction: `mantissa · 2 ^ exponent`, with a sign kept apart so that zero has one too. -/
structure Dyadic where
  negative : Bool
  mantissa : Nat
  exponent : Int
  deriving DecidableEq, Repr

/-- What 64 bits stand for. -/
inductive Binary64
  | finite (value : Dyadic)
  | infinite (negative : Bool)
  | notANumber
  deriving DecidableEq, Repr

namespace Binary64

/-- Reads the sign, the exponent and the fraction of a float. -/
def ofFloat (x : Float) : Binary64 :=
  let bits : Nat := x.toBits.toNat
  let negative := bits / Nat.pow 2 63 == 1
  let exponent : Nat := bits / Nat.pow 2 52 % 2048
  let fraction : Nat := bits % Nat.pow 2 52
  if exponent == 2047 then
    if fraction == 0 then .infinite negative else .notANumber
  else if exponent == 0 then .finite ⟨negative, fraction, -1074⟩
  else .finite ⟨negative, fraction + Nat.pow 2 52, (exponent : Int) - 1075⟩

/-- The quotient rounded to the nearest integer, a tie to the even one. -/
def roundHalfEven (num den : Nat) : Nat :=
  let q := num / den
  let twice := 2 * (num % den)
  if twice < den then q
  else if den < twice then q + 1
  else if q % 2 == 0 then q else q + 1

/-- Shifts a quotient by a power of two, given as numerator and denominator. -/
def scale (num den : Nat) (power : Int) : Nat × Nat :=
  if 0 ≤ power then (num * Nat.pow 2 power.toNat, den) else (num, den * Nat.pow 2 (-power).toNat)

/-- The exponent at which a positive quotient has 53 binary digits, but at least the smallest exponent there is. -/
def exponentFor (num den : Nat) : Int :=
  let guess : Int := (num.log2 : Int) - (den.log2 : Int) - 52
  let (n, d) := scale num den (-guess)
  let exponent := if n / d < Nat.pow 2 52 then guess - 1 else guess
  max exponent (-1074)

/-- The bits of the positive quotient nearest to `num / den`; a quotient beyond the largest number is infinite. -/
def bitsOfRatio (num den : Nat) : Nat :=
  if num == 0 || den == 0 then 0
  else
    let exponent := exponentFor num den
    let (n, d) := scale num den (-exponent)
    let mantissa := roundHalfEven n d
    let bits := if mantissa < Nat.pow 2 52 then mantissa
      else (exponent + 1075).toNat * Nat.pow 2 52 + (mantissa - Nat.pow 2 52)
    min bits (2047 * Nat.pow 2 52)

/-- The float nearest to a signed quotient. -/
def ofRatio (negative : Bool) (num den : Nat) : Float :=
  Float.ofBits (UInt64.ofNat (bitsOfRatio num den + if negative then Nat.pow 2 63 else 0))

end Binary64

namespace Dyadic

/-- A dyadic number as an unsigned quotient. -/
def ratio (d : Dyadic) : Nat × Nat := Binary64.scale d.mantissa 1 d.exponent

/-- The float with exactly this value, if there is one, else the nearest. -/
def toFloat (d : Dyadic) : Float := let (n, m) := d.ratio; Binary64.ofRatio d.negative n m

/-- The integer towards zero. -/
def truncate (d : Dyadic) : Int :=
  let (n, m) := d.ratio
  if d.negative then -((n / m : Nat) : Int) else ((n / m : Nat) : Int)

/-- A number without a fractional part. -/
def isInteger (d : Dyadic) : Bool := let (n, m) := d.ratio; n % m == 0

/-- The exact order of a dyadic number and an integer. -/
def compareInt (d : Dyadic) (i : Int) : Ordering :=
  let (n, m) := d.ratio
  let left : Int := if d.negative then -(n : Int) else n
  compare left (i * m)

end Dyadic

/-- The float nearest to an integer. -/
def floatOfInt (i : Int) : Float := Binary64.ofRatio (i < 0) i.natAbs 1

/-- Infinite floats. -/
def isInfinite (x : Float) : Bool :=
  match Binary64.ofFloat x with
  | .infinite _ => true
  | _ => false

/-- Whether a float stands for no number. -/
def isNaN (x : Float) : Bool :=
  match Binary64.ofFloat x with
  | .notANumber => true
  | _ => false

/-- Numbers other than the infinities and the undefined ones. -/
def isFinite (x : Float) : Bool :=
  match Binary64.ofFloat x with
  | .finite _ => true
  | _ => false

/-- The sign bit. -/
def signBit (x : Float) : Bool := x.toBits.toNat / Nat.pow 2 63 == 1

/-- A number with the sign of another. -/
def copySign (magnitude sign : Float) : Float :=
  Float.ofBits (UInt64.ofNat (magnitude.toBits.toNat % Nat.pow 2 63 + if signBit sign then Nat.pow 2 63 else 0))

/-- Positive infinity. -/
def infinity : Float := Float.ofBits 0x7ff0000000000000

/-- The undefined number. -/
def undefinedNumber : Float := Float.ofBits 0x7ff8000000000000

/-- An integer and a float are compared by their exact values; an undefined number compares with nothing. -/
def compareIntFloat (i : Int) (x : Float) : Option Ordering :=
  match Binary64.ofFloat x with
  | .finite d => some (d.compareInt i).swap
  | .infinite negative => some (if negative then .gt else .lt)
  | .notANumber => none

/-- Two floats are compared by value, so the two zeros are equal. -/
def compareFloat (x y : Float) : Option Ordering :=
  if x < y then some .lt else if y < x then some .gt else if x == y then some .eq else none

end Courier.Number
