import Courier.Number.Binary64

/-!
Division, remainder, rounding and powers of integers and floats. Remainders take the sign of the divisor, and
quotients are rounded towards minus infinity to match.
-/

namespace Courier.Number

/-- Why an operation on numbers has no result. -/
inductive ArithmeticFault
  | quotientOverflow
  | conversionOverflow
  | resultOverflow
  | roundingOverflow
  | zeroToNegativePower
  | notReal
  deriving DecidableEq, Repr

/-- The float nearest to an integer, unless that is infinite. -/
def floatOfInt? (i : Int) : Except ArithmeticFault Float :=
  let x := floatOfInt i
  if isInfinite x then .error .conversionOverflow else .ok x

/-- The float nearest to the quotient of two integers; the divisor is not zero. A zero has the sign of the divisor. -/
def divideInts (a b : Int) : Except ArithmeticFault Float :=
  let x := Binary64.ofRatio ((a < 0) != (b < 0)) a.natAbs b.natAbs
  if isInfinite x then .error .quotientOverflow else .ok x

/-- The exact remainder of a division that rounds towards zero; it has the sign of the dividend. -/
def truncatedRemainder (x y : Float) : Float :=
  match Binary64.ofFloat x, Binary64.ofFloat y with
  | .finite a, .finite b =>
    if b.mantissa == 0 then undefinedNumber
    else
      let exponent := min a.exponent b.exponent
      let (n, _) := Binary64.scale a.mantissa 1 (a.exponent - exponent)
      let (m, _) := Binary64.scale b.mantissa 1 (b.exponent - exponent)
      Dyadic.toFloat ⟨a.negative, n % m, exponent⟩
  | .finite _, .infinite _ => x
  | _, _ => undefinedNumber

/-- The quotient rounded down and the remainder with the sign of the divisor; the divisor is not zero. -/
def floorDivide (x y : Float) : Float × Float :=
  let r := truncatedRemainder x y
  let q := (x - r) / y
  let (q, r) :=
    if r == 0 then (q, copySign 0 y)
    else if (y < 0) != (r < 0) then (q - 1, r + y)
    else (q, r)
  if q == 0 then (copySign 0 (x / y), r)
  else
    let whole := q.floor
    (if q - whole > 0.5 then whole + 1 else whole, r)

/-- A float rounded to a number of decimal places, a tie of the exact value to the even neighbour. -/
def roundPlaces (x : Float) (places : Int) : Except ArithmeticFault Float :=
  match Binary64.ofFloat x with
  | .finite d =>
    if d.mantissa == 0 || 323 < places then .ok x
    else if places < -308 then .ok (copySign 0 x)
    else
      let (n, m) := d.ratio
      let result :=
        if 0 ≤ places then
          let unit := Nat.pow 10 places.toNat
          Binary64.ofRatio d.negative (Binary64.roundHalfEven (n * unit) m) unit
        else
          let unit := Nat.pow 10 (-places).toNat
          Binary64.ofRatio d.negative (Binary64.roundHalfEven n (m * unit) * unit) 1
      if isInfinite result then .error .roundingOverflow else .ok result
  | _ => .ok x

/-- An integer rounded to a number of decimal places, which changes it when the number is negative. -/
def roundIntPlaces (i : Int) (places : Int) : Int :=
  if 0 ≤ places then i
  else
    let unit := Nat.pow 10 (-places).toNat
    let rounded : Int := Binary64.roundHalfEven i.natAbs unit * unit
    if i < 0 then -rounded else rounded

/-- A float as an integer, its fraction cut off. -/
def truncate? (x : Float) : Option Int :=
  match Binary64.ofFloat x with
  | .finite d => some d.truncate
  | _ => none

/-- Whole floats. -/
def isWhole (x : Float) : Bool :=
  match Binary64.ofFloat x with
  | .finite d => d.isInteger
  | _ => false

/-- A power of floats. Zero has no negative powers, and a negative base has whole powers only. -/
def power (x y : Float) : Except ArithmeticFault Float :=
  if x == 0 && y < 0 then .error .zeroToNegativePower
  else if x < 0 && isFinite x && isFinite y && !isWhole y then .error .notReal
  else
    let z := x.pow y
    if isInfinite z && isFinite x && isFinite y then .error .resultOverflow else .ok z

end Courier.Number
