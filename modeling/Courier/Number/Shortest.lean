import Courier.Number.Binary64

/-!
The shortest decimal text of a float: the fewest digits that read back as the same number, and of those the
nearest to it. All arithmetic is exact: the numbers that round to a float form an interval of fractions, and a
decimal grid is searched for a point inside.
-/

namespace Courier.Number

/-- Decimal digits after a point: `0.d₁d₂… · 10 ^ point`, where `digits` is `d₁d₂…` read as an integer. -/
structure DecimalDigits where
  digits : Nat
  point : Int
  deriving DecidableEq, Repr

namespace Shortest

/-- The fractions that round to a positive float: twice its neighbours' midpoints, over a common denominator, and
whether the ends belong to the interval. -/
structure Interval where
  low : Nat
  value : Nat
  high : Nat
  den : Nat
  closed : Bool

/-- The interval of `mantissa · 2 ^ exponent`. Below a power of two the next number is only half as far away. -/
def interval (mantissa : Nat) (exponent : Int) : Interval :=
  let (unit, den) := Binary64.scale 1 4 exponent
  let gap := if mantissa == Nat.pow 2 52 && -1074 < exponent then 1 else 2
  ⟨(4 * mantissa - gap) * unit, 4 * mantissa * unit, (4 * mantissa + 2) * unit, den, mantissa % 2 == 0⟩

/-- How many zeros follow the point before the first digit of a fraction below one. -/
def leadingZeros (num den : Nat) : Nat → Nat
  | 0 => 0
  | fuel + 1 => if num * 10 < den then leadingZeros (num * 10) den fuel + 1 else 0

/-- The decimal point: `10 ^ (point - 1) ≤ num / den < 10 ^ point`. -/
def point (num den : Nat) : Int :=
  let whole := num / den
  if whole == 0 then -(leadingZeros num den 400 : Int) else ((Nat.repr whole).length : Int)

/-- A power of ten as numerator and denominator. -/
def powerOfTen (power : Int) : Nat × Nat :=
  if 0 ≤ power then (Nat.pow 10 power.toNat, 1) else (1, Nat.pow 10 (-power).toNat)

/-- Whether a point of the grid `10 ^ power` lies in the interval. -/
def inside (i : Interval) (digits : Nat) (power : Int) : Bool :=
  let (n, d) := powerOfTen power
  let here := digits * n * i.den
  if i.closed then i.low * d ≤ here && here ≤ i.high * d else i.low * d < here && here < i.high * d

/-- The better of the value's two neighbours on the grid `10 ^ power`, if one of them lies in the interval. -/
def onGrid (i : Interval) (power : Int) : Option Nat :=
  let (n, d) := powerOfTen power
  let below := i.value * d / (i.den * n)
  let above := below + 1
  match inside i below power, inside i above power with
  | true, true =>
    let scaled := 2 * i.value * d
    let middle := (2 * below + 1) * n * i.den
    some (if scaled < middle then below else if middle < scaled then above
      else if below % 2 == 0 then below else above)
  | true, false => some below
  | false, true => some above
  | false, false => none

/-- Tries one digit, then two, and so on; with seventeen there is always a hit. -/
def search (i : Interval) (point : Int) : Nat → Nat → DecimalDigits
  | 0, count => ⟨(onGrid i (point - count)).getD 0, point⟩
  | fuel + 1, count =>
    match onGrid i (point - count) with
    | some digits =>
      if digits == Nat.pow 10 count then ⟨1, point + 1⟩ else ⟨digits, point⟩
    | none => search i point fuel (count + 1)

end Shortest

/-- The fewest digits that read back as `mantissa · 2 ^ exponent`, for a positive mantissa. -/
def shortestDigits (mantissa : Nat) (exponent : Int) : DecimalDigits :=
  let i := Shortest.interval mantissa exponent
  Shortest.search i (Shortest.point i.value i.den) 16 1

end Courier.Number
