/-!
Ascending lists of numbers, written as the steps from each number to the next one. Tables of code points are kept in
this form, because most of their steps are small.
-/

namespace Courier.Text.Steps

/-- The decimal numbers of a text with a blank between each two; `n` is what was read of the first one. -/
def numbers (n : Nat) : List Char → List Nat
  | [] => [n]
  | c :: rest => if c == ' ' then n :: numbers 0 rest else numbers (10 * n + (c.toNat - 48)) rest

/-- The sums of the steps up to each place, on top of a number. -/
def sums (n : Nat) : List Nat → List Nat
  | [] => []
  | step :: rest => (n + step) :: sums (n + step) rest

/-- The ascending list whose steps are told by the lines of a text. -/
def read (lines : List String) : List Nat := sums 0 (lines.flatMap fun s => numbers 0 s.toList)

end Courier.Text.Steps
