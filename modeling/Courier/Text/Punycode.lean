import Courier.Text.Surrogate
import Courier.Text.Encoding

/-!
Labels with characters beyond ASCII, written with ASCII alone. The characters beyond ASCII of a label are taken
out and told by their differences, in an order by code point, as numbers with digits of adapting thresholds.
-/

namespace Courier.Text.Punycode

/-- The character of a digit. -/
def digit (n : Nat) : Char := if n < 26 then Char.ofNat (97 + n) else Char.ofNat (22 + n)

/-- The threshold of the digit at a place. -/
def threshold (place bias : Nat) : Nat := if place ≤ bias then 1 else if bias + 26 ≤ place then 26 else place - bias

/-- Scales a difference down: what remains of it, and how often it was scaled. -/
def scaled (delta steps : Nat) : Nat × Nat :=
  if 455 < delta then scaled (delta / 35) (steps + 36) else (delta, steps)
termination_by delta
decreasing_by exact Nat.div_lt_self (by omega) (by omega)

/-- The bias after a difference, when so many characters were written. -/
def adapt (delta count : Nat) (isFirst : Bool) : Nat :=
  let delta := if isFirst then delta / 700 else delta / 2
  let (delta, steps) := scaled (delta + delta / count) 0
  steps + 36 * delta / (delta + 38)

/-- The digits of a difference. -/
def digits (bias place n : Nat) : List Char :=
  let t := threshold place bias
  if n < t then [digit n]
  else digit (t + (n - t) % (36 - t)) :: digits bias (place + 36) ((n - t) / (36 - t))
termination_by n
decreasing_by
  have positive : 1 ≤ threshold place bias := by unfold threshold; split <;> (try split) <;> omega
  calc (n - threshold place bias) / (36 - threshold place bias)
      ≤ n - threshold place bias := Nat.div_le_self _ _
    _ < n := by omega

/-- What is known in the middle of a label. -/
structure Progress where
  written : List Char
  delta : Nat
  bias : Nat
  count : Nat

/-- Takes one character of the label into account while a code point is being told. -/
def step (basic code : Nat) (p : Progress) (c : Char) : Progress :=
  if c.toNat < code then { p with delta := p.delta + 1 }
  else if c.toNat == code then
    { written := p.written ++ digits p.bias 36 p.delta, delta := 0,
      bias := adapt p.delta (p.count + 1) (p.count == basic), count := p.count + 1 }
  else p

/-- Tells code points in their order. -/
def tell (label : List Char) (basic : Nat) : List Nat → Nat → Progress → Progress
  | [], _, p => p
  | code :: rest, next, p =>
    let p := { p with delta := p.delta + (code - next) * (p.count + 1) }
    let p := label.foldl (step basic code) p
    tell label basic rest (code + 1) { p with delta := p.delta + 1 }

/-- A label written with ASCII alone. -/
def encode (label : List Char) : List Char :=
  let plain := label.filter fun c => c.toNat < 128
  let codes := ((label.filter fun c => 128 ≤ c.toNat).map Char.toNat).mergeSort.eraseDups
  let told := tell label plain.length codes 128 ⟨[], 0, 72, plain.length⟩
  plain ++ (if plain.isEmpty then [] else ['-']) ++ told.written

/-! ### Reading -/

/-- The value of a digit. -/
def digitValue? (c : Char) : Option Nat :=
  if 'a' ≤ c && c ≤ 'z' then some (c.toNat - 97) else if '0' ≤ c && c ≤ '9' then some (c.toNat - 22) else none

/-- The difference that a text starts with, and the rest. `weight` is what a digit at this place is worth. -/
def difference? (bias : Nat) : Nat → Nat → List Char → Option (Nat × List Char)
  | _, _, [] => none
  | place, weight, c :: rest => do
    let n ← digitValue? c
    let t := threshold place bias
    if n < t then return (n * weight, rest)
    let (more, rest) ← difference? bias (place + 36) (weight * (36 - t)) rest
    return (n * weight + more, rest)

/-- Puts the characters that a text tells into a label. `state` counts code points and places: the next character is
told from there. The fuel counts characters. -/
def put? : Nat → Nat → Nat → Bool → List Char → List Char → Option (List Char)
  | 0, _, _, _, label, _ => some label
  | _, _, _, _, label, [] => some label
  | fuel + 1, bias, state, isFirst, label, told => do
    let (delta, rest) ← difference? bias 36 1 told
    let count := label.length + 1
    let state := state + delta
    let code := state / count
    if 0x10FFFF < code then none
    else
      let place := state % count
      put? fuel (adapt delta count isFirst) (code * (count + 1) + place + 1) false
        (label.take place ++ Char.ofNat code :: label.drop place) rest

/-- The label that ASCII characters stand for: those up to the last hyphen, and what the others tell. -/
def decode? (written : List Char) : Option (List Char) :=
  let told := (written.reverse.takeWhile (· != '-')).reverse
  let plain := (written.take (written.length - told.length)).dropLast
  put? (told.length + 1) 72 (128 * (plain.length + 1)) true plain told

/-- Puts the characters that a text tells into a label, as `put?` does, up to the first mistake. A number beyond all
code points tells a question mark. -/
def putAll : Nat → Nat → Nat → Bool → List Char → List Char → List Char
  | 0, _, _, _, label, _ => label
  | _, _, _, _, label, [] => label
  | fuel + 1, bias, state, isFirst, label, told =>
    match difference? bias 36 1 told with
    | none => label
    | some (delta, rest) =>
      let count := label.length + 1
      let state := state + delta
      let code := if 0x10FFFF < state / count then '?'.toNat else state / count
      let place := state % count
      putAll fuel (adapt delta count isFirst) (code * (count + 1) + place + 1) false
        (label.take place ++ charOfEscape code :: label.drop place) rest

/-- The text that bytes stand for. Bytes beyond ASCII stand for nothing in front of the last hyphen, and may not stand
behind it. -/
def textOf (bytes : Bytes) : Except Unreadable String :=
  let told := (bytes.reverse.takeWhile (· != 0x2D)).reverse
  let plain := (bytes.take (bytes.length - told.length)).dropLast
  match told.zipIdx.find? fun (b, _) => 128 ≤ b.toNat with
  | some (b, position) => .error (.notAscii b position)
  | none =>
    let plain := plain.map fun b => if b.toNat < 128 then Char.ofNat b.toNat else replacement
    .ok (String.ofList (putAll (told.length + 1) 72 (128 * (plain.length + 1)) true plain
      (told.map fun b => (Char.ofNat b.toNat).toLower)))

end Courier.Text.Punycode
