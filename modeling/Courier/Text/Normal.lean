import Courier.Text.NormalTables

/-!
Normal forms of texts. Characters with several spellings are taken apart, the marks behind a character are put in the
order of their classes, and what fits is put together again. Two texts that differ only in the spelling of marks have
one composed form, and two that mean the same characters have one plain form. The syllables of Hangul are made by
arithmetic, all other spellings are in tables.
-/

namespace Courier.Text

namespace Normal

/-- The class of a mark, zero for a character that is none. -/
def markClass (c : Char) : Nat := classIn NormalTables.classes
where
  classIn : List Nat → Nat
    | first :: last :: n :: rest => if first ≤ c.toNat && c.toNat ≤ last then n else classIn rest
    | _ => 0

/-- The run of a table that can hold a code point: the last one that starts at it or before it. -/
def runBefore? {α : Type} (code : Nat) (runs : List (Nat × α)) : Option (Nat × α) :=
  (runs.takeWhile fun run => run.1 ≤ code).getLast?

/-- The spelling of a character by a table of so many characters for each code point. -/
def spelling? (width : Nat) (runs : List (Nat × String)) (c : Char) : Option (List Char) := do
  let (first, s) ← runBefore? c.toNat runs
  let found := (s.toList.drop (width * (c.toNat - first))).take width
  if found.isEmpty then none else some found

/-- The spelling of a character that means several others. -/
def phrase? (c : Char) : Option (List Char) := do
  let (first, phrases) ← runBefore? c.toNat NormalTables.phrases
  return (← phrases[c.toNat - first]?).toList

/-! ### Hangul -/

/-- The first syllable. -/
def syllableStart : Nat := 0xAC00

/-- The number of syllables. -/
def syllableCount : Nat := 19 * 21 * 28

/-- The letters of a syllable: an initial, a vowel and perhaps a final one. -/
def syllableLetters? (c : Char) : Option (List Char) :=
  let n := c.toNat - syllableStart
  if c.toNat < syllableStart || syllableCount ≤ n then none
  else
    let initial := Char.ofNat (0x1100 + n / (21 * 28))
    let vowel := Char.ofNat (0x1161 + n % (21 * 28) / 28)
    some (if n % 28 == 0 then [initial, vowel] else [initial, vowel, Char.ofNat (0x11A7 + n % 28)])

/-- The syllable of two parts: an initial letter and a vowel, or a syllable without a final letter and one. -/
def syllable? (a b : Char) : Option Char :=
  let initial := a.toNat - 0x1100
  let vowel := b.toNat - 0x1161
  let final := b.toNat - 0x11A7
  if 0x1100 ≤ a.toNat && initial < 19 && 0x1161 ≤ b.toNat && vowel < 21 then
    some (Char.ofNat (syllableStart + (initial * 21 + vowel) * 28))
  else if syllableStart ≤ a.toNat && a.toNat - syllableStart < syllableCount &&
      (a.toNat - syllableStart) % 28 == 0 && 0 < final && final < 28 then
    some (Char.ofNat (a.toNat + final))
  else none

/-! ### Taking apart -/

/-- The spelling of a character by others, one step deep. `plain` asks for what it means, too. -/
def spelling (plain : Bool) (c : Char) : Option (List Char) :=
  ((syllableLetters? c).orElse fun _ => (spelling? 2 NormalTables.pairs c).orElse fun _ =>
    spelling? 1 NormalTables.singles c).orElse fun _ =>
      if plain then (spelling? 1 NormalTables.meanings c).orElse fun _ => phrase? c else none

/-- No character has to be taken apart more often. -/
def depth : Nat := 8

/-- A character taken apart as far as possible. -/
def takenApart (plain : Bool) : Nat → Char → List Char
  | 0, c => [c]
  | fuel + 1, c =>
    if c.toNat < 0xA0 then [c]
    else match spelling plain c with
      | some cs => cs.flatMap (takenApart plain fuel)
      | none => [c]

/-- Characters with the marks behind each character in the order of their classes. `marks` are those before the present
place. -/
def ordered : List Char → List Char → List Char
  | marks, [] => inOrder marks
  | marks, c :: rest => if markClass c == 0 then inOrder marks ++ c :: ordered [] rest else ordered (marks ++ [c]) rest
where
  inOrder (marks : List Char) : List Char := marks.mergeSort fun a b => markClass a ≤ markClass b

/-! ### Putting together -/

/-- The character of a run that is spelled by two others. -/
def pairIn? (a b : Char) : Nat → List Char → Option Char
  | code, x :: y :: rest => if x == a && y == b then some (Char.ofNat code) else pairIn? a b (code + 1) rest
  | _, _ => none

/-- The character that a character and a mark behind it make. -/
def together? (a b : Char) : Option Char :=
  (syllable? a b).orElse fun _ =>
    if b.toNat < 0x300 then none
    else NormalTables.pairs.findSome? fun (first, s) =>
      (pairIn? a b first s.toList).filter fun c => !NormalTables.separate.contains c.toNat

/-- Puts together what fits. `base` is the last character that can take marks, and `marks` are those behind it that it
did not take, the last one first. A mark is kept from its base by one of its own class or a higher one. -/
def composed : Option Char → List Char → List Char → List Char
  | base, marks, [] => base.toList ++ marks.reverse
  | base, marks, c :: rest =>
    let isOpen := match marks with
      | [] => true
      | m :: _ => markClass m < markClass c
    match (if isOpen then base.bind (together? · c) else none) with
    | some joined => composed (some joined) marks rest
    | none =>
      if markClass c == 0 then base.toList ++ marks.reverse ++ composed (some c) [] rest
      else composed base (c :: marks) rest

/-- A text in its normal form. -/
def form (plain : Bool) (cs : List Char) : List Char :=
  if cs.all fun c => c.toNat < 0xA0 then cs
  else composed none [] (ordered [] (cs.flatMap (takenApart plain depth)))

end Normal

/-- The plain form of a text: every character as what it means. -/
def plainForm (s : String) : String := String.ofList (Normal.form true s.toList)

end Courier.Text
