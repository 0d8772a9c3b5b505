import Courier.Text.Case
import Courier.Text.LabelTables
import Courier.Text.Normal
import Courier.Text.Punycode
import Courier.Text.Search

/-!
Host names with characters beyond ASCII. A name is made of labels between dots. What a label may hold is decided for
each character by itself, for a few by the characters around it, and for labels that are read from right to left by the
directions of all. A label that passes is written with ASCII alone.
-/

namespace Courier.Text.HostName

/-- Characters that stand for dots between labels. -/
def isDot (c : Char) : Bool := c == '.' || c == '\u3002' || c == '\uff0e' || c == '\uff61'

/-- Whether a character is in a table. -/
def isIn (table : List Nat) (c : Char) : Bool := inTable table c.toNat

/-! ### Characters that need others around them -/

/-- The sign that keeps two letters apart: behind a mark that takes a vowel away, or between letters that would join. -/
def keepsApart (before after : List Char) : Bool :=
  let isVirama (c : Char) : Bool := Normal.markClass c == 9
  let next (cs : List Char) : Option Char := (cs.dropWhile (isIn LabelTables.transparent)).head?
  before.head?.any isVirama ||
    ((next before).any (isIn LabelTables.joinsOn) && (next after).any (isIn LabelTables.joinsBack))

/-- Whether a character fits between those before it, the last one first, and those behind it. -/
def fitsBetween (before after : List Char) (c : Char) : Bool :=
  let around := before ++ after
  if isIn LabelTables.allowed c then true
  else if c == '\u200c' then keepsApart before after
  else if c == '\u200d' then before.head?.any fun b => Normal.markClass b == 9
  else if c == '\u00b7' then before.head? == some 'l' && after.head? == some 'l'
  else if c == '\u0375' then after.head?.any (isIn LabelTables.greek)
  else if c == '\u05f3' || c == '\u05f4' then before.head?.any (isIn LabelTables.hebrew)
  else if c == '\u30fb' then around.any (isIn LabelTables.japanese)
  else if 0x660 ≤ c.toNat && c.toNat ≤ 0x669 then !around.any fun d => 0x6F0 ≤ d.toNat && d.toNat ≤ 0x6F9
  else if 0x6F0 ≤ c.toNat && c.toNat ≤ 0x6F9 then !around.any fun d => 0x660 ≤ d.toNat && d.toNat ≤ 0x669
  else false

/-- Whether every character of a label fits in its place. -/
def allFit : List Char → List Char → Bool
  | _, [] => true
  | before, c :: rest => fitsBetween before rest c && allFit (c :: before) rest

/-! ### Directions -/

/-- The directions in which characters are written. -/
inductive Direction
  | leftward
  | rightward
  | arabicNumber
  | europeanNumber
  | mark
  | neutral
  deriving DecidableEq, Repr

/-- The direction of a character of a label. -/
def direction (c : Char) : Direction :=
  if isIn LabelTables.rightward c then .rightward
  else if isIn LabelTables.arabicNumber c then .arabicNumber
  else if isIn LabelTables.europeanNumber c then .europeanNumber
  else if isIn LabelTables.spaceless c then .mark
  else if isIn LabelTables.neutral c then .neutral
  else .leftward

/-- Whether a label keeps to one direction. One that holds anything written from right to left starts with a letter,
mixes neither directions nor kinds of digits, and ends with a letter or a digit and the marks behind it. -/
def keepsDirection (label : List Char) : Bool :=
  let directions := label.map direction
  let has (d : Direction) : Bool := directions.contains d
  let last := (directions.reverse.dropWhile (· == .mark)).head?
  if !has .rightward && !has .arabicNumber then true
  else match directions.head? with
    | some .rightward =>
      !has .leftward && !(has .arabicNumber && has .europeanNumber) &&
        last.any fun d => d == .rightward || d == .arabicNumber || d == .europeanNumber
    | some .leftward =>
      !has .rightward && !has .arabicNumber && last.any fun d => d == .leftward || d == .europeanNumber
    | _ => false

/-! ### Labels -/

/-- Whether the hyphens of a label stand where they may. -/
def hasFairHyphens (label : List Char) : Bool :=
  label.head? != some '-' && label.getLast? != some '-' && (label.drop 2).take 2 != ['-', '-']

/-- Whether a label may stand in a host name. -/
def isLabel (label : List Char) : Bool :=
  !label.isEmpty && Normal.form false label == label && hasFairHyphens label &&
    !label.head?.any (isIn LabelTables.combining) && allFit [] label && keepsDirection label

/-- What a label of other characters starts with where it is written with ASCII alone. -/
def mark : List Char := ['x', 'n', '-', '-']

/-- Whether a label of ASCII alone stands for one that may stand in a host name. -/
def standsForLabel (label : List Char) : Bool :=
  if mark.isPrefixOf label then
    let written := label.drop 4
    !written.isEmpty && written.getLast? != some '-' && (Punycode.decode? written).any isLabel
  else isLabel label

/-- A label as it stands in a host name of ASCII characters. -/
def label? (label : List Char) : Option (List Char) :=
  let isAscii := label.all fun c => c.toNat < 128
  let written := if isAscii then label else mark ++ Punycode.encode label
  if (if isAscii then standsForLabel label else isLabel label) && written.length ≤ 63 then some written else none

/-- The labels of a host name. -/
def labels : List Char → List (List Char)
  | [] => [[]]
  | c :: rest =>
    if isDot c then [] :: labels rest
    else match labels rest with
      | first :: more => (c :: first) :: more
      | [] => [[c]]

/-- A host name written with ASCII alone. A dot may end it. -/
def toAscii? (s : String) : Option String := do
  let pieces := labels s.toList
  let (pieces, tail) := if 1 < pieces.length && pieces.getLast? == some [] then (pieces.dropLast, ".") else (pieces, "")
  let written ← pieces.mapM label?
  let host := Text.join "." (written.map String.ofList) ++ tail
  if 253 + tail.length < host.length then none else some host

end Courier.Text.HostName
