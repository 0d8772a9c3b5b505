import Courier.Text.BigFiveTables
import Courier.Text.HangulTables
import Courier.Text.HanziTables
import Courier.Text.KanjiTables
import Courier.Text.Encoding

/-!
Encodings that have several bytes for most characters. Each of them tells what stands at the head of some bytes: a byte
below 128 stands for itself, and the others find their character in a table. Where bytes stand for nothing only the
first of them is given up, so that the next may begin a character.
-/

namespace Courier.Text

/-- What stands at the head of some bytes. -/
inductive Head
  /-- So many bytes stand for characters. -/
  | chars (cs : List Char) (length : Nat)
  /-- So many bytes stand for nothing. -/
  | nothing (length : Nat)
  /-- The bytes end within a character. -/
  | unfinished

/-- How many bytes may be left over within a character. -/
def leftLimit : Nat := 8

/-- The characters of bytes that are read from the head on, in a state that they can change. `read` holds those so far,
the last one first. The fuel counts bytes. -/
def readHeads {σ : Type} (head : σ → UInt8 → Bytes → Head × σ) :
    Nat → σ → List Char → Bytes → Except Unreadable (List Char)
  | 0, _, read, _ => .ok read.reverse
  | _, _, read, [] => .ok read.reverse
  | fuel + 1, state, read, b :: rest =>
    match head state b rest with
    | (.chars cs length, next) => readHeads head fuel next (cs.reverse ++ read) ((b :: rest).drop length)
    | (.nothing length, next) => readHeads head fuel next (replacement :: read) ((b :: rest).drop length)
    | (.unfinished, _) =>
      if leftLimit ≤ rest.length then .error .tooManyLeft else .ok (replacement :: read).reverse

/-- The text of bytes that are read from the head on. -/
def textOfHeads {σ : Type} (head : σ → UInt8 → Bytes → Head × σ) (start : σ) (bytes : Bytes) :
    Except Unreadable String := do
  return String.ofList (← readHeads head bytes.length start [] bytes)

/-- The encodings that have several bytes for most characters. -/
inductive Wide
  | shiftJis
  | windowsJapanese
  | eucJapanese
  | gb2312
  | gbk
  | gb18030
  | bigFive
  | windowsBigFive
  | eucKorean
  | unifiedHangul
  deriving DecidableEq, Repr

namespace Wide

/-! ### Places in tables -/

/-- The character in a cell of a line. -/
def inLine? (line : String) (cell : Nat) : Option Char := line.toList[cell]?.filter (· != replacement)

/-- The character at a place in lines of ninety-four cells. -/
def inLines? (lines : Array String) (place : Nat) : Option Char := do inLine? (← lines[place / 94]?) (place % 94)

/-- The character at a place in runs. -/
def inRuns? (runs : List (Nat × String)) (place : Nat) : Option Char := do
  let (first, run) ← runs.find? fun (first, run) => first ≤ place && place < first + run.length
  inLine? run (place - first)

/-- Whether a number lies between two others. -/
def within (first last n : Nat) : Bool := first ≤ n && n ≤ last

/-- The place of two bytes in a square of ninety-four rows, whose bytes begin with 0xA1. -/
def squarePlace? (a b : Nat) : Option Nat :=
  if within 0xA1 0xFE a && within 0xA1 0xFE b then some ((a - 0xA1) * 94 + (b - 0xA1)) else none

/-- The place of two bytes in a square that is folded so that its rows lie two by two, around the bytes of narrow
letters. -/
def foldedPlace? (a b : Nat) : Option Nat :=
  if (within 0x81 0x9F a || within 0xE0 0xFC a) && within 0x40 0xFC b && b != 0x7F then
    some ((if a < 0xE0 then a - 0x81 else a - 0xC1) * 188 + (if b < 0x7F then b - 0x40 else b - 0x41))
  else none

/-- The place of two bytes among the characters of GBK. -/
def extendedPlace? (a b : Nat) : Option Nat :=
  if within 0x81 0xFE a && within 0x40 0xFE b && b != 0x7F then
    some ((a - 0x81) * 190 + (if b < 0x7F then b - 0x40 else b - 0x41))
  else none

/-- The place of two bytes among the characters of Big5. -/
def bigFivePlace? (a b : Nat) : Option Nat :=
  if within 0xA1 0xFE a && (within 0x40 0x7E b || within 0xA1 0xFE b) then
    some ((a - 0xA1) * 157 + (if b < 0x7F then b - 0x40 else b - 0x62))
  else none

/-- The place of two bytes among the syllables that have no cell in the square. In front of the square a first byte has
178 of them, and 84 beside it. -/
def syllablePlace? (a b : Nat) : Option Nat := do
  let column ←
    if within 0x41 0x5A b then some (b - 0x41)
    else if within 0x61 0x7A b then some (b - 0x61 + 26)
    else if within 0x81 0xFE b then some (b - 0x81 + 52)
    else none
  if within 0x81 0xA0 a then some ((a - 0x81) * 178 + column)
  else if within 0xA1 0xC6 a && column < 84 then some (32 * 178 + (a - 0xA1) * 84 + column)
  else none

/-! ### Characters of two bytes -/

/-- A narrow letter of Japanese. -/
def narrow (b : Nat) : Char := Char.ofNat (0xFF61 + (b - 0xA1))

/-- The characters of Windows that take two bytes: its own ones, those of the first set, and private ones. -/
def windowsJapanese? (a b : Nat) : Option Char := do
  let place ← foldedPlace? a b
  match KanjiTables.windows.find? (·.1 == place / 94) with
  | some (_, line) => match inLine? line (place % 94) with
    | some c => some c
    | none => inLines? KanjiTables.first place
  | none =>
    if within 0xF0 0xF9 a then some (Char.ofNat (0xE000 + (place - (0xF0 - 0xC1) * 188)))
    else inLines? KanjiTables.first place

/-- The characters of GBK. -/
def extended? (a b : Nat) : Option Char := do inLines? HanziTables.extended (← extendedPlace? a b)

/-- The characters of GB 2312. Two of them have another form than in GBK. -/
def national? (a b : Nat) : Option Char := do
  let place ← squarePlace? a b
  if HanziTables.national.any fun (first, count) => first ≤ place && place < first + count then
    if place == 3 then some '・' else if place == 9 then some '―' else extended? a b
  else none

/-- The characters of two bytes in GB 18030. -/
def added? (a b : Nat) : Option Char := do
  let place ← extendedPlace? a b
  match inLines? HanziTables.extended place with
  | some c => some c
  | none =>
    let (first, _, code) ← HanziTables.added.find? fun (first, count, _) => first ≤ place && place < first + count
    some (Char.ofNat (code + (place - first)))

/-- The characters of Big5. -/
def bigFive? (a b : Nat) : Option Char := do inLines? BigFiveTables.plain (← bigFivePlace? a b)

/-- The characters of Windows in Taiwan. -/
def windowsBigFive? (a b : Nat) : Option Char := do
  let place ← bigFivePlace? a b
  match inRuns? BigFiveTables.windows place with
  | some c => some c
  | none => inLines? BigFiveTables.plain place

/-- The characters of KS X 1001. -/
def korean? (a b : Nat) : Option Char := do inLines? HangulTables.rows (← squarePlace? a b)

/-- The characters from a code on, of which so many are left, without those of a list in order. -/
def without : Nat → Nat → List Char → List Char
  | 0, _, _ => []
  | left + 1, code, [] => Char.ofNat code :: without left (code + 1) []
  | left + 1, code, c :: cs =>
    if c.toNat == code then without left (code + 1) cs else Char.ofNat code :: without left (code + 1) (c :: cs)

/-- How many syllables Korean has, and the code of the first. -/
def syllableCount : Nat := 11172

/-- The code of the first syllable of Korean. -/
def firstSyllable : Nat := 0xAC00

/-- The syllables that have no cell in the square, in order. -/
def looseSyllables : Array Char :=
  let square := HangulTables.rows.toList.flatMap String.toList
  (without syllableCount firstSyllable
    (square.filter fun c => within firstSyllable (firstSyllable + syllableCount - 1) c.toNat)).toArray

/-- The characters of two bytes in unified Hangul. -/
def unified? (a b : Nat) : Option Char :=
  match korean? a b with
  | some c => some c
  | none => do looseSyllables[← syllablePlace? a b]?

/-! ### Reading -/

/-- What two bytes stand for. -/
def pair (find? : Nat → Nat → Option Char) (a : UInt8) : Bytes → Head
  | [] => .nothing 1
  | b :: _ => match find? a.toNat b.toNat with
    | some c => .chars [c] 2
    | none => .nothing 1

/-- A character of the second set of Japanese, behind a byte that calls it. -/
def second : Bytes → Head
  | a :: b :: _ => match (squarePlace? a.toNat b.toNat).bind (inLines? KanjiTables.second) with
    | some c => .chars [c] 3
    | none => .nothing 1
  | _ => .unfinished

/-- The character of a number that four bytes make. The first ones lie in the basic plane, and those from a number on
beyond it. -/
def ofFour? (n : Nat) : Option Char :=
  if n < 39420 then do
    let (first, code) ← HanziTables.fourBytes.reverse.find? (·.1 ≤ n)
    some (Char.ofNat (code + (n - first)))
  else if 189000 ≤ n && n - 189000 < 0x100000 then some (Char.ofNat (0x10000 + (n - 189000)))
  else none

/-- A character of four bytes. -/
def four (a b : UInt8) : Bytes → Head
  | c :: d :: _ =>
    if within 0x81 0xFE a.toNat && within 0x81 0xFE c.toNat && within 0x30 0x39 d.toNat then
      let n := (((a.toNat - 0x81) * 10 + (b.toNat - 0x30)) * 126 + (c.toNat - 0x81)) * 10 + (d.toNat - 0x30)
      match ofFour? n with
      | some c => .chars [c] 4
      | none => .nothing 1
    else .nothing 1
  | _ => .unfinished

/-- The letters that can open a syllable, in the order of syllables. -/
def openings : List Nat :=
  [0xA1, 0xA2, 0xA4, 0xA7, 0xA8, 0xA9, 0xB1, 0xB2, 0xB3, 0xB5, 0xB6, 0xB7, 0xB8, 0xB9, 0xBA, 0xBB, 0xBC, 0xBD, 0xBE]

/-- The letters that can close a syllable, in the order of syllables; the first stands for none. -/
def closings : List Nat :=
  [0xD4, 0xA1, 0xA2, 0xA3, 0xA4, 0xA5, 0xA6, 0xA7, 0xA9, 0xAA, 0xAB, 0xAC, 0xAD, 0xAE, 0xAF, 0xB0, 0xB1, 0xB2, 0xB4,
    0xB5, 0xB6, 0xB7, 0xB8, 0xBA, 0xBB, 0xBC, 0xBD, 0xBE]

/-- A syllable that is spelled out: after the filler, the letter that opens it, its vowel and the letter that closes it,
each behind the byte of the row of letters. -/
def spelled : Bytes → Head
  | a :: opening :: b :: vowel :: c :: closing :: _ =>
    match openings.idxOf? opening.toNat, closings.idxOf? closing.toNat with
    | some first, some last =>
      if a == 0xA4 && b == 0xA4 && c == 0xA4 && within 0xBF 0xD3 vowel.toNat then
        .chars [Char.ofNat (firstSyllable + first * 588 + (vowel.toNat - 0xBF) * 28 + last)] 8
      else .nothing 1
    | _, _ => .nothing 1
  | _ => .unfinished

/-- What stands at the head of bytes, of which the first is not that of an ASCII character. -/
def headOf (encoding : Wide) (a : UInt8) (rest : Bytes) : Head :=
  match encoding with
  | shiftJis =>
    if within 0xA1 0xDF a.toNat then .chars [narrow a.toNat] 1
    else pair (fun a b => (foldedPlace? a b).bind (inLines? KanjiTables.first)) a rest
  | windowsJapanese =>
    if a == 0x80 then .chars ['\u0080'] 1
    else if a == 0xA0 then .chars ['\uf8f0'] 1
    else if within 0xA1 0xDF a.toNat then .chars [narrow a.toNat] 1
    else if 0xFD ≤ a.toNat then .chars [Char.ofNat (0xF8F1 + (a.toNat - 0xFD))] 1
    else pair windowsJapanese? a rest
  | eucJapanese =>
    if a == 0x8E then pair (fun _ b => if within 0xA1 0xDF b then some (narrow b) else none) a rest
    else if a == 0x8F then second rest
    else pair (fun a b => (squarePlace? a b).bind (inLines? KanjiTables.first)) a rest
  | gb2312 => pair national? a rest
  | gbk => pair extended? a rest
  | gb18030 => match rest with
    | [] => .nothing 1
    | b :: tail => if within 0x30 0x39 b.toNat then four a b tail else pair added? a rest
  | bigFive => pair bigFive? a rest
  | windowsBigFive => pair windowsBigFive? a rest
  | eucKorean => match rest with
    | 0xD4 :: tail => if a == 0xA4 then spelled tail else pair korean? a rest
    | _ => pair korean? a rest
  | unifiedHangul => pair unified? a rest

/-- What stands at the head of bytes. -/
def head (encoding : Wide) (a : UInt8) (rest : Bytes) : Head :=
  if a.toNat < 128 then .chars [Char.ofNat a.toNat] 1 else encoding.headOf a rest

/-- The text of bytes. -/
def read (encoding : Wide) : Bytes → Except Unreadable String :=
  textOfHeads (fun (_ : Unit) a rest => (encoding.head a rest, ())) ()

end Wide

end Courier.Text
