import Courier.Text.Surrogate
import Courier.Text.Wide

/-!
Encodings of seven bits, in which some bytes change what those behind them stand for: HZ for simplified Chinese, ISO
2022 for Japanese and Korean, and UTF-7.
-/

namespace Courier.Text

/-- The families of ISO 2022, which differ in the sets that can be called. -/
inductive Iso2022
  | japanese
  | japaneseOne
  | japaneseExtended
  | korean
  deriving DecidableEq, Repr

/-- The encodings in which bytes change what those behind them stand for. -/
inductive Shifted
  | hz
  | iso2022 (family : Iso2022)
  | utf7
  deriving DecidableEq, Repr

/-- The character of two bytes of a square whose bytes have no eighth bit. -/
def inSquare? (find? : Nat → Nat → Option Char) (a b : Nat) : Option Char :=
  if a < 128 && b < 128 then find? (a + 128) (b + 128) else none

/-! ### HZ -/

namespace Hz

/-- What stands at the head of bytes, and whether pairs follow. A tilde opens and closes runs of pairs. -/
def head (paired : Bool) (a : UInt8) (rest : Bytes) : Head × Bool :=
  if a == 0x7E then
    match rest with
    | [] => (.nothing 1, paired)
    | b :: _ =>
      if paired then if b == 0x7D then (.chars [] 2, false) else (.nothing 1, true)
      else if b == 0x7E then (.chars ['~'] 2, false)
      else if b == 0x7B then (.chars [] 2, true)
      else if b == 0x0A then (.chars [] 2, false)
      else (.nothing 1, false)
  else if 128 ≤ a.toNat then (.nothing 1, paired)
  else if paired then (Wide.pair (inSquare? Wide.national?) a rest, true)
  else (.chars [Char.ofNat a.toNat] 1, false)

end Hz

/-! ### ISO 2022 -/

namespace Iso2022

/-- The sets of characters. -/
inductive CodedSet
  | ascii
  | jisRoman
  | jisKana
  | jisFirst
  | jisSecond
  | korean
  deriving DecidableEq, Repr

/-- A way to call a set: the last byte of the sequence, and whether the characters of the set take two bytes. -/
structure Call where
  last : Char
  isDouble : Bool
  deriving DecidableEq, Repr

/-- The sets of Japanese, with the ways to call them. -/
def japaneseSets : List (Call × CodedSet) :=
  [(⟨'B', false⟩, .ascii), (⟨'B', true⟩, .jisFirst), (⟨'J', false⟩, .jisRoman), (⟨'@', true⟩, .jisFirst)]

/-- The sets that a family has, with the ways to call them. -/
def sets : Iso2022 → List (Call × CodedSet)
  | japanese => japaneseSets
  | japaneseOne => (⟨'D', true⟩, .jisSecond) :: japaneseSets
  | japaneseExtended => (⟨'D', true⟩, .jisSecond) :: (⟨'I', false⟩, .jisKana) :: japaneseSets
  | korean => [(⟨'B', false⟩, .ascii), (⟨'C', true⟩, .korean)]

/-- Whether a family shifts between two sets. The others mark a later edition of the set that they call. -/
def shifts : Iso2022 → Bool
  | korean => true
  | _ => false

/-- What was called: the set without a shift and the one under it, whether the shift is on, and whether a sequence goes
on that calls nothing. -/
structure Called where
  plain : CodedSet
  other : CodedSet
  shifted : Bool
  inSequence : Bool

/-- Nothing but ASCII is called at the start. -/
def Called.start : Called := ⟨.ascii, .ascii, false, false⟩

/-- Whether a byte ends a sequence. -/
def endsSequence (b : UInt8) : Bool := Wide.within 'A'.toNat 'Z'.toNat b.toNat || b.toNat == '@'.toNat

/-- How many bytes a sequence has in which so many come before those that are given; `none` if the bytes end before it
does, and no bytes if it does not end before the sixteenth. The mark of a later edition and the byte behind it are
passed over: `skip` is how many bytes of that are still to come. -/
def sequenceLength? (marks : Bool) : Nat → Nat → Bytes → Option Nat
  | skip, before, [] => if before + skip < 16 then none else some 0
  | skip + 1, before, _ :: rest => sequenceLength? marks skip (before + 1) rest
  | 0, before, b :: rest =>
    if 16 ≤ before then some 0
    else if endsSequence b then some (before + 1)
    else sequenceLength? marks (if marks && b == 0x26 && rest.head? == some 0x40 then 2 else 0) (before + 1) rest

/-- Whether a set that is called goes under the shift. -/
def underShift? (b : UInt8) : Option Bool :=
  if b.toNat == '('.toNat then some false else if b.toNat == ')'.toNat then some true else none

/-- What a sequence without its escape byte calls: whether it goes under the shift, and the way the set is called. -/
def callOf? (marks : Bool) : Bytes → Option (Bool × Call)
  | [a, last] =>
    if a.toNat == '$'.toNat then some (false, ⟨Char.ofNat last.toNat, true⟩)
    else (underShift? a).map fun under => (under, ⟨Char.ofNat last.toNat, false⟩)
  | [a, b, last] =>
    if a.toNat == '$'.toNat then (underShift? b).map fun under => (under, ⟨Char.ofNat last.toNat, true⟩) else none
  | [_, _, 0x1B, 0x24, 0x42] => if marks then some (false, ⟨'B', true⟩) else none
  | _ => none

/-- What a sequence changes, of which the bytes behind the escape byte are given. -/
def escape (family : Iso2022) (called : Called) (rest : Bytes) : Head × Called :=
  match sequenceLength? (!family.shifts) 0 1 rest with
  | none => (.unfinished, called)
  | some 0 => (.nothing 1, called)
  | some (n + 1) =>
    match callOf? (!family.shifts) (rest.take n) with
    | none => (.nothing (n + 1), called)
    | some (under, call) =>
      match family.sets.lookup call with
      | none => (.nothing (n + 1), called)
      | some set => (.chars [] (n + 1), if under then { called with other := set } else { called with plain := set })

/-- A character of two bytes; both are given up where they stand for nothing. -/
def double (find? : Nat → Nat → Option Char) (a : UInt8) : Bytes → Head
  | [] => .unfinished
  | b :: _ => match inSquare? find? a.toNat b.toNat with
    | some c => .chars [c] 2
    | none => .nothing 2

/-- What bytes stand for in a set. -/
def CodedSet.head (set : CodedSet) (a : UInt8) (rest : Bytes) : Head :=
  match set with
  | ascii => .chars [Char.ofNat a.toNat] 1
  | jisRoman => .chars [if a == 0x5C then '¥' else if a == 0x7E then '‾' else Char.ofNat a.toNat] 1
  | jisKana => if Wide.within 0x21 0x5F a.toNat then .chars [Wide.narrow (a.toNat + 128)] 1 else .nothing 1
  | jisFirst => double (fun a b => (Wide.squarePlace? a b).bind (Wide.inLines? KanjiTables.first)) a rest
  | jisSecond => double (fun a b => (Wide.squarePlace? a b).bind (Wide.inLines? KanjiTables.second)) a rest
  | korean => double Wide.korean? a rest

/-- What stands at the head of bytes, and what is called behind it. -/
def head (family : Iso2022) (called : Called) (a : UInt8) (rest : Bytes) : Head × Called :=
  let itself : Head := .chars [Char.ofNat a.toNat] 1
  if called.inSequence then (itself, { called with inSequence := !endsSequence a })
  else if a == 0x1B then
    match rest with
    | [] => (.unfinished, called)
    | b :: _ =>
      if "()$.&".toList.contains (Char.ofNat b.toNat) then escape family called rest
      else (itself, { called with inSequence := true })
  else if a == 0x0F && family.shifts then (.chars [] 1, { called with shifted := false })
  else if a == 0x0E && family.shifts then (.chars [] 1, { called with shifted := true })
  else if a == 0x0A then (itself, { called with shifted := false })
  else if a < 0x20 then (itself, called)
  else if 128 ≤ a.toNat then (.nothing 1, called)
  else ((if called.shifted then called.other else called.plain).head a rest, called)

end Iso2022

/-! ### UTF-7 -/

namespace Utf7

/-- What a run of Base64 has left over: bits, their number, and the first half of a surrogate pair. -/
structure Rest where
  bits : Nat
  count : Nat
  half : Option Nat

/-- The value of a digit of Base64. -/
def digit? (b : UInt8) : Option Nat :=
  let n := b.toNat
  if Wide.within 'A'.toNat 'Z'.toNat n then some (n - 'A'.toNat)
  else if Wide.within 'a'.toNat 'z'.toNat n then some (n - 'a'.toNat + 26)
  else if Wide.within '0'.toNat '9'.toNat n then some (n - '0'.toNat + 52)
  else if n == '+'.toNat then some 62
  else if n == '/'.toNat then some 63
  else none

/-- Whether a number is the first half of a surrogate pair. -/
def isFirstHalf (n : Nat) : Bool := Wide.within 0xD800 0xDBFF n

/-- The characters that sixteen more bits complete, and a first half that waits for the second. -/
def ofUnit (half : Option Nat) (n : Nat) : List Char × Option Nat :=
  let alone : List Char × Option Nat := if isFirstHalf n then ([], some n) else ([charOfEscape n], none)
  match half with
  | none => alone
  | some high =>
    if Wide.within 0xDC00 0xDFFF n then ([joinSurrogates high n], none) else (charOfEscape high :: alone.1, alone.2)

/-- The characters that a digit completes, and what is left over. -/
def Rest.add (rest : Rest) (digit : Nat) : List Char × Rest :=
  let bits := rest.bits * 64 + digit
  let count := rest.count + 6
  if count < 16 then ([], ⟨bits, count, rest.half⟩)
  else
    let (cs, half) := ofUnit rest.half (bits / Nat.pow 2 (count - 16))
    (cs, ⟨bits % Nat.pow 2 (count - 16), count - 16, half⟩)

/-- Whether bits are left over that should have been part of a character. -/
def Rest.isPartial (rest : Rest) : Bool := 6 ≤ rest.count || rest.bits != 0

/-- The characters of bytes, outside of a run or in one. -/
def chars : Option Rest → Bytes → List Char
  | none, [] => []
  | none, [b] => if b.toNat == '+'.toNat then [] else if b.toNat < 128 then [Char.ofNat b.toNat] else [replacement]
  | none, b :: c :: rest =>
    if b.toNat == '+'.toNat then
      if c.toNat == '-'.toNat then '+' :: chars none rest
      else if (digit? c).isSome then chars (some ⟨0, 0, none⟩) (c :: rest)
      else replacement :: chars none rest
    else (if b.toNat < 128 then Char.ofNat b.toNat else replacement) :: chars none (c :: rest)
  | some left, [] => if left.half.isSome || left.isPartial then [replacement] else []
  | some left, b :: rest =>
    match digit? b with
    | some n => let (cs, left) := left.add n; cs ++ chars (some left) rest
    | none =>
      if left.isPartial then replacement :: chars none rest
      else if b.toNat < 128 then
        (left.half.map charOfEscape).toList ++ (if b.toNat == '-'.toNat then [] else [Char.ofNat b.toNat]) ++
          chars none rest
      else replacement :: chars none rest

end Utf7

/-- The text of bytes. -/
def Shifted.read : Shifted → Bytes → Except Unreadable String
  | hz, bytes => textOfHeads Hz.head false bytes
  | iso2022 family, bytes => textOfHeads family.head .start bytes
  | utf7, bytes => .ok (String.ofList (Utf7.chars none bytes))

end Courier.Text
