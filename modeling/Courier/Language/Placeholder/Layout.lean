import Courier.Language.Pattern

/-!
How a placeholder lays its value out. A layout has a fill and an alignment, what to do with signs, a width, a separator
between groups of digits, a precision and a letter for the notation; every part may be left out. Texts, integers and
floats are laid out each in their own way, and refuse the parts that mean nothing to them.
-/

namespace Courier.Language

/-- How a value is laid out. -/
structure Layout where
  fill : Char
  align : Char
  sign : Option Char
  /-- Whether a zero has no sign. -/
  plainZero : Bool
  /-- Whether the mark of a base is shown, and zeros at the end of a fraction are kept. -/
  alternate : Bool
  width : Option Nat
  separator : Option Char
  precision : Option Nat
  letter : Option Char

namespace Layout

/-! ### Reading -/

/-- Whether a character tells an alignment. -/
def isAlignment (c : Char) : Bool := c == '<' || c == '>' || c == '=' || c == '^'

/-- A layout without parts. -/
def plain (align : Char) (letter : Option Char) : Layout := ⟨' ', align, none, false, false, none, none, none, letter⟩

/-- The number that a text starts with, and what is behind it. -/
def readNumber (cs : List Char) : Except Fault (Option Nat × List Char) :=
  let digits := (cs.takeWhile Courier.Text.isDecimal).filterMap Courier.Text.decimalValue?
  let n := Number.natOfDigits digits
  if indexLimit < (n : Int) then .error (.wrongValue "Too many decimal digits in format string")
  else .ok (if digits.isEmpty then none else some n, cs.drop digits.length)

/-- Reads the fill and the alignment, and whether they are given. -/
def readAlignment (layout : Layout) (cs : List Char) : Layout × Bool × Bool × List Char :=
  match cs with
  | c :: d :: rest =>
    if isAlignment d then ({ layout with fill := c, align := d }, true, true, rest)
    else if isAlignment c then ({ layout with align := c }, false, true, d :: rest)
    else (layout, false, false, cs)
  | [c] => if isAlignment c then ({ layout with align := c }, false, true, []) else (layout, false, false, cs)
  | [] => (layout, false, false, cs)

/-- Reads a character if it is the next one. -/
def readMark (c : Char) (cs : List Char) : Bool × List Char :=
  if cs.head? == some c then (true, cs.tail) else (false, cs)

/-- Reads the parts in front of the width. -/
def readFlags (layout : Layout) (cs : List Char) : Layout × List Char :=
  let (layout, hasFill, hasAlign, cs) := layout.readAlignment cs
  let (sign, cs) := match cs with
    | c :: rest => if c == '+' || c == '-' || c == ' ' then (some c, rest) else (none, cs)
    | [] => (none, cs)
  let (plainZero, cs) := readMark 'z' cs
  let (alternate, cs) := readMark '#' cs
  let (zero, cs) := if hasFill then (false, cs) else readMark '0' cs
  let layout := { layout with sign, plainZero, alternate }
  (if zero then { layout with fill := '0', align := if !hasAlign && layout.align == '>' then '=' else layout.align }
    else layout, cs)

/-- The fault of two separators. -/
def twoSeparators : Fault := .wrongValue "Cannot specify both ',' and '_'."

/-- Reads the separator of groups. -/
def readSeparator (cs : List Char) : Except Fault (Option Char × List Char) := do
  let (comma, cs) := readMark ',' cs
  let (line, cs) := readMark '_' cs
  if line && (comma || cs.head? == some ',') then throw twoSeparators
  return (if line then some '_' else if comma then some ',' else none, cs)

/-- Reads the precision. -/
def readPrecision (cs : List Char) : Except Fault (Option Nat × List Char) := do
  match cs with
  | '.' :: rest =>
    let (n, rest) ← readNumber rest
    if n.isNone then throw (Fault.wrongValue "Format specifier missing precision")
    return (n, rest)
  | _ => return (none, cs)

/-- A character in a message. -/
def shownLetter (c : Char) : String :=
  if 32 < c.toNat && c.toNat < 128 then String.singleton c
  else "\\x" ++ String.ofList (Nat.toDigits 16 c.toNat)

/-- Checks that groups of digits are separated in a notation that has them. -/
def checkSeparator (layout : Layout) : Except Fault Unit :=
  match layout.separator, layout.letter with
  | none, _ | some _, none => .ok ()
  | some s, some c =>
    if "defgEG%F".toList.contains c || (s == '_' && "boxX".toList.contains c) then .ok ()
    else .error (.wrongValue ("Cannot specify '" ++ String.singleton s ++ "' with '" ++ shownLetter c ++ "'."))

/-- Reads a layout for a value of a type, which has an alignment and a letter of its own. -/
def ofText (type : String) (align : Char) (letter : Option Char) (text : List Char) : Except Fault Layout := do
  let (layout, cs) := (plain align letter).readFlags text
  let (width, cs) ← readNumber cs
  let (separator, cs) ← readSeparator cs
  let (precision, cs) ← readPrecision cs
  if 1 < cs.length then
    throw (Fault.wrongValue
      ("Invalid format specifier '" ++ String.ofList text ++ "' for object of type '" ++ type ++ "'"))
  let layout := { layout with width, separator, precision, letter := cs.head?.orElse fun _ => letter }
  layout.checkSeparator
  if lengthLimit < width.getD 0 + precision.getD 0 then throw Fault.tooLarge
  return layout

/-- The fault of a letter that no value of a type has a notation for. -/
def unknownLetter {α : Type} (type : String) (layout : Layout) : Except Fault α :=
  .error (.wrongValue ("Unknown format code '" ++ shownLetter (layout.letter.getD ' ') ++ "' for object of type '" ++
    type ++ "'"))

/-- Checks of what a layout must not have, with their wordings. -/
def refuse (checks : List (Bool × String)) : Except Fault Unit :=
  match checks.find? (·.1) with
  | some (_, wording) => .error (.wrongValue wording)
  | none => .ok ()

/-! ### Texts -/

/-- A number of fill characters. -/
def filler (layout : Layout) (n : Nat) : List Char := List.replicate n layout.fill

/-- A text in its width. -/
def padded (layout : Layout) (cs : List Char) : List Char :=
  let missing := layout.width.getD 0 - cs.length
  let left := if layout.align == '>' then missing else if layout.align == '^' then missing / 2 else 0
  layout.filler left ++ cs ++ layout.filler (missing - left)

/-- A text, cut to the precision. -/
def writeText (type : String) (layout : Layout) (s : String) : Except Fault String := do
  if layout.letter != some 's' then unknownLetter type layout
  refuse
    [(layout.sign == some ' ', "Space not allowed in string format specifier"),
      (layout.sign.isSome, "Sign not allowed in string format specifier"),
      (layout.plainZero, "Negative zero coercion (z) not allowed in string format specifier"),
      (layout.alternate, "Alternate form (#) not allowed in string format specifier"),
      (layout.align == '=', "'=' alignment not allowed in string format specifier")]
  return String.ofList (layout.padded (match layout.precision with
    | some n => s.toList.take n
    | none => s.toList))

/-! ### Numbers -/

/-- Digits, the last one first, in groups of a size with a separator between them, and with zeros up to a width. -/
def groupsFrom (size : Nat) (separator : Char) : Nat → List Char → Int → List Char
  | 0, _, _ => []
  | fuel + 1, digits, width =>
    let length : Nat := min size (max (max digits.length width.toNat) 1)
    let group := digits.take length
    let piece := group ++ List.replicate (length - group.length) '0'
    let rest := digits.drop length
    let width := width - length
    if rest.isEmpty && width ≤ 0 then piece
    else piece ++ separator :: groupsFrom size separator fuel rest (width - 1)

/-- Digits in groups if they are to be separated, and with zeros up to a width. -/
def grouped (layout : Layout) (size : Nat) (digits : List Char) (width : Int) : List Char :=
  match layout.separator with
  | none => List.replicate (width.toNat - digits.length) '0' ++ digits
  | some c => (groupsFrom size c (digits.length + width.toNat + 1) digits.reverse width).reverse

/-- The sign of a number. -/
def signText (layout : Layout) (negative : Bool) : List Char :=
  if negative then ['-']
  else match layout.sign with
    | some '+' => ['+']
    | some ' ' => [' ']
    | _ => []

/-- A number of a sign, a mark, digits and what follows them, in its width. -/
def assembled (layout : Layout) (size : Nat) (negative : Bool) (mark digits tail : List Char) : List Char :=
  let front := layout.signText negative ++ mark
  let least : Int :=
    if layout.fill == '0' && layout.align == '=' then (layout.width.getD 0 : Int) - front.length - tail.length else 0
  let body := (if digits.isEmpty then [] else layout.grouped size digits least) ++ tail
  if layout.align == '=' then front ++ layout.filler (layout.width.getD 0 - (front.length + body.length)) ++ body
  else
    let missing := layout.width.getD 0 - (front.length + body.length)
    let left := if layout.align == '>' then missing else if layout.align == '^' then missing / 2 else 0
    layout.filler left ++ front ++ body ++ layout.filler (missing - left)

/-- The base that a letter stands for, with its mark. -/
def base (letter : Char) : Nat × List Char :=
  if letter == 'b' then (2, ['0', 'b'])
  else if letter == 'o' then (8, ['0', 'o'])
  else if letter == 'x' then (16, ['0', 'x'])
  else if letter == 'X' then (16, ['0', 'X'])
  else (10, [])

/-- An integer as the character of that number. -/
def writeCharacter (layout : Layout) (i : Int) : Except Fault String := do
  refuse
    [(layout.sign.isSome, "Sign not allowed with integer format specifier 'c'"),
      (layout.alternate, "Alternate form (#) not allowed with integer format specifier 'c'")]
  if i > indexLimit || i < -indexLimit - 1 then throw (Fault.outOfRange "Python int too large to convert to C long")
  if i < 0 || 0x110000 ≤ i then throw (Fault.outOfRange "%c arg not in range(0x110000)")
  return String.ofList (layout.assembled 3 false [] [] [Courier.Text.charOfEscape i.toNat])

/-- An integer in the notation of its letter. -/
def writeInt (layout : Layout) (i : Int) : Except Fault String := do
  refuse
    [(layout.precision.isSome, "Precision not allowed in integer format specifier"),
      (layout.plainZero, "Negative zero coercion (z) not allowed in integer format specifier")]
  let letter := layout.letter.getD 'd'
  if letter == 'c' then layout.writeCharacter i
  else
    let (n, mark) := base letter
    let digits ← if n == 10 then do pure (← shownInt i.natAbs).toList else pure (Nat.toDigits n i.natAbs)
    let digits := if letter == 'X' then digits.map Char.toUpper else digits
    return String.ofList (layout.assembled (if n == 10 then 3 else 4) (i < 0) (if layout.alternate then mark else [])
      digits [])

/-- A numeral with a point in front of its exponent, unless it has one. -/
def withPoint (s : String) : String :=
  if s.toList.contains '.' then s
  else String.ofList (s.toList.takeWhile (· != 'e') ++ '.' :: s.toList.dropWhile (· != 'e'))

/-- A float that is not negative in the notation of its letter. -/
def magnitude (layout : Layout) (x : Float) : String :=
  let letter := layout.letter.getD ' '
  let isUpper := letter.isUpper
  match Number.Binary64.ofFloat x with
  | .notANumber => if isUpper then "NAN" else "nan"
  | .infinite _ => if isUpper then "INF" else "inf"
  | .finite d =>
    let (n, m) := d.ratio
    let mark := if isUpper then 'E' else 'e'
    match layout.letter, layout.precision with
    | none, none =>
      let s := Number.plainLayout.write x
      if layout.alternate then withPoint s else s
    | none, some p => Number.plainPlaces n m p layout.alternate
    | some _, p =>
      let p := p.getD 6
      if letter == 'e' || letter == 'E' then Number.scientificPlaces n m p layout.alternate mark
      else if letter == 'f' || letter == 'F' || letter == '%' then Number.fixedPlaces n m p layout.alternate
      else Number.significantPlaces n m p layout.alternate mark

/-- Whether a numeral shows nothing but zeros. -/
def isZero (s : String) : Bool :=
  (s.toList.takeWhile fun c => c != 'e' && c != 'E').all fun c => c == '0' || c == '.'

/-- A float in the notation of its letter. -/
def writeFloat (type : String) (layout : Layout) (x : Float) : Except Fault String := do
  if !(layout.letter.all "eEfFgGn%".toList.contains) then unknownLetter type layout
  if Nat.pow 2 31 ≤ layout.precision.getD 0 then throw (Fault.wrongValue "precision too big")
  let x := if layout.letter == some '%' then x * 100 else x
  let s := layout.magnitude (Number.copySign x 1)
  let negative := Number.signBit x && !Number.isNaN x && !(layout.plainZero && isZero s)
  let cs := s.toList ++ (if layout.letter == some '%' then ['%'] else [])
  let digits := cs.takeWhile Courier.Text.isAsciiDigit
  return String.ofList (layout.assembled 3 negative [] digits (cs.drop digits.length))

/-! ### Values -/

/-- A settled value in the layout that a text tells. Only texts and numbers have layouts. -/
def write (text : String) (v : Value) : Except Fault String := do
  if text.isEmpty then v.toText
  else match v with
    | .text _ s | .safeText s => do (← ofText v.typeName '<' (some 's') text.toList).writeText v.typeName s
    | .float _ x => do (← ofText v.typeName '>' none text.toList).writeFloat v.typeName x
    | .int _ _ | .bool _ => do
      let i := v.int?.getD 0
      let layout ← ofText v.typeName '>' (some 'd') text.toList
      let letter := layout.letter.getD 'd'
      if "bcdoxXn".toList.contains letter then layout.writeInt i
      else if "eEfFgG%".toList.contains letter then do
        layout.writeFloat v.typeName (← (Number.floatOfInt? i).mapError Fault.arithmetic)
      else unknownLetter v.typeName layout
    | _ => throw (Fault.wrongType ("unsupported format string passed to " ++ v.typeName ++ ".__format__"))

end Layout

end Courier.Language
