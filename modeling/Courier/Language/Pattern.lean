import Courier.Language.Comparison
import Courier.Language.Shown
import Courier.Number.Layout
import Courier.Number.Reading
import Courier.Text.Html
import Courier.Text.Property

/-!
Texts with places in them that are filled with values. A place starts with a percent sign: flags, a width, a precision
and a letter say how its value is written. Values come from a tuple one after the other, from a map by key, or there is
a single one. In a text that is marked as fit for HTML the values are escaped.
-/

namespace Courier.Language

/-- The largest length of a text or list that is worth building. -/
def lengthLimit : Nat := Nat.pow 2 32

/-- The largest number that can be an index. -/
def indexLimit : Int := Int.pow 2 63 - 1

namespace Text

open Courier.Text

/-- A text with all characters beyond ASCII as escapes. -/
def asciiEscaped (s : String) : String :=
  String.ofList (s.toList.flatMap fun c => if c.toNat < 128 then [c]
    else numericEscape ((surrogateOf? c).getD c.toNat))

end Text

namespace Pattern

/-- The parts of a place between its percent sign and its letter. -/
structure Place where
  left : Bool
  plus : Bool
  blank : Bool
  zero : Bool
  alternate : Bool
  width : Option Nat
  precision : Option Nat

/-- A place without flags, width and precision. -/
def Place.plain : Place := ⟨false, false, false, false, false, none, none⟩

/-- Pads a text to the width of a place. -/
def Place.pad (place : Place) (s : String) : String :=
  let fill := String.ofList (List.replicate (place.width.getD 0 - s.length) ' ')
  if place.left then s ++ fill else fill ++ s

/-- A numeral with a sign and the mark of its base in front, padded to the width of a place; zeros go between the mark
and the digits. -/
def Place.numeral (place : Place) (negative : Bool) (mark digits : String) : String :=
  let sign := if negative then "-" else if place.plus then "+" else if place.blank then " " else ""
  if place.zero && !place.left then
    let missing := place.width.getD 0 - (sign.length + mark.length + digits.length)
    sign ++ mark ++ String.ofList (List.replicate missing '0') ++ digits
  else place.pad (sign ++ mark ++ digits)

/-- Where the values of the places come from: what is still to be used, the value that gives entries by key, if there
is one, and whether values are escaped. -/
structure Supply where
  values : List Value
  entries : Option Value
  escapes : Bool

/-- The name of a value's type in messages; a value that is escaped is wrapped. -/
def Supply.typeName (supply : Supply) (v : Value) : String :=
  if supply.escapes then "_MarkupEscapeHelper" else v.typeName

/-- The next value. -/
def Supply.next (supply : Supply) : Except Fault (Value × Supply) :=
  match supply.values with
  | v :: rest => .ok (v, { supply with values := rest })
  | [] => .error (.wrongType "not enough arguments for format string")

/-- The value of a key, which becomes the next one and the only one. -/
def Supply.select (supply : Supply) (key : String) : Except Fault Supply :=
  match supply.entries with
  | none => .error (.wrongType "format requires a mapping")
  | some (.map _ entries) =>
    match Value.lookup (.newText key) entries with
    | some v => .ok { supply with values := [v] }
    | none => .error (.missingKey (Text.quoted key))
  | some (.undefined m chained) =>
    if chained then .ok { supply with values := [.undefined m chained] } else .error (.undefined m)
  | some (.builtin _) => .error (.missingKey (Text.quoted key))
  | some v => .error (.wrongType (v.typeName ++ " indices must be integers or slices, not str"))

/-- An integer from a value. Only an escaped value may be a numeral. -/
def Supply.integer (supply : Supply) (letter : Char) (v : Value) : Except Fault Int :=
  match v with
  | .float _ x =>
    match Number.Binary64.ofFloat x with
    | .finite d => .ok d.truncate
    | .infinite _ => .error .infinityAsInteger
    | .notANumber => .error (.wrongValue "cannot convert float NaN to integer")
  | .undefined m _ => .error (.undefined m)
  | _ =>
    match v.int?, v.text? with
    | some i, _ => .ok i
    | none, some s =>
      if supply.escapes then
        match Number.readInt s with
        | .ok i => .ok i
        | .error (.tooLong digits) => .error (.numeralTooLong digits)
        | .error .malformed => .error (.badNumeral (Text.quoted s))
      else wrong
    | none, none => wrong
where
  wrong : Except Fault Int := .error (.wrongType
    ("%" ++ String.singleton letter ++ " format: a real number is required, not " ++ supply.typeName v))

/-- An integer that is not converted. -/
def Supply.wholeNumber (supply : Supply) (letter : Char) (v : Value) : Except Fault Int :=
  match v.int? with
  | some i => if supply.escapes then wrong else .ok i
  | none => wrong
where
  wrong : Except Fault Int := .error (.wrongType
    ("%" ++ String.singleton letter ++ " format: an integer is required, not " ++ supply.typeName v))

/-- A float from a value. Only an escaped value may be a numeral. -/
def Supply.float (supply : Supply) (v : Value) : Except Fault Float :=
  match v with
  | .float _ x => .ok x
  | .undefined m _ => .error (.undefined m)
  | _ =>
    match v.int?, v.text? with
    | some i, _ => (Number.floatOfInt? i).mapError Fault.arithmetic
    | none, some s =>
      if supply.escapes then
        match Number.readFloat? s with
        | some x => .ok x
        | none => .error (.wrongValue ("could not convert string to float: " ++ Text.quoted s))
      else .error (.wrongType ("must be real number, not " ++ v.typeName))
    | none, none => .error (.wrongType (if supply.escapes
        then "float() argument must be a string or a real number, not " ++ Text.quoted v.typeName
        else "must be real number, not " ++ v.typeName))

/-- The text of a value. -/
def Supply.textOf (supply : Supply) (v : Value) : Except Fault String :=
  match supply.escapes, v with
  | true, .safeText s => .ok s
  | true, _ => do return Text.htmlEscaped (← v.toText)
  | false, _ => v.toText

/-- The quoted form of a value. -/
def Supply.shownOf (supply : Supply) (v : Value) : Except Fault String := do
  let s ← v.shown
  return if supply.escapes then Text.htmlEscaped s else s

/-- A character from a value: one of a text, or a code point. -/
def Supply.character (supply : Supply) (v : Value) : Except Fault Char :=
  match supply.escapes, v.text?, v.int? with
  | false, some s, _ =>
    match s.toList with
    | [c] => .ok c
    | _ => wrong
  | false, none, some i =>
    if 0 ≤ i && i < 0x110000 then .ok (Text.charOfEscape i.toNat)
    else .error (.outOfRange "%c arg not in range(0x110000)")
  | _, _, _ => wrong
where
  wrong : Except Fault Char := .error (.wrongType "%c requires int or char")

/-- The digits of an integer that are behind its sign, at least as many as the precision says. -/
def Place.digits (place : Place) (base : Nat) (i : Int) : String :=
  String.ofList (let digits := Nat.toDigits base i.natAbs
    List.replicate (place.precision.getD 0 - digits.length) '0' ++ digits)

/-- A float in the layout of a letter, without a sign. -/
def Place.magnitude (place : Place) (letter : Char) (x : Float) : String :=
  let precision := place.precision.getD 6
  let isUpper := letter.isUpper
  match Number.Binary64.ofFloat x with
  | .notANumber => if isUpper then "NAN" else "nan"
  | .infinite _ => if isUpper then "INF" else "inf"
  | .finite d =>
    let (n, m) := d.ratio
    let mark := if isUpper then 'E' else 'e'
    if letter.toLower == 'f' then Number.fixedPlaces n m precision place.alternate
    else if letter.toLower == 'e' then Number.scientificPlaces n m precision place.alternate mark
    else Number.significantPlaces n m precision place.alternate mark

/-- Fills one place with the next value. `position` is where the letter stands. -/
def fill (place : Place) (letter : Char) (position : Nat) (supply : Supply) : Except Fault (String × Supply) := do
  let (v, supply) ← supply.next
  let cut (s : String) := match place.precision with
    | some p => String.ofList (s.toList.take p)
    | none => s
  let inBase (base : Nat) (mark : String) : Except Fault String := do
    let i ← supply.wholeNumber letter v
    return place.numeral (i < 0) (if place.alternate then mark else "") (place.digits base i)
  let s ← match letter with
    | 's' => do pure (place.pad (cut (← supply.textOf v)))
    | 'r' => do pure (place.pad (cut (← supply.shownOf v)))
    | 'a' => do pure (place.pad (cut (Text.asciiEscaped (← supply.shownOf v))))
    | 'd' | 'i' | 'u' => do
      let i ← supply.integer letter v
      let _ ← shownInt i
      pure (place.numeral (i < 0) "" (place.digits 10 i))
    | 'x' => inBase 16 "0x"
    | 'X' => do pure (← inBase 16 "0x").toUpper
    | 'o' => inBase 8 "0o"
    | 'e' | 'E' | 'f' | 'F' | 'g' | 'G' => do
      let x ← supply.float v
      pure (place.numeral (Number.signBit x && !Number.isNaN x) "" (place.magnitude letter x))
    | 'c' => do pure (place.pad (String.singleton (← supply.character v)))
    | _ =>
      let shown := if 31 ≤ letter.toNat && letter.toNat ≤ 126 then letter else '?'
      throw (Fault.wrongValue ("unsupported format character '" ++ String.singleton shown ++ "' (0x" ++
        String.ofList (Nat.toDigits 16 letter.toNat) ++ ") at index " ++ toString position))
  return (s, supply)

/-! ### Reading places -/

/-- What is left of a pattern, and how many characters were read. -/
structure Spot where
  position : Nat
  rest : List Char

/-- The spot a number of characters further. -/
def Spot.advance (spot : Spot) (count : Nat) : Spot := ⟨spot.position + count, spot.rest.drop count⟩

/-- The length of a key up to the parenthesis that closes it, for a number of open ones. -/
def keyLength? : Nat → Nat → List Char → Option Nat
  | _, _, [] => none
  | isOpen, n, '(' :: rest => keyLength? (isOpen + 1) (n + 1) rest
  | isOpen, n, ')' :: rest => if isOpen ≤ 1 then some n else keyLength? (isOpen - 1) (n + 1) rest
  | isOpen, n, _ :: rest => keyLength? isOpen (n + 1) rest

/-- Reads the key of a place, if it has one. -/
def readKey (spot : Spot) (supply : Supply) : Except Fault (Spot × Supply) :=
  match spot.rest with
  | '(' :: rest =>
    if supply.entries.isNone then .error (.wrongType "format requires a mapping")
    else match keyLength? 1 0 rest with
      | none => .error (.wrongValue "incomplete format key")
      | some n => do return (spot.advance (n + 2), ← supply.select (String.ofList (rest.take n)))
  | _ => .ok (spot, supply)

/-- Reads the flags of a place. -/
def readFlags (place : Place) (spot : Spot) : Place × Spot :=
  let flags := spot.rest.takeWhile fun c => c == '-' || c == '+' || c == ' ' || c == '0' || c == '#'
  ({ place with
      left := flags.contains '-'
      plus := flags.contains '+'
      blank := flags.contains ' '
      zero := flags.contains '0'
      alternate := flags.contains '#' }, spot.advance flags.length)

/-- The number of a run of digits, and its length. -/
def readNumber (cs : List Char) : Option Nat × Nat :=
  let digits := cs.takeWhile Courier.Text.isAsciiDigit
  if digits.isEmpty then (none, 0) else (some (Number.natOfDigits (digits.map fun c => c.toNat - 48)), digits.length)

/-- The next value as a width or a precision. -/
def starValue (supply : Supply) : Except Fault (Int × Supply) := do
  let (v, supply) ← supply.next
  match v.int?, supply.escapes with
  | some i, false => return (i, supply)
  | _, _ => throw (Fault.wrongType "* wants int")

/-- Reads the width of a place, which may be the next value. -/
def readWidth (place : Place) (spot : Spot) (supply : Supply) : Except Fault (Place × Spot × Supply) := do
  match spot.rest with
  | '*' :: _ =>
    let (i, supply) ← starValue supply
    if i > indexLimit || i < -indexLimit - 1 then throw Fault.lengthTooLarge
    return ({ place with width := some i.natAbs, left := place.left || i < 0 }, spot.advance 1, supply)
  | cs =>
    let (n, length) := readNumber cs
    if indexLimit < ((n.getD 0 : Nat) : Int) then throw (Fault.wrongValue "width too big")
    return ({ place with width := n }, spot.advance length, supply)

/-- Reads the precision of a place, which may be the next value. -/
def readPrecision (place : Place) (spot : Spot) (supply : Supply) : Except Fault (Place × Spot × Supply) := do
  match spot.rest with
  | '.' :: '*' :: _ =>
    let (i, supply) ← starValue supply
    if i ≥ Int.pow 2 31 || i < -Int.pow 2 31 then throw Fault.flagTooLarge
    return ({ place with precision := some i.toNat }, spot.advance 2, supply)
  | '.' :: cs =>
    let (n, length) := readNumber cs
    if Nat.pow 2 31 ≤ n.getD 0 then throw (Fault.wrongValue "precision too big")
    return ({ place with precision := some (n.getD 0) }, spot.advance (length + 1), supply)
  | _ => return (place, spot, supply)

/-- A letter that once told the size of a number; it says nothing. -/
def skipSize (spot : Spot) : Spot :=
  match spot.rest with
  | c :: _ => if c == 'h' || c == 'l' || c == 'L' then spot.advance 1 else spot
  | [] => spot

/-- Fills the place behind a percent sign; a second sign stands for itself. -/
def fillNext (spot : Spot) (supply : Supply) : Except Fault (String × Spot × Supply) := do
  if spot.rest.head? == some '%' then return ("%", spot.advance 1, supply)
  let (spot, supply) ← readKey spot supply
  let (place, spot) := readFlags .plain spot
  let (place, spot, supply) ← readWidth place spot supply
  let (place, spot, supply) ← readPrecision place spot supply
  let spot := skipSize spot
  if lengthLimit < place.width.getD 0 + place.precision.getD 0 then throw Fault.tooLarge
  match spot.rest with
  | [] => throw (Fault.wrongValue "incomplete format")
  | letter :: _ =>
    let (s, supply) ← fill place letter spot.position supply
    return (s, spot.advance 1, supply)

/-- Fills the places of a text one after the other. The fuel counts characters. -/
def fillAll : Nat → Spot → Supply → Except Fault (List Char × Supply)
  | 0, _, supply => .ok ([], supply)
  | fuel + 1, spot, supply =>
    match spot.rest with
    | [] => .ok ([], supply)
    | '%' :: _ => do
      let (s, spot, supply) ← fillNext (spot.advance 1) supply
      let (cs, supply) ← fillAll fuel spot supply
      return (s.toList ++ cs, supply)
    | c :: _ => do
      let (cs, supply) ← fillAll fuel (spot.advance 1) supply
      return (c :: cs, supply)

/-- Whether a value gives entries by key. Such a value need not be used up. -/
def givesEntries : Value → Bool
  | .list _ _ | .map _ _ | .range _ _ _ | .undefined _ _ | .builtin .template => true
  | _ => false

/-- The values for the places of a text. -/
def supplyOf (escapes : Bool) (source : Value) : Supply :=
  match source with
  | .tuple _ items => ⟨items, none, escapes⟩
  | v => ⟨[v], if givesEntries v then some v else none, escapes⟩

/-- A text with its places filled. -/
def filled (escapes : Bool) (pattern : String) (source : Value) : Except Fault String := do
  let (cs, supply) ← fillAll (pattern.length + 1) ⟨0, pattern.toList⟩ (supplyOf escapes source)
  if !supply.values.isEmpty && supply.entries.isNone then
    throw (Fault.wrongType "not all arguments converted during string formatting")
  return String.ofList cs

end Pattern

end Courier.Language
