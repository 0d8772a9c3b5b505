import Courier.Language.Filter.Argument
import Courier.Language.Operation

/-!
The filters that read, round and measure numbers.
-/

namespace Courier.Language

namespace Filter

/-- Integer numerals of a base, with its mark in front or not. -/
def readInBase (base : Int) (text : String) : Option Int :=
  let (negative, cs) := Number.signed (Number.withoutBlanks text)
  let value (c : Char) : Nat :=
    if let some d := Text.decimalValue? c then d
    else if Text.isAsciiLetter c then c.toLower.toNat - 87 else 99
  let mark (n : Nat) (letter : Char) (cs : List Char) : Option (List Char) := match cs with
    | '0' :: c :: rest => if (base == n || base == 0) && c.toLower == letter then some rest else none
    | _ => none
  let marked := ((mark 16 'x' cs).map ((16 : Nat), ·)).orElse fun _ =>
    ((mark 8 'o' cs).map ((8 : Nat), ·)).orElse fun _ => (mark 2 'b' cs).map ((2 : Nat), ·)
  let (n, digits) := marked.getD (if base == 0 then 10 else base.toNat, cs)
  let digits := match marked, digits with
    | some _, '_' :: rest => rest
    | _, cs => cs
  let fits := (base == 0 || (2 ≤ base && base ≤ 36)) && !digits.isEmpty && digits.head? != some '_' &&
    digits.getLast? != some '_' && !(Text.contains (String.ofList digits) "__") &&
    digits.all fun c => c == '_' || value c < n
  let plain := digits.filter (· != '_')
  if !fits || (base == 0 && marked.isNone && digits.head? == some '0' && plain.any (value · != 0)) then none
  else if !([2, 4, 8, 16, 32].contains n) && Number.digitLimit < plain.length then none
  else
    let i : Int := plain.foldl (fun acc c => n * acc + value c) 0
    some (if negative then -i else i)

/-- The integer part of a float, if it has one. -/
def wholePart (x : Float) : Except Fault Int :=
  match Number.Binary64.ofFloat x with
  | .finite d => .ok d.truncate
  | .infinite _ => .error .infinityAsInteger
  | .notANumber => .error (.wrongValue "cannot convert float NaN to integer")

/-- The integer of a value: numerals are read in a base or as decimal numbers, and the default stands for what is no
number. -/
def toInt (v default base : Value) : Except Fault Value :=
  match v with
  | .bytes b =>
    let s := Text.latin1 b
    match (Number.readInt s).toOption with
    | some i => .ok (.newInt i)
    | none => .ok (((Number.readFloat? s).bind Number.truncate?).elim default .newInt)
  | .text _ s | .safeText s =>
    let i := match base.int? with
      | some 10 => (Number.readInt s).toOption
      | some b => readInBase b s
      | none => none
    match i with
    | some i => .ok (.newInt i)
    | none => .ok (((Number.readFloat? s).bind Number.truncate?).elim default .newInt)
  | .float _ x =>
    match Number.Binary64.ofFloat x with
    | .finite d => .ok (.newInt d.truncate)
    | .infinite _ => .error .infinityAsInteger
    | .notANumber => .ok default
  | .undefined m _ => .error (.undefined m)
  | _ => .ok (v.asInt?.getD default)

/-- The float of a value; the default stands for what is no number. -/
def toFloat (v default : Value) : Except Fault Value :=
  match v with
  | .text _ s | .safeText s => .ok ((Number.readFloat? s).elim default .newFloat)
  | .bytes b => .ok ((Number.readFloat? (Text.latin1 b)).elim default .newFloat)
  | .float identity x => .ok (.float identity x)
  | .undefined m _ => .error (.undefined m)
  | _ => match v.int? with
    | some i => Operation.ofFloat (Number.floatOfInt? i)
    | none => .ok default

/-- Rounds a number to decimal places. -/
def roundTo (v precision : Value) : Except Fault Value :=
  match v with
  | .float _ x =>
    match precision with
    | .none => do
      let r ← (Number.roundPlaces x 0).mapError Fault.arithmetic
      return .newInt (← wholePart r)
    | p => do Operation.ofFloat (Number.roundPlaces x (← Method.integer p))
  | _ =>
    match v.int? with
    | none => .error (.wrongType ("type " ++ v.typeName ++ " doesn't define __round__ method"))
    | some i => do
      let places ← match precision with
        | .none => pure 0
        | p => Method.integer p
      return if 0 ≤ places then v.asInt?.getD v else .newInt (Number.roundIntPlaces i places)

/-- Rounds a number up or down to decimal places. -/
def roundAway (up : Bool) (v precision : Value) : Except Fault Value := do
  let unit ← Operation.binary .power (.newInt 10) precision
  let scaled ← Operation.binary .multiply v unit
  let whole ← match scaled with
    | .float _ x =>
      let n ← wholePart x
      pure (if Number.isWhole x then n else if up && !(x < 0) then n + 1 else if !up && x < 0 then n - 1 else n)
    | w => match w.int? with
      | some i => pure i
      | none => throw (Fault.wrongType ("must be real number, not " ++ w.typeName))
  Operation.binary .divide (.newInt whole) unit

/-- Rounds a number by a method. -/
def round (v precision method : Value) : Except Fault Value := do
  let _ ← Value.asKey method
  match method.text? with
  | some "common" => roundTo v precision
  | some "ceil" => roundAway true v precision
  | some "floor" => roundAway false v precision
  | _ => throw (Fault.malformed "method must be common, ceil or floor")

/-- The magnitude of a number. -/
def magnitude (v : Value) : Except Fault Value :=
  match v with
  | .float _ x => .ok (.newFloat (Number.copySign x 1))
  | .complex x y => .ok (.newFloat (Float.sqrt (x * x + y * y)))
  | _ => match v.int? with
    | some i => .ok (if 0 ≤ i then v.asInt?.getD v else .newInt (-i))
    | none => .error (.unsupportedOperand "abs()" v.typeName)

/-- A number as a float; a text is read. -/
def asFloat (v : Value) : Except Fault Float :=
  match v with
  | .text _ s | .safeText s =>
    match Number.readFloat? s with
    | some x => .ok x
    | none => do throw (Fault.wrongValue ("could not convert string to float: " ++ (← v.shown)))
  | .bytes b =>
    match Number.readFloat? (Text.latin1 b) with
    | some x => .ok x
    | none => do throw (Fault.wrongValue ("could not convert string to float: " ++ (← v.shown)))
  | .float _ x => .ok x
  | .undefined m _ => .error (.undefined m)
  | _ => match v.int? with
    | some i => (Number.floatOfInt? i).mapError Fault.arithmetic
    | none => .error (.wrongType ("float() argument must be a string or a real number, not " ++ Text.quoted v.typeName))

/-- A float that is not negative, with one decimal place. -/
def withTenths (x : Float) : String :=
  match Number.Binary64.ofFloat x with
  | .finite d => let (n, m) := d.ratio; Number.fixedPlaces n m 1 false
  | .infinite _ => "inf"
  | .notANumber => "nan"

/-- The marks of the powers of a thousand from the first one on. -/
def sizeMarks : List String := ["k", "M", "G", "T", "P", "E", "Z", "Y"]

/-- A size in the first unit whose next power is greater, or in the last one. -/
def scaledSize (base : Int) (tail : String) (x : Float) : Int → List String → Except Fault String
  | _, [] => .ok ""
  | power, mark :: rest => do
    if !rest.isEmpty && !(← Value.ordered .less (.newFloat x) (.newInt (power * base))) then
      scaledSize base tail x (power * base) rest
    else
      let scaled := Float.ofInt base * x / (← (Number.floatOfInt? (power * base)).mapError Fault.arithmetic)
      return withTenths scaled ++ " " ++ mark ++ tail

/-- A number of bytes in words, in powers of 1000 or of 1024. -/
def sizeText (binary : Bool) (x : Float) : Except Fault String := do
  let base : Int := if binary then 1024 else 1000
  if x == 1 then return "1 Byte"
  if ← Value.ordered .less (.newFloat x) (.newInt base) then return (← shownInt (← wholePart x)) ++ " Bytes"
  let marks := if binary then "K" :: sizeMarks.tail else sizeMarks
  scaledSize base (if binary then "iB" else "B") x base marks

/-- The filters of numbers. -/
def ofNumber? (name : String) (v : Value) (a : Arguments) : Option (Except Fault Value) :=
  match name with
  | "abs" => some <| exactlyOne "abs" v a magnitude
  | "int" => some <|
      bound "do_int" 0 [required "value", optional "default" (.newInt 0), optional "base" (.newInt 10)] v a fun vs =>
      toInt (argument vs 0) (argument vs 1) (argument vs 2)
  | "float" => some <| bound "do_float" 0 [required "value", optional "default" (.newFloat 0)] v a fun vs =>
      toFloat (argument vs 0) (argument vs 1)
  | "filesizeformat" => some <|
      bound "do_filesizeformat" 0 [required "value", optional "binary" (.bool false)] v a fun vs => do
      return .newText (← sizeText (argument vs 1).isTrue (← asFloat (argument vs 0)))
  | "round" => some <|
      bound "do_round" 0 [required "value", optional "precision" (.newInt 0), optional "method" (.newText "common")] v a
      fun vs => round (argument vs 0) (argument vs 1) (argument vs 2)
  | _ => none

end Filter

end Courier.Language
