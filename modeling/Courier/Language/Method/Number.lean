import Courier.Language.Method.Bytes

/-!
The methods of numbers.
-/

namespace Courier.Language

namespace Method

/-- A float in base sixteen: all digits of its fraction, and the power of two that it is scaled by. -/
def hexText (x : Float) : String :=
  let sign := if Number.signBit x && !Number.isNaN x then "-" else ""
  match Number.Binary64.ofFloat x with
  | .notANumber => "nan"
  | .infinite _ => sign ++ "inf"
  | .finite d =>
    let unit := Nat.pow 2 52
    let isNormal := unit ≤ d.mantissa
    let power : Int := if d.mantissa == 0 then 0 else d.exponent + 52
    if d.mantissa == 0 then sign ++ "0x0.0p+0"
    else sign ++ "0x" ++ (if isNormal then "1" else "0") ++ "." ++
      String.ofList (Courier.Text.hex 13 (d.mantissa % unit)) ++ "p" ++ (if power < 0 then "" else "+") ++
      Int.repr power

/-- The type that a method of numbers belongs to. -/
def numberType : Value → String
  | .bool _ => "int"
  | v => v.typeName

/-- The order of the bytes of a number and whether it may be negative, behind a first argument. -/
def orderArguments (name first : String) (a : Arguments) : Except Fault (Option Value × Bool × Bool) := do
  let vs ← flexible name [first, "byteorder", "signed"] a
  if 2 < a.positional.length then
    throw (Fault.wrongType
      (name ++ "() takes at most 2 positional arguments (" ++ toString a.positional.length ++ " given)"))
  let bigEndian ← match vs[1]?.getD none with
    | none => pure true
    | some v => do
      match ← textAt (name ++ "() argument 'byteorder'") v with
      | "big" => pure true
      | "little" => pure false
      | _ => throw (Fault.wrongValue "byteorder must be either 'little' or 'big'")
  return (vs[0]?.getD none, bigEndian, (vs[2]?.getD none).any Value.isTrue)

/-- An integer as bytes. -/
def intBytes (i : Int) (a : Arguments) : Except Fault Value := do
  let (length, bigEndian, isSigned) ← orderArguments "to_bytes" "length" a
  let n ← match length with
    | none => pure 1
    | some v => sizeArgument v
  if n < 0 then throw (Fault.wrongValue "length argument must be non-negative")
  if i < 0 && !isSigned then throw (Fault.outOfRange "can't convert negative int to unsigned")
  if (lengthLimit : Int) < n then throw Fault.tooLarge
  let all := Int.pow 256 n.toNat
  let fits := if isSigned then -all ≤ 2 * i && 2 * i < all else i < all
  if !fits && i != 0 then throw (Fault.outOfRange "int too big to convert")
  return .bytes (Courier.Text.Charset.numberBytes bigEndian n.toNat (i % all).toNat)

/-- The bytes that a value is made of. -/
def bytesOf (v : Value) : Except Fault Courier.Text.Bytes := do
  let wrong : Fault := .wrongType ("cannot convert " ++ Text.quoted v.typeName ++ " object to bytes")
  match v with
  | .bytes b => return b
  | .text _ _ | .safeText _ => throw wrong
  | _ =>
    let items ← match v.items with
      | .ok items => pure items
      | .error (.notIterable _) => throw wrong
      | .error f => throw f
    items.mapM fun item => do
      let i ← integer item
      if i < 0 || 256 ≤ i then throw (Fault.wrongValue "bytes must be in range(0, 256)")
      return UInt8.ofNat i.toNat

/-- The integer of bytes. -/
def intOfBytes (a : Arguments) : Except Fault Int := do
  let (source, bigEndian, isSigned) ← orderArguments "from_bytes" "bytes" a
  match source with
  | none => throw (Fault.wrongType "from_bytes() missing required argument 'bytes' (pos 1)")
  | some v =>
    let bytes ← bytesOf v
    let n : Int := Courier.Text.Charset.ofBytes bigEndian bytes
    let all := Int.pow 256 bytes.length
    return if isSigned && all ≤ 2 * n then n - all else n

/-- The float of a number in base sixteen, or the fault of another text. -/
def readHex (text : String) : Except Fault Float := do
  let wrong : Fault := .wrongValue "invalid hexadecimal floating-point string"
  let (negative, cs) := Number.signed (Number.withoutBlanks text)
  let name := String.ofList (cs.map Char.toLower)
  if name == "inf" || name == "infinity" then return if negative then -Number.infinity else Number.infinity
  if name == "nan" then return Number.undefinedNumber
  let cs := match cs with
    | '0' :: x :: rest => if x == 'x' || x == 'X' then rest else cs
    | _ => cs
  let isHex (c : Char) : Bool := (Courier.Text.hexDigit? c).isSome
  let whole := cs.takeWhile isHex
  let (fraction, rest) := match cs.dropWhile isHex with
    | '.' :: rest => (rest.takeWhile isHex, rest.dropWhile isHex)
    | rest => ([], rest)
  if whole.isEmpty && fraction.isEmpty then throw wrong
  let power ← match rest with
    | [] => pure 0
    | p :: rest =>
      let (down, digits) := Number.signed rest
      if (p != 'p' && p != 'P') || digits.isEmpty || !digits.all Courier.Text.isAsciiDigit then throw wrong
      let n : Int := Number.natOfDigits (digits.map fun c => c.toNat - 48)
      pure (if down then -n else n)
  let mantissa := ((whole ++ fraction).filterMap Courier.Text.hexDigit?).foldl (fun n d => 16 * n + d) 0
  let exponent := power - 4 * fraction.length
  let size : Int := if mantissa == 0 then 0 else mantissa.log2 + exponent
  let x :=
    if mantissa == 0 || size < -1100 then Number.Binary64.ofRatio negative 0 1
    else if 1030 < size then Number.infinity
    else if 0 ≤ exponent then Number.Binary64.ofRatio negative (mantissa * Nat.pow 2 exponent.toNat) 1
    else Number.Binary64.ofRatio negative mantissa (Nat.pow 2 (-exponent).toNat)
  if !Number.isFinite x then throw (Fault.outOfRange "hexadecimal value too large to represent as a float")
  return x

/-- The methods of numbers that make bytes or read texts. -/
def onNumberWith? (v : Value) (name : String) (a : Arguments) : Option (Except Fault Value) :=
  match v, v.int?, name with
  | _, some i, "to_bytes" => some (intBytes i a)
  | .bool _, _, "from_bytes" => some (do return .bool ((← intOfBytes a) != 0))
  | _, some _, "from_bytes" => some (do return .newInt (← intOfBytes a))
  | .float _ _, _, "fromhex" => some (do
    match ← oneArgument "float" name a with
    | .text _ s | .safeText s => return .newFloat (← readHex s)
    | _ => throw (Fault.wrongType "bad argument type for built-in operation"))
  | _, _, _ => none

/-- The methods of numbers. -/
def onNumber (v : Value) (name : String) (a : Arguments) : Except Fault Value := do
  if let some r := onNumberWith? v name a then return (← r)
  noArguments (numberType v) name a
  match v, name with
  | .complex x y, "conjugate" => return .complex x (-y)
  | .float _ _, "conjugate" => return v
  | .float _ x, "hex" => return .newText (hexText x)
  | .float _ x, "is_integer" => return .bool (Number.isWhole x)
  | .float _ x, "as_integer_ratio" =>
    match Number.Binary64.ofFloat x with
    | .finite d =>
      let (n, m) := d.ratio
      let g := n.gcd m
      let top : Int := (n / g : Nat)
      return .newTuple [.newInt (if d.negative then -top else top), .newInt (m / g : Nat)]
    | .infinite _ => throw (Fault.outOfRange "cannot convert Infinity to integer ratio")
    | .notANumber => throw (Fault.wrongValue "cannot convert NaN to integer ratio")
  | _, _ =>
    match v.int?, name with
    | some _, "conjugate" => return v.asInt?.getD v
    | some i, "bit_length" => return .newInt (if i == 0 then 0 else i.natAbs.log2 + 1 : Nat)
    | some i, "bit_count" => return .newInt ((Nat.toDigits 2 i.natAbs).filter (· == '1')).length
    | some i, "as_integer_ratio" => return .newTuple [.newInt i, .newInt 1]
    | _, _ => throw (Fault.noAttribute v.typeName name)

end Method

end Courier.Language
