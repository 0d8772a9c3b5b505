import Courier.Text.Charset

/-!
Texts in an encoding, and bytes as texts without guessing. An encoding has bytes for some characters only, and some
bytes stand for nothing. A leniency tells what becomes of them: they are a fault, they are left out, or something
stands in their place.
-/

namespace Courier.Text

/-- What becomes of a character without bytes, or of bytes that stand for nothing. -/
inductive Leniency
  | strict
  | ignore
  | replace
  /-- Its escape with a backslash. -/
  | escape
  /-- Its number as a reference of HTML. -/
  | reference
  /-- There is no leniency of this name. -/
  | unknown (name : String)
  deriving DecidableEq, Repr

/-- The leniency of a name. -/
def Leniency.ofName (name : String) : Leniency :=
  if name == "strict" || name == "surrogateescape" || name == "surrogatepass" then .strict
  else if name == "ignore" then .ignore
  else if name == "replace" then .replace
  else if name == "backslashreplace" then .escape
  else if name == "xmlcharrefreplace" then .reference
  else .unknown name

/-- Bytes that stand for nothing: where they are, and why. -/
structure DecodingFault where
  codec : String
  bytes : Bytes
  first : Nat
  reason : String
  deriving DecidableEq, Repr

namespace DecodingFault

/-- The wording of a decoding fault. A single byte is named, several are given by their positions. -/
def message (f : DecodingFault) : String :=
  let place := match f.bytes with
    | [b] => "byte 0x" ++ String.ofList (hex 2 b.toNat) ++ " in position " ++ toString f.first
    | bs => "bytes in position " ++ toString f.first ++ "-" ++ toString (f.first + bs.length - 1)
  "'" ++ f.codec ++ "' codec can't decode " ++ place ++ ": " ++ f.reason

end DecodingFault

/-- Why a text has no bytes, or bytes have no text. -/
inductive RecodingFault
  | character (f : EncodingFault)
  | bytes (f : DecodingFault)
  | leniency (name : String)
  | encoding (name : String)
  /-- The encoding is none of texts by bytes. -/
  | noText (verb name : String)
  | unreadable (f : Unreadable)
  deriving DecidableEq, Repr

namespace RecodingFault

/-- The wording of a fault. -/
def message : RecodingFault → String
  | character f => f.message
  | bytes f => f.message
  | leniency name => "unknown error handler name '" ++ name ++ "'"
  | encoding name => "unknown encoding: " ++ name
  | noText verb name =>
    "'" ++ name ++ "' is not a text encoding; use codecs." ++ verb ++ "() to handle arbitrary codecs"
  | unreadable f => f.message

end RecodingFault

namespace Charset

/-! ### Writing -/

/-- The bytes of a number of so many bytes. -/
def numberBytes (bigEndian : Bool) (size n : Nat) : Bytes :=
  let little := (List.range size).map fun i => UInt8.ofNat (n / Nat.pow 256 i % 256)
  if bigEndian then little.reverse else little

/-- The UTF-16 units of a character. -/
def unitsOf (c : Char) : List Nat :=
  if c.toNat < 0x10000 then [c.toNat] else let (high, low) := splitSurrogates c; [high, low]

/-- The escape of a character that does not stand for itself. -/
def escapeOf (raw : Bool) (c : Char) : List Char :=
  if raw then (if c.toNat < 256 then [c] else numericEscape c.toNat)
  else if c == '\t' then ['\\', 't']
  else if c == '\n' then ['\\', 'n']
  else if c == '\r' then ['\\', 'r']
  else if c == '\\' then ['\\', '\\']
  else if 32 ≤ c.toNat && c.toNat < 127 then [c]
  else numericEscape c.toNat

/-- The bytes of a character, if the encoding has some. -/
def bytesOf? (charset : Charset) (c : Char) : Option Bytes :=
  match charset with
  | utf8 | utf8Marked => if isScalar c then some (utf8Char c) else none
  | utf16 bigEndian => if isScalar c then some ((unitsOf c).flatMap (numberBytes bigEndian 2)) else none
  | utf16Marked => if isScalar c then some ((unitsOf c).flatMap (numberBytes false 2)) else none
  | utf32 bigEndian => if isScalar c then some (numberBytes bigEndian 4 c.toNat) else none
  | utf32Marked => if isScalar c then some (numberBytes false 4 c.toNat) else none
  | ascii => if c.toNat < 128 then some [UInt8.ofNat c.toNat] else none
  | single runs =>
    if c == replacement then none
    else ((List.range 256).map UInt8.ofNat).find? (fun b => charOf runs b == c) |>.map fun b => [b]
  | escaped raw => some ((escapeOf raw c).map fun d => UInt8.ofNat d.toNat)
  | _ => none

/-- The mark that a text in the encoding starts with. -/
def mark : Charset → Bytes
  | utf8Marked => [0xEF, 0xBB, 0xBF]
  | utf16Marked => [0xFF, 0xFE]
  | utf32Marked => [0xFF, 0xFE, 0, 0]
  | _ => []

/-- The name of an encoding in faults, and why a character has no bytes in it. -/
def limits : Charset → String × String
  | utf8 | utf8Marked => ("utf-8", "surrogates not allowed")
  | utf16 bigEndian => (if bigEndian then "utf-16-be" else "utf-16-le", "surrogates not allowed")
  | utf16Marked => ("utf-16", "surrogates not allowed")
  | utf32 bigEndian => (if bigEndian then "utf-32-be" else "utf-32-le", "surrogates not allowed")
  | utf32Marked => ("utf-32", "surrogates not allowed")
  | ascii => ("ascii", "ordinal not in range(128)")
  | single [] => ("latin-1", "ordinal not in range(256)")
  | _ => ("charmap", "character maps to <undefined>")

/-- Whether texts can be written in the encoding. -/
def isWritable : Charset → Bool
  | wide _ | shifted _ | punycode | unreadable _ => false
  | _ => true

/-- What stands in the place of a character. -/
def standIn (leniency : Leniency) (c : Char) : List Char :=
  let code := (surrogateOf? c).getD c.toNat
  match leniency with
  | .replace => ['?']
  | .escape => numericEscape code
  | .reference => "&#".toList ++ (Nat.repr code).toList ++ [';']
  | _ => []

/-- The bytes of a text. -/
def write (charset : Charset) (leniency : Leniency) (s : String) : Except RecodingFault Bytes :=
  let fits (c : Char) : Bool := (charset.bytesOf? c).isSome
  let bytes (cs : List Char) : Bytes := charset.mark ++ cs.flatMap fun c => (charset.bytesOf? c).getD []
  let (codec, reason) := charset.limits
  match firstFault? codec reason fits s.toList, leniency with
  | none, _ => .ok (bytes s.toList)
  | some f, .strict => .error (.character f)
  | some _, .unknown name => .error (.leniency name)
  | some _, _ => .ok (bytes (s.toList.flatMap fun c => if fits c then [c] else standIn leniency c))

/-! ### Reading -/

/-- A character, or bytes in its place that stand for nothing. -/
abbrev Reading := Except DecodingFault Char

/-- The readings of UTF-8 bytes from a position on. -/
def utf8Readings : Nat → Nat → Bytes → List Reading
  | 0, _, _ => []
  | _, _, [] => []
  | fuel + 1, position, b :: bytes =>
    let broken (length : Nat) (reason : String) : Reading :=
      .error ⟨"utf-8", (b :: bytes).take length, position, reason⟩
    if b.toNat < 0x80 then .ok (Char.ofNat b.toNat) :: utf8Readings fuel (position + 1) bytes
    else match lead? b with
      | none => broken 1 "invalid start byte" :: utf8Readings fuel (position + 1) bytes
      | some (count, code, low, high) =>
        let (read, rest) := continue? count code low high bytes
        let length := bytes.length + 1 - rest.length
        (match read with
          | some n => .ok (Char.ofNat n)
          | none => broken length (if rest.isEmpty then "unexpected end of data" else "invalid continuation byte")) ::
          utf8Readings fuel (position + length) rest

/-- The readings of bytes that stand for a character each, or for nothing. -/
def singleReadings (codec reason : String) (charOf? : UInt8 → Option Char) (bytes : Bytes) : List Reading :=
  bytes.zipIdx.map fun (b, position) => match charOf? b with
    | some c => .ok c
    | none => .error ⟨codec, [b], position, reason⟩

/-- The readings of bytes, in the encodings that tell what is wrong. -/
def readings? : Charset → Bytes → Option (List Reading)
  | utf8, bytes => some (utf8Readings bytes.length 0 bytes)
  | utf8Marked, bytes =>
    some (utf8Readings bytes.length 0 (if [0xEF, 0xBB, 0xBF].isPrefixOf bytes then bytes.drop 3 else bytes))
  | ascii, bytes =>
    some (singleReadings "ascii" "ordinal not in range(128)"
      (fun b => if b.toNat < 128 then some (Char.ofNat b.toNat) else none) bytes)
  | single runs, bytes =>
    some (singleReadings "charmap" "character maps to <undefined>"
      (fun b => let c := charOf runs b; if c == replacement then none else some c) bytes)
  | _, _ => none

/-- The text of readings. -/
def textOf (leniency : Leniency) (readings : List Reading) : Except RecodingFault String := do
  let pieces ← readings.mapM fun
    | .ok c => pure [c]
    | .error f => match leniency with
      | .ignore => pure []
      | .replace => pure [replacement]
      | .escape => pure (f.bytes.flatMap fun b => numericEscape b.toNat)
      | .unknown name => throw (RecodingFault.leniency name)
      | _ => throw (RecodingFault.bytes f)
  return String.ofList pieces.flatten

/-- A unit that is cut off at the end of bytes, as a fault. -/
def cutOff? (charset : Charset) (bytes : Bytes) : Option DecodingFault :=
  let size := match charset with
    | utf16 _ | utf16Marked => 2
    | utf32 _ | utf32Marked => 4
    | _ => 1
  let rest := bytes.length % size
  if rest == 0 then none
  else some ⟨charset.limits.1, bytes.drop (bytes.length - rest), bytes.length - rest, "truncated data"⟩

/-- The text of bytes. -/
def decode (charset : Charset) (leniency : Leniency) (bytes : Bytes) : Except RecodingFault String :=
  match charset.readings? bytes, cutOff? charset bytes with
  | some readings, _ => textOf leniency readings
  | none, some f => if leniency == .strict then .error (.bytes f) else (charset.read bytes).mapError .unreadable
  | none, none => (charset.read bytes).mapError .unreadable

/-! ### Names -/

/-- The encoding of a name for texts. The verb tells what it is wanted for. -/
def named (verb name : String) : Except RecodingFault Charset :=
  match ofName? name with
  | none => .error (.encoding name)
  | some (unreadable .ofBytes) | some (unreadable .ofTexts) => .error (.noText verb name)
  | some (unreadable f) => .error (.unreadable f)
  | some charset => .ok charset

end Charset

end Courier.Text
