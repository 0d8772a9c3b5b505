import Courier.Text.Quoted

/-!
Texts as bytes. UTF-8 has a form for every character, but none for the half of a surrogate pair; ASCII and Latin-1
have forms for a few characters only. Reading UTF-8 puts one replacement character for every longest start of a
sequence that does not go on as it should. Base64 writes bytes as a text: three bytes become four characters of six bits
each, and padding fills the last four.

Most encodings read all bytes, and put the replacement character where bytes stand for nothing; the causes that bytes
cannot be read for are those that no character can stand for.
-/

namespace Courier.Text

/-- The bytes of a text. -/
abbrev Bytes := List UInt8

/-- A character without a form in an encoding: where it stands, how many like it follow, and why it has none. -/
structure EncodingFault where
  codec : String
  character : Char
  first : Nat
  last : Nat
  reason : String
  deriving DecidableEq, Repr

namespace EncodingFault

/-- The wording of an encoding fault. A single character is named, several are given by their positions. -/
def message (f : EncodingFault) : String :=
  let place :=
    if f.first == f.last then
      "character '" ++ String.ofList (numericEscape ((surrogateOf? f.character).getD f.character.toNat)) ++
        "' in position " ++ toString f.first
    else "characters in position " ++ toString f.first ++ "-" ++ toString f.last
  "'" ++ f.codec ++ "' codec can't encode " ++ place ++ ": " ++ f.reason

end EncodingFault

/-- The first characters of a text that fail a test, as a fault of an encoding. -/
def firstFault? (codec reason : String) (fits : Char → Bool) (cs : List Char) : Option EncodingFault :=
  let before := cs.takeWhile fits
  match cs.dropWhile fits with
  | [] => none
  | c :: rest =>
    let more := rest.takeWhile fun c => !fits c
    some ⟨codec, c, before.length, before.length + more.length, reason⟩

/-- Whether a character is a character of its own and no half of a surrogate pair. -/
def isScalar (c : Char) : Bool := (surrogateOf? c).isNone

/-- The part of a code point behind a number of bits, as a byte that continues a sequence. -/
def continuation (code shift : Nat) : UInt8 := UInt8.ofNat (0x80 + code / Nat.pow 2 shift % 64)

/-- The UTF-8 form of a character. -/
def utf8Char (c : Char) : Bytes :=
  let n := c.toNat
  if n < 0x80 then [UInt8.ofNat n]
  else if n < 0x800 then [UInt8.ofNat (0xC0 + n / 64), continuation n 0]
  else if n < 0x10000 then [UInt8.ofNat (0xE0 + n / 4096), continuation n 6, continuation n 0]
  else [UInt8.ofNat (0xF0 + n / 262144), continuation n 12, continuation n 6, continuation n 0]

/-- The UTF-8 form of characters. -/
def utf8Bytes (cs : List Char) : Bytes := cs.flatMap utf8Char

/-- The UTF-8 form of a text, unless a half of a surrogate pair stands in it. -/
def utf8 (s : String) : Except EncodingFault Bytes :=
  match firstFault? "utf-8" "surrogates not allowed" isScalar s.toList with
  | some f => .error f
  | none => .ok (utf8Bytes s.toList)

/-- The ASCII form of a text, unless it has other characters. -/
def ascii (s : String) : Except EncodingFault Bytes :=
  match firstFault? "ascii" "ordinal not in range(128)" (fun c => c.toNat < 128) s.toList with
  | some f => .error f
  | none => .ok (s.toList.map fun c => UInt8.ofNat c.toNat)

/-- The text of bytes that stand for a character each. -/
def latin1 (bytes : Bytes) : String := String.ofList (bytes.map fun b => Char.ofNat b.toNat)

/-! ### Reading UTF-8 -/

/-- What the first byte of a sequence promises: the number of bytes that follow, the part of the code point that it
holds, and the limits of the next byte. -/
def lead? (b : UInt8) : Option (Nat × Nat × Nat × Nat) :=
  let n := b.toNat
  if 0xC2 ≤ n && n < 0xE0 then some (1, n - 0xC0, 0x80, 0xBF)
  else if n == 0xE0 then some (2, 0, 0xA0, 0xBF)
  else if n == 0xED then some (2, 13, 0x80, 0x9F)
  else if 0xE1 ≤ n && n < 0xF0 then some (2, n - 0xE0, 0x80, 0xBF)
  else if n == 0xF0 then some (3, 0, 0x90, 0xBF)
  else if 0xF1 ≤ n && n < 0xF4 then some (3, n - 0xF0, 0x80, 0xBF)
  else if n == 0xF4 then some (3, 4, 0x80, 0x8F)
  else none

/-- Reads the bytes that continue a sequence: the code point if they all follow, and the bytes behind those read. -/
def continue? : Nat → Nat → Nat → Nat → Bytes → Option Nat × Bytes
  | 0, code, _, _, bytes => (some code, bytes)
  | _ + 1, _, _, _, [] => (none, [])
  | count + 1, code, low, high, b :: bytes =>
    if low ≤ b.toNat && b.toNat ≤ high then continue? count (code * 64 + (b.toNat - 0x80)) 0x80 0xBF bytes
    else (none, b :: bytes)

/-- The characters of UTF-8 bytes; nothing stands for a sequence that is broken. -/
def utf8Chars : Nat → Bytes → List (Option Char)
  | 0, _ => []
  | _, [] => []
  | fuel + 1, b :: bytes =>
    if b.toNat < 0x80 then some (Char.ofNat b.toNat) :: utf8Chars fuel bytes
    else match lead? b with
      | none => none :: utf8Chars fuel bytes
      | some (count, code, low, high) =>
        let (read, rest) := continue? count code low high bytes
        read.map Char.ofNat :: utf8Chars fuel rest

/-- The character in place of a broken sequence. -/
def replacement : Char := Char.ofNat 0xFFFD

/-- The text of UTF-8 bytes, with replacement characters where they are broken. -/
def ofUtf8 (bytes : Bytes) : String :=
  String.ofList ((utf8Chars bytes.length bytes).map fun c => c.getD replacement)

/-- The text of UTF-8 bytes, unless they are broken. -/
def ofUtf8? (bytes : Bytes) : Option String :=
  ((utf8Chars bytes.length bytes).mapM id).map String.ofList

/-! ### Base64 -/

namespace Base64

/-- The character of six bits. -/
def digit (n : Nat) : Char :=
  if n < 26 then Char.ofNat (65 + n)
  else if n < 52 then Char.ofNat (71 + n)
  else if n < 62 then Char.ofNat (n - 4)
  else if n == 62 then '+' else '/'

/-- The characters of bytes. -/
def digits : Bytes → List Char
  | [] => []
  | [a] =>
    let n := a.toNat * 65536
    [digit (n / 262144), digit (n / 4096 % 64), '=', '=']
  | [a, b] =>
    let n := a.toNat * 65536 + b.toNat * 256
    [digit (n / 262144), digit (n / 4096 % 64), digit (n / 64 % 64), '=']
  | a :: b :: c :: rest =>
    let n := a.toNat * 65536 + b.toNat * 256 + c.toNat
    digit (n / 262144) :: digit (n / 4096 % 64) :: digit (n / 64 % 64) :: digit (n % 64) :: digits rest

/-- The text of bytes. -/
def encode (bytes : Bytes) : String := String.ofList (digits bytes)

end Base64

/-! ### Bytes that are no text -/

/-- Why bytes cannot be read as a text. -/
inductive Unreadable
  /-- No mark tells the order of the bytes, which make units of so many bits. -/
  | noByteOrder (bits : Nat)
  /-- More bytes are left over at the end than are kept. -/
  | tooManyLeft
  /-- A byte that is none of ASCII stands where numbers are told. -/
  | notAscii (byte : UInt8) (position : Nat)
  /-- The encoding is only for texts without mistakes. -/
  | onlyStrict
  /-- The encoding stands for the lack of one. -/
  | undefined
  /-- The encoding is one of bytes by other bytes. -/
  | ofBytes
  /-- The encoding is one of texts by other texts. -/
  | ofTexts
  deriving DecidableEq, Repr

namespace Unreadable

/-- The wording of a cause. -/
def message : Unreadable → String
  | noByteOrder bits => "UTF-" ++ toString bits ++ " stream does not start with BOM"
  | tooManyLeft => "pending buffer overflow"
  | notAscii byte position =>
    "'ascii' codec can't decode byte 0x" ++ String.ofList (hex 2 byte.toNat) ++ " in position " ++ toString position ++
      ": ordinal not in range(128)"
  | onlyStrict => "Unsupported error handling replace"
  | undefined => "undefined encoding"
  | ofBytes => ""
  | ofTexts => "descriptor 'translate' for 'str' objects doesn't apply to a 'bytes' object"

end Unreadable

end Courier.Text
