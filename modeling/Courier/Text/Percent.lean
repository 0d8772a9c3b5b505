import Courier.Text.Encoding
import Courier.Text.Property

/-!
Texts with percent escapes, as they stand in URLs and forms. Writing keeps letters, digits and a few marks, and writes
every other byte of the UTF-8 form as an escape. Reading turns escapes back into bytes; what is no escape stays.
-/

namespace Courier.Text

/-- A digit of an escape. -/
def upperHexDigit (n : Nat) : Char := if n < 10 then Char.ofNat (48 + n) else Char.ofNat (55 + n)

/-- The escape of a byte. -/
def escapeByte (b : UInt8) : List Char := ['%', upperHexDigit (b.toNat / 16), upperHexDigit (b.toNat % 16)]

/-- Characters that never need an escape. -/
def isUnreserved (c : Char) : Bool :=
  isAsciiLetter c || isAsciiDigit c || c == '_' || c == '.' || c == '-' || c == '~'

/-- A character with escapes unless it is safe. -/
def escapeChar (safe : Char → Bool) (c : Char) : List Char :=
  if safe c then [c] else (utf8Char c).flatMap escapeByte

/-- A character in a form: a blank is a plus sign. -/
def formChar (c : Char) : List Char := if c == ' ' then ['+'] else escapeChar isUnreserved c

/-- A text in a form, unless a half of a surrogate pair stands in it. -/
def formText (s : String) : Except EncodingFault String := do
  let _ ← utf8 s
  return String.ofList (s.toList.flatMap formChar)

/-- The value of a digit of an escape. -/
def hexDigit? (c : Char) : Option Nat :=
  if isAsciiDigit c then some (c.toNat - 48)
  else if 'a' ≤ c && c ≤ 'f' then some (c.toNat - 87)
  else if 'A' ≤ c && c ≤ 'F' then some (c.toNat - 55)
  else none

/-- The byte of the escape that a text starts with, behind its percent sign. -/
def escape? : List Char → Option UInt8
  | a :: b :: _ => do return UInt8.ofNat ((← hexDigit? a) * 16 + (← hexDigit? b))
  | _ => none

/-- The bytes of ASCII characters with escapes; `skip` counts the characters of an escape that was read. -/
def unescapeBytes : Nat → List Char → Bytes
  | _, [] => []
  | skip + 1, _ :: rest => unescapeBytes skip rest
  | 0, c :: rest =>
    match (if c == '%' then escape? rest else none) with
    | some b => b :: unescapeBytes 2 rest
    | none => UInt8.ofNat c.toNat :: unescapeBytes 0 rest

/-- Characters with their escapes read. Escapes in different runs of ASCII characters do not meet. -/
def unescapeRuns : Nat → List Char → List Char
  | 0, _ => []
  | _, [] => []
  | fuel + 1, c :: rest =>
    let run := (c :: rest).takeWhile fun c => c.toNat < 128
    if run.isEmpty then c :: unescapeRuns fuel rest
    else (ofUtf8 (unescapeBytes 0 run)).toList ++ unescapeRuns fuel ((c :: rest).dropWhile fun c => c.toNat < 128)

/-- A text with its escapes read. -/
def unescape (s : String) : String := String.ofList (unescapeRuns (s.length + 1) s.toList)

/-- A text of a form: a plus sign is a blank. -/
def ofFormText (s : String) : String := unescape (String.ofList (s.toList.map fun c => if c == '+' then ' ' else c))

end Courier.Text
