import Courier.Text.Property
import Courier.Text.Surrogate

/-!
Quoted texts. The first form is the one in which error messages and printed lists show a text: in single quotes,
or in double quotes when that saves escapes. The second is the string of JSON, with every character beyond ASCII
escaped or none.
-/

namespace Courier.Text

/-- A hexadecimal digit in lower case. -/
def hexDigit (n : Nat) : Char := if n < 10 then Char.ofNat (48 + n) else Char.ofNat (87 + n)

/-- The lowest `width` hexadecimal digits of a number. -/
def hex : Nat → Nat → List Char
  | 0, _ => []
  | width + 1, n => hex width (n / 16) ++ [hexDigit (n % 16)]

/-- The escape of a code point by its size: two, four or eight hexadecimal digits. -/
def numericEscape (code : Nat) : List Char :=
  if code < 256 then '\\' :: 'x' :: hex 2 code
  else if code < 0x10000 then '\\' :: 'u' :: hex 4 code
  else '\\' :: 'U' :: hex 8 code

/-- A character between quotes. -/
def quotedChar (quote : Char) (c : Char) : List Char :=
  if c == quote || c == '\\' then ['\\', c]
  else if c == '\t' then ['\\', 't']
  else if c == '\n' then ['\\', 'n']
  else if c == '\r' then ['\\', 'r']
  else match surrogateOf? c with
    | some code => numericEscape code
    | none => if isPrintable c then [c] else numericEscape c.toNat

/-- Single quotes, unless the text holds one of them and no double quote. -/
def quoteFor (s : String) : Char :=
  if s.toList.contains '\'' && !s.toList.contains '"' then '"' else '\''

/-- The quoted form of a text. -/
def quoted (s : String) : String :=
  let q := quoteFor s
  String.ofList (q :: s.toList.flatMap (quotedChar q) ++ [q])

/-- The quoted form of bytes: characters of ASCII that can be printed, and escapes for all others. -/
def quotedBytes (bytes : List UInt8) : String :=
  let cs := bytes.map fun b => Char.ofNat b.toNat
  let q := quoteFor (String.ofList cs)
  let shown (c : Char) : List Char := if c.toNat < 127 then quotedChar q c else numericEscape c.toNat
  String.ofList ('b' :: q :: cs.flatMap shown ++ [q])

/-- The escape of a JSON string for a code unit of 16 bits. -/
def unitEscape (code : Nat) : List Char := '\\' :: 'u' :: hex 4 code

/-- A character of a JSON string that is escaped in any case: quotes, backslashes and controls. -/
def jsonEscape? (c : Char) : Option (List Char) :=
  if c == '"' then some ['\\', '"']
  else if c == '\\' then some ['\\', '\\']
  else if c == '\n' then some ['\\', 'n']
  else if c == '\r' then some ['\\', 'r']
  else if c == '\t' then some ['\\', 't']
  else if c == '\x08' then some ['\\', 'b']
  else if c == '\x0c' then some ['\\', 'f']
  else if c.toNat < 32 then some (unitEscape c.toNat)
  else none

/-- A character of a JSON string in which characters beyond ASCII stand for themselves. -/
def jsonChar (c : Char) : List Char := (jsonEscape? c).getD [c]

/-- A character of a JSON string of ASCII only: one escape, or two for the halves of a surrogate pair. -/
def asciiJsonChar (c : Char) : List Char :=
  match jsonEscape? c with
  | some escape => escape
  | none =>
    if c.toNat < 127 then [c]
    else match surrogateOf? c with
      | some code => unitEscape code
      | none =>
        if c.toNat < 0x10000 then unitEscape c.toNat
        else let (high, low) := splitSurrogates c; unitEscape high ++ unitEscape low

/-- A JSON string. -/
def jsonString (s : String) : String := String.ofList ('"' :: s.toList.flatMap jsonChar ++ ['"'])

/-- A JSON string of ASCII only. -/
def asciiJsonString (s : String) : String := String.ofList ('"' :: s.toList.flatMap asciiJsonChar ++ ['"'])

end Courier.Text
