import Courier.Text.Encoding
import Courier.Text.Named
import Courier.Text.Surrogate

/-!
Escapes behind a backslash: of letters, of octal and hexadecimal numbers, and of names. `Escape` tells what an escape
stands for, or why it is broken, and how far it reaches; texts with escapes are read with it, and bytes whose broken
escapes stand for the replacement character.
-/

namespace Courier.Text

/-- What stands behind a backslash: the characters that are meant, or the wording of what is wrong, and how many of the
characters behind the backslash belong to it. -/
structure Escape where
  meaning : Except String (List Char)
  length : Nat

namespace Escape

/-- The number of a run of octal digits, three at most, and its length. -/
def octal (cs : List Char) : Nat × Nat :=
  let digits := (cs.take 3).takeWhile fun c => '0' ≤ c && c ≤ '7'
  (digits.foldl (fun n c => 8 * n + (c.toNat - 48)) 0, digits.length)

/-- An escape of so many hexadecimal digits behind its letter. -/
def hexadecimal (width : Nat) (wording : String) (cs : List Char) : Escape :=
  let digits := ((cs.take width).takeWhile fun c => (hexDigit? c).isSome).filterMap hexDigit?
  let code := digits.foldl (fun n d => 16 * n + d) 0
  if digits.length < width then ⟨.error ("truncated " ++ wording ++ " escape"), digits.length + 1⟩
  else if 0x10FFFF < code then ⟨.error "illegal Unicode character", width + 1⟩
  else ⟨.ok [charOfEscape code], width + 1⟩

/-- An escape of a name in braces behind its letter. -/
def ofName (cs : List Char) : Escape :=
  match cs with
  | '\x7b' :: tail =>
    let name := tail.takeWhile (· != '\x7d')
    if name.length == tail.length then ⟨.error "malformed \\N character escape", cs.length + 1⟩
    else if name.isEmpty then ⟨.error "malformed \\N character escape", 2⟩
    else match Named.character? (String.ofList name) with
      | some c => ⟨.ok [c], name.length + 3⟩
      | none => ⟨.error "unknown Unicode character name", name.length + 3⟩
  | _ => ⟨.error "malformed \\N character escape", 1⟩

/-- The characters of an escape of one letter. A backslash in front of the end of a line takes it away. -/
def ofLetter? (c : Char) : Option (List Char) :=
  if c == '\n' then some []
  else if c == '\\' || c == '\'' || c == '"' then some [c]
  else if c == 'n' then some ['\n']
  else if c == 't' then some ['\t']
  else if c == 'r' then some ['\r']
  else if c == 'a' then some ['\x07']
  else if c == 'b' then some ['\x08']
  else if c == 'f' then some ['\x0c']
  else if c == 'v' then some ['\x0b']
  else none

/-- The escape behind a backslash. In front of a character that makes no escape the backslash stays. -/
def ofTail : List Char → Escape
  | [] => ⟨.error "\\ at end of string", 0⟩
  | c :: rest =>
    match ofLetter? c with
    | some cs => ⟨.ok cs, 1⟩
    | none =>
      if '0' ≤ c && c ≤ '7' then
        let (code, length) := octal (c :: rest)
        ⟨.ok [charOfEscape code], length⟩
      else if c == 'x' then hexadecimal 2 "\\xXX" rest
      else if c == 'u' then hexadecimal 4 "\\uXXXX" rest
      else if c == 'U' then hexadecimal 8 "\\UXXXXXXXX" rest
      else if c == 'N' then ofName rest
      else ⟨.ok ['\\', c], 1⟩

/-- The escape behind a backslash where only code points of many digits are escaped. -/
def ofRawTail : List Char → Escape
  | [] => ⟨.ok ['\\'], 0⟩
  | c :: rest =>
    if c == 'u' then hexadecimal 4 "\\uXXXX" rest
    else if c == 'U' then hexadecimal 8 "\\UXXXXXXXX" rest
    else ⟨.ok ['\\', c], 1⟩

/-- The characters that a text with escapes stands for, or the wording of the first mistake. The fuel counts
characters. -/
def read : Nat → List Char → Except String (List Char)
  | 0, _ => .ok []
  | _, [] => .ok []
  | fuel + 1, '\\' :: rest => do
    let escape := ofTail rest
    return (← escape.meaning) ++ (← read fuel (rest.drop escape.length))
  | fuel + 1, c :: rest => do return c :: (← read fuel rest)

/-- The characters that a text with escapes stands for, in which broken ones stand for the replacement character. -/
def readAll (ofTail : List Char → Escape) : Nat → List Char → List Char
  | 0, _ => []
  | _, [] => []
  | fuel + 1, '\\' :: rest =>
    let escape := ofTail rest
    (escape.meaning.toOption.getD [replacement]) ++ readAll ofTail fuel (rest.drop escape.length)
  | fuel + 1, c :: rest => c :: readAll ofTail fuel rest

/-- The text of bytes that stand for themselves, apart from escapes. -/
def textOf (raw : Bool) (bytes : Bytes) : String :=
  let cs := bytes.map fun b => Char.ofNat b.toNat
  String.ofList (readAll (if raw then ofRawTail else ofTail) (cs.length + 1) cs)

end Escape

end Courier.Text
