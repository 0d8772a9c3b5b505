import Courier.Text.Percent
import Courier.Text.Property
import Courier.Text.ReferenceTables
import Courier.Text.Search

/-!
Texts in HTML. Characters that have a meaning there are escaped by references. The other way round, comments and tags
are taken out of a text, and references are replaced by the characters that they name, by a number or by a word.
-/

namespace Courier.Text

/-- A character that has a meaning in HTML, escaped. -/
def htmlChar (c : Char) : List Char :=
  if c == '&' then "&amp;".toList
  else if c == '<' then "&lt;".toList
  else if c == '>' then "&gt;".toList
  else if c == '\'' then "&#39;".toList
  else if c == '"' then "&#34;".toList
  else [c]

/-- A text with the characters escaped that have a meaning in HTML. -/
def htmlEscaped (s : String) : String := String.ofList (s.toList.flatMap htmlChar)

/-! ### References -/

namespace Reference

/-- The pieces of a table between semicolons, commas or line ends. -/
def pieces (separator : String) (table : String) : List String :=
  (table.splitOn "\n").flatMap fun line => line.splitOn separator

/-- The character of hexadecimal digits. -/
def characterOf (digits : String) : Char :=
  Char.ofNat (digits.toList.foldl (fun n c => 16 * n + (hexDigit? c).getD 0) 0)

/-- The names of an entry, with the characters that they stand for. -/
def namesOf (entry : String) : List (String × List Char) :=
  match entry.splitOn ":" with
  | [codes, names] => (names.splitOn ",").map fun n => (n, (codes.splitOn "+").map characterOf)
  | _ => []

/-- The names that a semicolon follows, with the characters that they stand for. -/
def named : List (String × List Char) :=
  (pieces ";" ReferenceTables.low ++ pieces ";" ReferenceTables.high).flatMap namesOf

/-- The names that need no semicolon. -/
def bareNames : List String := pieces "," ReferenceTables.bare

/-- The characters of a name, with its semicolon or without. -/
def ofName? (name : List Char) : Option (List Char) :=
  match name.getLast? with
  | some ';' => (named.find? (·.1 == String.ofList name.dropLast)).map (·.2)
  | _ =>
    let name := String.ofList name
    if bareNames.contains name then (named.find? (·.1 == name)).map (·.2) else none

/-- What the longest beginning of a name stands for that is a name itself, with the rest of the name behind it; shorter
ones than two characters do not count. -/
def ofBeginning? (name : List Char) : Nat → Option (List Char)
  | 0 => none
  | n + 1 =>
    if n + 1 < 2 then none
    else match ofName? (name.take (n + 1)) with
      | some cs => some (cs ++ name.drop (n + 1))
      | none => ofBeginning? name n

/-- The characters that the numbers from 0x80 to 0x9F stand for. -/
def windowsCharacters : List Char :=
  "€\x81‚ƒ„…†‡ˆ‰Š‹Œ\x8dŽ\x8f\x90‘’“”•–—˜™š›œ\x9džŸ".toList

/-- Whether a code point is no character of a text. -/
def isExcluded (n : Nat) : Bool :=
  (1 ≤ n && n ≤ 8) || n == 11 || (14 ≤ n && n ≤ 31) || (127 ≤ n && n ≤ 159) || (0xFDD0 ≤ n && n ≤ 0xFDEF) ||
    n % 0x10000 == 0xFFFE || n % 0x10000 == 0xFFFF

/-- The characters of a number. What is no code point is replaced. -/
def ofNumber (n : Nat) : List Char :=
  if n == 0 || (0xD800 ≤ n && n ≤ 0xDFFF) || 0x10FFFF < n then [Char.ofNat 0xFFFD]
  else if 0x80 ≤ n && n ≤ 0x9F then (windowsCharacters[n - 0x80]?).toList
  else if isExcluded n then []
  else [Char.ofNat n]

/-- A reference behind its ampersand: what it stands for, and its length. -/
structure Found where
  meaning : List Char
  length : Nat

/-- The length of a semicolon, if one is there. -/
def semicolon (cs : List Char) : Nat := if cs.head? == some ';' then 1 else 0

/-- A reference by number to some base behind its mark. -/
def numbered? (base mark : Nat) (cs : List Char) : Option Found :=
  let digits := cs.takeWhile fun c => (hexDigit? c).any (· < base)
  if digits.isEmpty then none
  else some ⟨ofNumber (digits.foldl (fun n c => base * n + (hexDigit? c).getD 0) 0),
    mark + digits.length + semicolon (cs.drop digits.length)⟩

/-- Whether a character can stand in a name. -/
def isNameChar (c : Char) : Bool := !("\t\n\x0c <&#;".toList.contains c)

/-- A reference by name, which has at most 32 characters. What is no name stays as it is. -/
def named? (cs : List Char) : Option Found :=
  let run := (cs.take 32).takeWhile isNameChar
  if run.isEmpty then none
  else
    let name := cs.take (run.length + semicolon (cs.drop run.length))
    let meaning := ((ofName? name).orElse fun _ => ofBeginning? name (name.length - 1)).getD ('&' :: name)
    some ⟨meaning, name.length⟩

/-- The reference behind an ampersand, if there is one. -/
def find? : List Char → Option Found
  | '#' :: 'x' :: cs | '#' :: 'X' :: cs => numbered? 16 2 cs
  | '#' :: cs => numbered? 10 1 cs
  | cs => named? cs

/-- Characters with their references replaced. `skip` counts the characters of a reference that are still to come. -/
def replaceAll : Nat → List Char → List Char
  | _, [] => []
  | skip + 1, _ :: rest => replaceAll skip rest
  | 0, c :: rest =>
    match (if c == '&' then find? rest else none) with
    | some found => found.meaning ++ replaceAll found.length rest
    | none => c :: replaceAll 0 rest

end Reference

/-- A text with its references replaced. -/
def withoutReferences (s : String) : String := String.ofList (Reference.replaceAll 0 s.toList)

/-! ### Tags -/

/-- A text without its parts between two marks, the marks included. What comes together is looked at again. Every part
takes characters away, which the fuel counts. -/
def withoutParts (opening closing : List Char) : Nat → List Char → List Char
  | 0, cs => cs
  | fuel + 1, cs =>
    match find opening cs with
    | none => cs
    | some first =>
      match find closing (cs.drop first) with
      | none => cs
      | some length =>
        withoutParts opening closing fuel (cs.take first ++ cs.drop (first + length + closing.length))

/-- The words of a text. -/
def wordsFrom : List Char → List Char → List (List Char)
  | piece, [] => if piece.isEmpty then [] else [piece.reverse]
  | piece, c :: rest =>
    if isBlank c then (if piece.isEmpty then wordsFrom [] rest else piece.reverse :: wordsFrom [] rest)
    else wordsFrom (c :: piece) rest

/-- A text without comments and tags, with one blank between its words and its references replaced. -/
def withoutTags (s : String) : String :=
  let cs := withoutParts "<!--".toList "-->".toList s.length s.toList
  let cs := withoutParts ['<'] ['>'] s.length cs
  withoutReferences (String.ofList (List.intercalate [' '] (wordsFrom [] cs)))

end Courier.Text
