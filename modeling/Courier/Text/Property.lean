import Courier.Text.LetterTables
import Courier.Text.Tables

/-!
Membership of a character in a table of change points, and the classes of characters that texts are split by:
blanks, digits, and the letters of names. Code points below 128 are decided without the tables.
-/

namespace Courier.Text

/-- A code point belongs to a table when an odd number of its change points is at most it. -/
def inTable (table : List Nat) (code : Nat) : Bool :=
  (table.takeWhile (· ≤ code)).length % 2 == 1

/-- Blank characters, which trimming removes and words are separated by. -/
def isBlank (c : Char) : Bool :=
  if c.val < 128 then
    c == ' ' || (9 ≤ c.toNat && c.toNat ≤ 13) || (28 ≤ c.toNat && c.toNat ≤ 31)
  else inTable Tables.blank c.toNat

/-- ASCII digits, the only ones that numbers on the wire and port numbers are written with. -/
def isAsciiDigit (c : Char) : Bool := '0' ≤ c && c ≤ '9'

/-- Characters with a digit value. Some of them, such as superscripts, stand in no decimal number. -/
def isDigit (c : Char) : Bool :=
  if c.val < 128 then isAsciiDigit c else inTable Tables.digit c.toNat

/-- The value of a decimal digit of any script. -/
def decimalValue? (c : Char) : Option Nat :=
  if c.val < 128 then
    if isAsciiDigit c then some (c.toNat - '0'.toNat) else none
  else
    (Tables.zeros.find? fun start => start ≤ c.toNat && c.toNat ≤ start + 9).map (c.toNat - ·)

/-- Decimal digits of any script. -/
def isDecimal (c : Char) : Bool := (decimalValue? c).isSome

/-- ASCII letters. -/
def isAsciiLetter (c : Char) : Bool := ('a' ≤ c && c ≤ 'z') || ('A' ≤ c && c ≤ 'Z')

/-- Letters of any script. -/
def isLetter (c : Char) : Bool := if c.val < 128 then isAsciiLetter c else inTable LetterTables.letter c.toNat

/-- Characters that stand for a number. -/
def isNumber (c : Char) : Bool := if c.val < 128 then isAsciiDigit c else inTable LetterTables.number c.toNat

/-- Characters that words of any script are made of. -/
def isWordPart (c : Char) : Bool := isLetter c || isNumber c || c == '_'

/-- Characters that the scanner reads as part of one word. -/
def isWordChar (c : Char) : Bool :=
  if c.val < 128 then isAsciiLetter c || isAsciiDigit c || c == '_' else inTable Tables.word c.toNat

/-- Characters an identifier may start with. -/
def isNameStart (c : Char) : Bool :=
  if c.val < 128 then isAsciiLetter c || c == '_' else inTable Tables.nameStart c.toNat

/-- Characters an identifier may go on with. -/
def isNameRest (c : Char) : Bool :=
  if c.val < 128 then isAsciiLetter c || isAsciiDigit c || c == '_' else inTable Tables.nameRest c.toNat

/-- A word is an identifier when it starts with a starting character and goes on with the others. -/
def isIdentifier (word : String) : Bool :=
  match word.toList with
  | [] => false
  | c :: rest => isNameStart c && rest.all isNameRest

/-- Characters that a quoted text shows as they are. -/
def isPrintable (c : Char) : Bool :=
  if c.val < 128 then 32 ≤ c.toNat && c.toNat < 127 else inTable Tables.printable c.toNat

/-- The text without the leading characters of a class. -/
def dropLeading (p : Char → Bool) (s : String) : String := String.ofList (s.toList.dropWhile p)

/-- A list without its trailing members of a class. -/
def dropTrailingList (p : Char → Bool) (cs : List Char) : List Char := (cs.reverse.dropWhile p).reverse

/-- The text without the trailing characters of a class. -/
def dropTrailing (p : Char → Bool) (s : String) : String := String.ofList (dropTrailingList p s.toList)

/-- The text without blanks at either end. -/
def trim (s : String) : String := dropTrailing isBlank (dropLeading isBlank s)

/-- A text of blanks only. -/
def isBlankText (s : String) : Bool := s.toList.all isBlank

theorem dropTrailingList_nil (p : Char → Bool) : dropTrailingList p [] = [] := rfl

theorem dropTrailingList_append_of_all {p : Char → Bool} {tail : List Char} (h : tail.all p = true)
    (cs : List Char) : dropTrailingList p (cs ++ tail) = dropTrailingList p cs := by
  unfold dropTrailingList
  rw [List.reverse_append, List.dropWhile_append_of_pos]
  intro c hc
  exact List.all_eq_true.1 h c (List.mem_reverse.1 hc)

end Courier.Text
