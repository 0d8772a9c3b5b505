import Courier.Text.Property
import Courier.Text.Search
import Courier.Text.Shape

/-!
Words that are addresses: of pages, by a scheme, by `www` or by a common ending, and of people. A word of a text has
marks around it, which are no part of an address unless they close what the address opens.
-/

namespace Courier.Text.Link

open Shape

/-- A letter in lower case. Some letters beyond ASCII count as one of ASCII. -/
def plainLetter (c : Char) : Char :=
  if c.toNat == 0x130 || c.toNat == 0x131 then 'i'
  else if c.toNat == 0x17F then 's'
  else if c.toNat == 0x212A then 'k'
  else if 'A' ≤ c && c ≤ 'Z' then Char.ofNat (c.toNat + 32)
  else c

/-- A letter of ASCII, or one that counts as such. -/
def isPlainLetter (c : Char) : Bool := let c := plainLetter c; 'a' ≤ c && c ≤ 'z'

/-- A text in any case. -/
def spelled (s : String) : Shape := inTurn (s.toList.map fun c => one fun d => plainLetter d == c)

/-- Characters of the labels of an address. -/
def isLabelChar (c : Char) : Bool := isWordPart c || c == '%' || c == '-'

/-- At least and at most so many characters of a class. -/
def between (least most : Nat) (p : Char → Bool) : Shape := repeated least (some (most - least)) (one p)

/-- A scheme in front of an address. -/
def scheme : Shape := inTurn [spelled "http", possibly (spelled "s"), spelled "://"]

/-- Labels with a dot behind each of them. -/
def dotted (label : Shape) : Shape := repeated 1 none (both label (spelled "."))

/-- The last label of an address. -/
def lastLabel : Shape :=
  either (between 2 63 isPlainLetter)
    (both (spelled "xn--") (between 2 59 fun c => isWordPart c || c == '%'))

/-- An address of numbers between dots. -/
def dottedNumbers : Shape :=
  both (between 1 3 isDecimal) (repeated 3 (some 0) (both (spelled ".") (between 1 3 isDecimal)))

/-- Up to four hexadecimal digits. -/
def hexGroup : Shape :=
  between 0 4 fun c => isDecimal c || (let c := plainLetter c; 'a' ≤ c && c ≤ 'f')

/-- An address of hexadecimal numbers between colons, in brackets. -/
def bracketed : Shape :=
  inTurn [spelled "[", repeated 2 (some 0) (both hexGroup (spelled ":")),
    repeated 1 (some 5) (both hexGroup (possibly (spelled ":"))), spelled "]"]

/-- The common endings of addresses. -/
def endings : Shape :=
  oneOf (spelled "com") (["net", "int", "edu", "gov", "org", "info", "mil"].map spelled)

/-- The host of an address, with what is in front of it. -/
def host : Shape :=
  oneOf (inTurn [either scheme (spelled "www."), possibly (dotted (run isLabelChar)), lastLabel])
    [both (dotted (between 2 63 isLabelChar)) endings, both scheme (either dottedNumbers bracketed)]

/-- The address of a page. -/
def page : Shape :=
  inTurn [host, possibly (both (spelled ":") (between 1 5 isDecimal)),
    possibly (both (one fun c => c == '/' || c == '?' || c == '#') (repeated 0 none (one fun c => !isBlank c)))]

/-- The address of a person. -/
def person : Shape :=
  inTurn [run (fun c => !isBlank c), spelled "@", one isWordPart,
    repeated 0 none (one fun c => isWordPart c || c == '.' || c == '-'), spelled ".", run isWordPart]

/-- A scheme that a program adds: a name with a colon and up to two slashes. -/
def schemeName : Shape :=
  inTurn [repeated 2 none (one fun c => isWordPart c || c == '.' || c == '+' || c == '-'), spelled ":",
    between 0 2 (· == '/')]

/-! ### Words -/

/-- A word with the marks around it. -/
structure Word where
  head : List Char
  middle : List Char
  tail : List Char

/-- A mark that opens, in front of a text: its length. -/
def openingLength (cs : List Char) : Nat :=
  if cs.head? == some '(' || cs.head? == some '<' then 1 else if "&lt;".toList.isPrefixOf cs then 4 else 0

/-- A mark that closes or ends, at the end of a text that is given from the back: its length. -/
def closingLength (cs : List Char) : Nat :=
  if cs.head?.any ")>.,\n".toList.contains then 1 else if ";tg&".toList.isPrefixOf cs then 4 else 0

/-- How many characters in front of a text are marks. -/
def marksLength (markLength : List Char → Nat) : Nat → List Char → Nat
  | 0, _ => 0
  | fuel + 1, cs =>
    let n := markLength cs
    if n == 0 then 0 else n + marksLength markLength fuel (cs.drop n)

/-- Moves marks that close from the tail of a word to its middle, so many times. -/
def closeIn (closing : List Char) : Nat → Word → Word
  | 0, word => word
  | n + 1, word =>
    match find closing word.tail with
    | none => word
    | some position =>
      let length := position + closing.length
      closeIn closing n { word with middle := word.middle ++ word.tail.take length, tail := word.tail.drop length }

/-- Closes what the middle of a word opens, if it opens more than it closes. -/
def balanced (opening closing : String) (word : Word) : Word :=
  let opened := count opening.toList word.middle
  if opened ≤ count closing.toList word.middle then word
  else closeIn closing.toList (min opened (count closing.toList word.tail)) word

/-- A word taken apart. -/
def Word.of (cs : List Char) : Word :=
  let head := marksLength openingLength cs.length cs
  let rest := cs.drop head
  let tail := marksLength closingLength rest.length rest.reverse
  let word : Word := ⟨cs.take head, rest.take (rest.length - tail), rest.drop (rest.length - tail)⟩
  balanced "&lt;" "&gt;" (balanced "<" ">" (balanced "(" ")" word))

/-- What a word leads to. -/
inductive Target
  | page (address : String)
  | person (address shown : String)
  | nothing
  deriving DecidableEq, Repr

/-- What the middle of a word leads to. -/
def target (s : String) : Target :=
  if page.fits s then .page (if s.startsWith "https://" || s.startsWith "http://" then s else "https://" ++ s)
  else if s.startsWith "mailto:" && person.fits (String.ofList (s.toList.drop 7)) then
    .person s (String.ofList (s.toList.drop 7))
  else if contains s "@" && !s.startsWith "www." && !s.startsWith "@" && !contains s ":" && person.fits s then
    .person ("mailto:" ++ s) s
  else .nothing

/-- The words of a text and the blanks between them. -/
def runsFrom : List Char → List Char → List (List Char)
  | piece, [] => if piece.isEmpty then [] else [piece.reverse]
  | piece, c :: rest =>
    match piece with
    | d :: _ => if isBlank c == isBlank d then runsFrom (c :: piece) rest else piece.reverse :: runsFrom [c] rest
    | [] => runsFrom [c] rest

end Courier.Text.Link
