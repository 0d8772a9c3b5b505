import Courier.Text.CaseTables
import Courier.Text.Property

/-!
Upper, lower and title case of texts. A character may become several; the capital sigma at the end of a word
becomes the final small sigma.
-/

namespace Courier.Text

/-- The image of a code point under the runs of a table, if one of them holds it. -/
def runImage? : List Nat → Nat → Option Nat
  | first :: last :: step :: image :: rest, code =>
    if first ≤ code && code ≤ last && (code - first) % step == 0 then some (image + code - first)
    else runImage? rest code
  | _, _ => none

/-- The characters that a code point becomes by a table of special cases. -/
def specialImage? : List Nat → Nat → Option (List Nat)
  | code' :: a :: b :: c :: rest, code =>
    if code' == code then some (if c == 0 then [a, b] else [a, b, c]) else specialImage? rest code
  | _, _ => none

/-- The image of a character: special cases first, then the runs, else itself. -/
def caseImage (runs special : List Nat) (c : Char) : List Char :=
  match specialImage? special c.toNat, runImage? runs c.toNat with
  | some codes, _ => codes.map Char.ofNat
  | none, some code => [Char.ofNat code]
  | none, none => [c]

/-- The upper case of a character, which may be several characters. -/
def upperChar (c : Char) : List Char :=
  if c.val < 128 then [c.toUpper] else caseImage CaseTables.upperRuns CaseTables.upperSpecial c

/-- The lower case of a character away from the end of a word. -/
def lowerChar (c : Char) : List Char :=
  if c.val < 128 then [c.toLower] else caseImage CaseTables.lowerRuns CaseTables.lowerSpecial c

/-- The title case of a character, which differs from its upper case for a few ligatures. -/
def titleChar (c : Char) : List Char :=
  if c.val < 128 then [c.toUpper] else caseImage CaseTables.titleRuns CaseTables.titleSpecial c

/-- The form of a character in which case does not count. -/
def foldChar (c : Char) : List Char :=
  if c.val < 128 then [c.toLower]
  else match specialImage? CaseTables.foldSpecial c.toNat, runImage? CaseTables.foldRuns c.toNat with
    | some codes, _ => codes.map Char.ofNat
    | none, some code => [Char.ofNat code]
    | none, none => lowerChar c

/-- Small letters. Letters without another upper case are among them. -/
def isLowerChar (c : Char) : Bool :=
  if c.val < 128 then 'a' ≤ c && c ≤ 'z' else inTable LetterTables.small c.toNat

/-- Capital letters. Letters without another lower case are among them. -/
def isUpperChar (c : Char) : Bool :=
  if c.val < 128 then 'A' ≤ c && c ≤ 'Z' else inTable LetterTables.capital c.toNat

/-- Ligatures and letters with a mark whose first part alone is a capital. -/
def titleLetters : List Nat :=
  [453, 454, 456, 457, 459, 460, 498, 499, 8072, 8080, 8088, 8096, 8104, 8112, 8124, 8125, 8140, 8141, 8188, 8189]

/-- Characters whose first part alone is a capital. -/
def isTitleChar (c : Char) : Bool := inTable titleLetters c.toNat

/-- Letters that have case. -/
def isCased (c : Char) : Bool := isLowerChar c || isUpperChar c || isTitleChar c

/-- Characters that are passed over where the end of a word is looked for. -/
def isPassedOver (c : Char) : Bool := inTable LetterTables.passedOver c.toNat

/-- The upper case of a text. -/
def upper (s : String) : String := String.ofList (s.toList.flatMap upperChar)

/-- Whether the letter before a place has case, if it was so before a character: some characters are passed over. -/
def casedAfter (casedBefore : Bool) (c : Char) : Bool := if isPassedOver c then casedBefore else isCased c

/-- Whether a word goes on in a text. -/
def goesOn (rest : List Char) : Bool := (rest.dropWhile isPassedOver).head?.any isCased

/-- The lower case of a character between what is before it and the rest. A capital sigma at the end of a word becomes
the final sigma. -/
def lowerWithin (casedBefore : Bool) (c : Char) (rest : List Char) : List Char :=
  if c == 'Σ' then (if casedBefore && !goesOn rest then ['ς'] else ['σ']) else lowerChar c

/-- Lower case from left to right; `casedBefore` tells whether the last letter so far has case and belongs to the same
word. -/
def lowerFrom (casedBefore : Bool) : List Char → List Char
  | [] => []
  | c :: rest => lowerWithin casedBefore c rest ++ lowerFrom (casedAfter casedBefore c) rest

/-- The lower case of a text. -/
def lower (s : String) : String := String.ofList (lowerFrom false s.toList)

/-- A text in the form in which case does not count. -/
def folded (s : String) : String := String.ofList (s.toList.flatMap foldChar)

/-- The first character in title case, the others in lower case. -/
def capitalize (s : String) : String :=
  match s.toList with
  | [] => ""
  | c :: rest => String.ofList (titleChar c ++ lowerFrom (casedAfter false c) rest)

/-- Title case of letters that follow no letter, lower case of the others; `casedBefore` is as for lower case. -/
def titleFrom (afterCased casedBefore : Bool) : List Char → List Char
  | [] => []
  | c :: rest =>
    (if afterCased then lowerWithin casedBefore c rest else titleChar c) ++
      titleFrom (isCased c) (casedAfter casedBefore c) rest

/-- Every run of letters starts in title case. -/
def titleWords (s : String) : String := String.ofList (titleFrom false false s.toList)

/-- Upper case becomes lower and lower case upper, from left to right. -/
def swapFrom (casedBefore : Bool) : List Char → List Char
  | [] => []
  | c :: rest =>
    (if isUpperChar c then lowerWithin casedBefore c rest else if isLowerChar c then upperChar c else [c]) ++
      swapFrom (casedAfter casedBefore c) rest

/-- Upper case becomes lower and lower case upper. -/
def swapCase (s : String) : String := String.ofList (swapFrom false s.toList)

/-- A text is in lower case when it has small letters and no letters of another case. -/
def isLower (s : String) : Bool :=
  s.toList.any isLowerChar && s.toList.all fun c => !isUpperChar c && !isTitleChar c

/-- A text is in upper case when it has capital letters and no letters of another case. -/
def isUpper (s : String) : Bool :=
  s.toList.any isUpperChar && s.toList.all fun c => !isLowerChar c && !isTitleChar c

end Courier.Text
