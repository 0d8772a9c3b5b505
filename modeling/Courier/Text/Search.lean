/-!
Searching texts for texts, splitting and replacing. Positions count characters. An empty pattern is found at
every position, the end included.
-/

namespace Courier.Text

/-- The position of the first occurrence of a pattern, counted from a number on. -/
def findFrom (pattern : List Char) : Nat → List Char → Option Nat
  | position, [] => if pattern.isEmpty then some position else none
  | position, c :: rest =>
    if pattern.isPrefixOf (c :: rest) then some position else findFrom pattern (position + 1) rest

/-- The position of the first occurrence of a pattern. -/
def find (pattern cs : List Char) : Option Nat := findFrom pattern 0 cs

/-- The position of the last occurrence of a pattern, given the last one so far. -/
def findLastFrom (pattern : List Char) : Option Nat → Nat → List Char → Option Nat
  | last, position, [] => if pattern.isEmpty then some position else last
  | last, position, c :: rest =>
    findLastFrom pattern (if pattern.isPrefixOf (c :: rest) then some position else last) (position + 1) rest

/-- The position of the last occurrence of a pattern. -/
def findLast (pattern cs : List Char) : Option Nat := findLastFrom pattern none 0 cs

/-- Whether a text, or what is left of it behind its first characters, passes a test. -/
def anyTail (p : List Char → Bool) : List Char → Bool
  | [] => p []
  | c :: rest => p (c :: rest) || anyTail p rest

/-- Whether a text occurs in another. -/
def contains (s pattern : String) : Bool := (find pattern.toList s.toList).isSome

/-- The pieces between the first occurrences of a pattern that do not overlap, at most so many of them; `skip`
characters are still part of the last occurrence, and `piece` holds the piece so far, reversed. The pattern is not
empty. -/
def piecesFrom (pattern : List Char) : Nat → Nat → List Char → List Char → List (List Char)
  | _, _, piece, [] => [piece.reverse]
  | limit, skip + 1, piece, _ :: rest => piecesFrom pattern limit skip piece rest
  | 0, 0, piece, c :: rest => piecesFrom pattern 0 0 (c :: piece) rest
  | limit + 1, 0, piece, c :: rest =>
    if pattern.isPrefixOf (c :: rest) then
      piece.reverse :: piecesFrom pattern limit (pattern.length - 1) [] rest
    else piecesFrom pattern (limit + 1) 0 (c :: piece) rest

/-- The pieces between occurrences of a pattern that is not empty, split at most `limit` times. -/
def pieces (pattern : List Char) (limit : Nat) (cs : List Char) : List (List Char) :=
  piecesFrom pattern limit 0 [] cs

/-- The number of occurrences of a pattern that do not overlap. -/
def count (pattern cs : List Char) : Nat :=
  if pattern.isEmpty then cs.length + 1 else (pieces pattern cs.length cs).length - 1

/-- Puts a text in front of the characters of another, and at its end, at most so many times. -/
def insertAround (new : List Char) : Nat → List Char → List Char
  | 0, cs => cs
  | _ + 1, [] => new
  | limit + 1, c :: rest => new ++ c :: insertAround new limit rest

/-- The text with the first occurrences of a pattern replaced, at most so many of them. -/
def replace (old new : List Char) (limit : Nat) (cs : List Char) : List Char :=
  if old.isEmpty then insertAround new limit cs
  else List.intercalate new (pieces old limit cs)

/-- A text with line feeds for line ends of every kind. -/
def unifyLines : List Char → List Char
  | '\r' :: '\n' :: rest => '\n' :: unifyLines rest
  | '\r' :: rest => '\n' :: unifyLines rest
  | c :: rest => c :: unifyLines rest
  | [] => []

/-- The pieces between the occurrences of a character. -/
def splitBy (separator : Char) (s : String) : List String := (s.toList.splitOn separator).map String.ofList

/-- Joins texts with a separator. -/
def join (separator : String) (parts : List String) : String := separator.intercalate parts

end Courier.Text
