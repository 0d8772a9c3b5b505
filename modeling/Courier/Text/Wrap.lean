import Courier.Text.Property

/-!
Lines of limited width. A line may end between the chunks of a text: its words, the runs of blanks between them, and,
where hyphens count, dashes between words and the parts of words that hyphens join. A line takes the chunks that it has
room for; blanks at its ends are left out, and a word that is wider than any line is cut or has a line of its own.
-/

namespace Courier.Text.Wrap

/-- How lines are made. A word that is cut may be cut behind its last hyphen that fits. -/
structure Rules where
  width : Nat
  /-- Whether lines end at dashes and hyphens too. -/
  splitsHyphens : Bool
  cutsWords : Bool
  cutsAtHyphens : Bool

/-! ### Chunks -/

/-- Blanks that a line may end at. -/
def isGap (c : Char) : Bool := c == ' ' || (9 ≤ c.toNat && c.toNat ≤ 13)

/-- Letters of words that hyphens join. -/
def isPartLetter (c : Char) : Bool := isWordPart c && !isDecimal c

/-- Characters that stand in front of a dash between words. -/
def endsWord (c : Char) : Bool := isWordPart c || "!\"'&.,?".toList.contains c

/-- What a chunk is made of. -/
inductive Kind
  | gap
  | dash
  | word
  deriving DecidableEq, Repr

/-- Whether a dash between words starts here: at least two hyphens between the end of a word and another word. `before`
holds the characters in front, the last one first. -/
def isDash (before cs : List Char) : Bool :=
  before.head?.any endsWord && 2 ≤ (cs.takeWhile (· == '-')).length &&
    (cs.dropWhile (· == '-')).head?.any isWordPart

/-- Whether a hyphen that joins two parts of a word stands right in front: two letters before it, or a letter between
hyphens, and letters behind it. -/
def isJoint (before cs : List Char) : Bool :=
  let joins := match before with
    | '-' :: a :: '-' :: c :: _ => isPartLetter a && isPartLetter c
    | '-' :: a :: b :: _ => isPartLetter a && isPartLetter b
    | _ => false
  let goesOn := match cs with
    | a :: '-' :: c :: _ => isPartLetter a && isPartLetter c
    | a :: b :: _ => isPartLetter a && isPartLetter b
    | _ => false
  joins && goesOn

/-- The kind of the chunk that starts here. -/
def kindAt (hyphens : Bool) (before cs : List Char) : Kind :=
  if cs.head?.any isGap then .gap
  else if hyphens && isDash before cs then .dash
  else .word

/-- Whether a chunk of a kind with some characters ends here. -/
def endsHere (hyphens : Bool) (kind : Kind) (piece before cs : List Char) : Bool :=
  match kind with
  | .gap => !cs.head?.any isGap
  | .dash => cs.head? != some '-'
  | .word => cs.head?.any isGap || (hyphens && (isDash before cs || (!piece.tail.isEmpty && isJoint before cs)))

/-- The chunks of a text from a place in it on, given the kind of the present chunk and its characters so far, the last
one first. -/
def chunksFrom (hyphens : Bool) (kind : Kind) (piece before : List Char) : List Char → List (List Char)
  | [] => if piece.isEmpty then [] else [piece.reverse]
  | c :: rest =>
    if piece.isEmpty || endsHere hyphens kind piece before (c :: rest) then
      let others := chunksFrom hyphens (kindAt hyphens before (c :: rest)) [c] (c :: before) rest
      if piece.isEmpty then others else piece.reverse :: others
    else chunksFrom hyphens kind (c :: piece) (c :: before) rest

/-- The chunks of a text. -/
def chunks (hyphens : Bool) (cs : List Char) : List (List Char) := chunksFrom hyphens .gap [] [] cs

/-! ### Lines -/

/-- The chunks that a line has room for, and those behind them. -/
def fitting (room : Nat) : List (List Char) → List (List Char) × List (List Char)
  | [] => ([], [])
  | chunk :: rest =>
    if chunk.length ≤ room then
      let (taken, left) := fitting (room - chunk.length) rest
      (chunk :: taken, left)
    else ([], chunk :: rest)

/-- How much of a chunk is cut off for a line that has room for some of it. -/
def cutLength (rules : Rules) (room : Nat) (chunk : List Char) : Nat :=
  if !rules.cutsAtHyphens || chunk.length ≤ room then room
  else
    let upTo := dropTrailingList (· != '-') (chunk.take room)
    if upTo.dropLast.any (· != '-') then upTo.length else room

/-- The chunks of a line that takes its share of a chunk that no line has room for, and those behind it. -/
def withLong (rules : Rules) (taken : List (List Char)) : List (List Char) → List (List Char) × List (List Char)
  | [] => (taken, [])
  | chunk :: rest =>
    if chunk.length ≤ rules.width then (taken, chunk :: rest)
    else if rules.cutsWords then
      let room := if rules.width == 0 then 1 else rules.width - taken.flatten.length
      let n := cutLength rules room chunk
      (taken ++ [chunk.take n], chunk.drop n :: rest)
    else if taken.isEmpty then ([chunk], rest)
    else (taken, chunk :: rest)

/-- Without a chunk of blanks at its head. -/
def withoutGap : List (List Char) → List (List Char)
  | chunk :: rest => if chunk.all isBlank then rest else chunk :: rest
  | [] => []

/-- The lines that chunks make. Blanks in front of the first line are kept. Every line takes a character or a chunk
away, which the fuel counts. -/
def linesFrom (rules : Rules) : Nat → Bool → List (List Char) → List (List Char)
  | 0, _, _ | _, _, [] => []
  | fuel + 1, isFirst, chunks =>
    let (taken, left) := fitting rules.width (if isFirst then chunks else withoutGap chunks)
    let (taken, left) := withLong rules taken left
    let taken := (withoutGap taken.reverse).reverse
    if taken.isEmpty then linesFrom rules fuel isFirst left
    else taken.flatten :: linesFrom rules fuel false left

/-- The lines of a text. -/
def lines (rules : Rules) (cs : List Char) : List (List Char) :=
  linesFrom rules (2 * cs.length + 1) true (chunks rules.splitsHyphens cs)

/-- Whether a text has a chunk that no line has room for. -/
def hasLong (rules : Rules) (cs : List Char) : Bool :=
  (chunks rules.splitsHyphens cs).any fun chunk => rules.width < chunk.length

/-- Every character of a text is in one of its chunks, in the same order. -/
theorem chunksFrom_flatten (hyphens : Bool) (kind : Kind) (piece before cs : List Char) :
    (chunksFrom hyphens kind piece before cs).flatten = piece.reverse ++ cs := by
  induction cs generalizing kind piece before with
  | nil => cases piece <;> simp [chunksFrom]
  | cons c rest ih =>
    unfold chunksFrom
    split
    · cases piece <;> simp [ih]
    · simp [ih]

/-- The chunks of a text make up the text. -/
theorem chunks_flatten (hyphens : Bool) (cs : List Char) : (chunks hyphens cs).flatten = cs :=
  chunksFrom_flatten hyphens .gap [] [] cs

/-- What fits and what is behind it are all chunks. -/
theorem fitting_append (room : Nat) (chunks : List (List Char)) :
    (fitting room chunks).1 ++ (fitting room chunks).2 = chunks := by
  induction chunks generalizing room with
  | nil => rfl
  | cons chunk rest ih =>
    unfold fitting
    split
    · simp [ih]
    · rfl

end Courier.Text.Wrap
