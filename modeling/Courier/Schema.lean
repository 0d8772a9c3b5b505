import Courier.Document
import Courier.Number.Arithmetic
import Courier.Text.Property
import Courier.Text.Search

/-!
Reading of documents as structures. Reading does not stop at the first problem: every problem is reported with the
place where it stands. Texts are taken as they are; truth values and integers may also be written in other ways.
-/

namespace Courier.Schema

/-- What is wrong with a part of a document. -/
inductive Cause
  | missing
  | notText
  | notBool
  | unknownBool
  | notList
  | notObject
  | notModel (name : String)
  /-- None of some words. -/
  | notAmong (words : List String)
  | notInteger
  | unknownInteger
  | fraction
  | integerTooLarge
  | notFinite
  deriving DecidableEq, Repr

namespace Cause

/-- Words in quotes as alternatives. -/
def alternatives : List String → String
  | [] => ""
  | [w] => "'" ++ w ++ "'"
  | [v, w] => "'" ++ v ++ "' or '" ++ w ++ "'"
  | w :: rest => "'" ++ w ++ "', " ++ alternatives rest

/-- The wording of a cause. -/
def message : Cause → String
  | missing => "Field required"
  | notText => "Input should be a valid string"
  | notBool => "Input should be a valid boolean"
  | unknownBool => "Input should be a valid boolean, unable to interpret input"
  | notList => "Input should be a valid list"
  | notObject => "Input should be a valid dictionary"
  | notModel name => "Input should be a valid dictionary or instance of " ++ name
  | notAmong words => "Input should be " ++ alternatives words
  | notInteger => "Input should be a valid integer"
  | unknownInteger => "Input should be a valid integer, unable to parse string as an integer"
  | fraction => "Input should be a valid integer, got a number with a fractional part"
  | integerTooLarge => "Unable to parse input string as an integer, exceeded maximum size"
  | notFinite => "Input should be a finite number"

/-- The code of a cause. -/
def code : Cause → String
  | missing => "missing"
  | notText => "string_type"
  | notBool => "bool_type"
  | unknownBool => "bool_parsing"
  | notList => "list_type"
  | notObject => "dict_type"
  | notModel _ => "model_type"
  | notAmong _ => "enum"
  | notInteger => "int_type"
  | unknownInteger => "int_parsing"
  | fraction => "int_from_float"
  | integerTooLarge => "int_parsing_size"
  | notFinite => "finite_number"

end Cause

/-- A problem: the way to the part of the document, from outside to inside, and what is wrong with it. -/
structure Problem where
  place : List String
  cause : Cause
  deriving DecidableEq, Repr

/-- The wording of a problem. -/
def Problem.message (p : Problem) : String :=
  Text.join "." p.place ++ ": " ++ p.cause.message ++ " [" ++ p.cause.code ++ "]"

/-- The wording of problems. -/
def messageOf (problems : List Problem) : String := Text.join "; " (problems.map Problem.message)

/-- A value, or all the problems that are in its way. -/
inductive Checked (α : Type)
  | valid (value : α)
  | invalid (problems : List Problem)

namespace Checked

/-- One problem with the document itself. -/
def fail {α : Type} (cause : Cause) : Checked α := invalid [⟨[], cause⟩]

/-- The value or the problems under a name. -/
def under {α : Type} (name : String) : Checked α → Checked α
  | valid a => valid a
  | invalid problems => invalid (problems.map fun p => { p with place := name :: p.place })

/-- The value after a function. -/
def map {α β : Type} (f : α → β) : Checked α → Checked β
  | valid a => valid (f a)
  | invalid problems => invalid problems

/-- Two values put together, or the problems of both. -/
def apply {α β : Type} : Checked (α → β) → Checked α → Checked β
  | valid f, valid a => valid (f a)
  | valid _, invalid problems => invalid problems
  | invalid problems, valid _ => invalid problems
  | invalid first, invalid second => invalid (first ++ second)

instance : Applicative Checked where
  pure := valid
  map := map
  seq f a := apply f (a ())

/-- The value or the problems. -/
def toExcept {α : Type} : Checked α → Except (List Problem) α
  | valid a => .ok a
  | invalid problems => .error problems

end Checked

/-! ### Readers of values -/

/-- A text. -/
def text : Document → Checked String
  | .text s => .valid s
  | _ => .fail .notText

/-- The truth value that a word stands for. -/
def wordToBool? (word : String) : Option Bool :=
  let word := word.map Char.toLower
  if ["0", "f", "n", "no", "off", "false"].contains word then some false
  else if ["1", "t", "y", "yes", "on", "true"].contains word then some true
  else none

/-- The truth value that an integer stands for. -/
def integerToBool (i : Int) : Checked Bool :=
  if i == 0 then .valid false else if i == 1 then .valid true else .fail .unknownBool

/-- Whether an integer fits into 64 bits. -/
def fitsWord (i : Int) : Bool := -Int.pow 2 63 ≤ i && i < Int.pow 2 63

/-- A truth value. -/
def bool : Document → Checked Bool
  | .bool b => .valid b
  | .int i => integerToBool i
  | .float x =>
    if Number.isWhole x then
      match Number.truncate? x with
      | some i => if fitsWord i then integerToBool i else .fail .notBool
      | none => .fail .notBool
    else .fail .notBool
  | .text s => match wordToBool? s with
    | some b => .valid b
    | none => .fail .unknownBool
  | _ => .fail .notBool

/-- The longest numeral that is read. -/
def numeralLimit : Nat := 4300

/-- The integer of a plain numeral: digits without a zero in front, and perhaps a minus sign. -/
def plainInteger? (cs : List Char) : Option Int :=
  let (negative, digits) := match cs with
    | '-' :: rest => (true, rest)
    | cs => (false, cs)
  if digits.isEmpty || !digits.all Text.isAsciiDigit || (1 < digits.length && digits.head? == some '0') then none
  else
    let n : Nat := digits.foldl (fun n c => 10 * n + (c.toNat - 48)) 0
    some (if negative then -(n : Int) else n)

/-- A numeral without the zeros at its front, if it starts like one; `last` is the character before. -/
def dropZeros (last : Char) : List Char → Option (List Char)
  | [] => some [last]
  | c :: rest =>
    if c == '0' || c == '_' then dropZeros c rest
    else if Text.isAsciiDigit c then some (c :: rest)
    else if c == '.' then some (last :: c :: rest)
    else none

/-- A numeral with a plus sign, zeros around it and single underscores taken out. -/
def cleanNumeral? (cs : List Char) : Option (List Char) := do
  let cs := match cs with
    | '+' :: rest => rest
    | cs => cs
  let cs ← match cs with
    | '0' :: rest => dropZeros '0' rest
    | c :: rest => if Text.isAsciiDigit c || c == '-' then some (c :: rest) else none
    | [] => none
  let whole := cs.takeWhile (· != '.')
  let cs := if (cs.dropWhile (· != '.')).tail.all (· == '0') then whole else cs
  let single := cs.head? != some '_' && cs.getLast? != some '_' && !Text.contains (String.ofList cs) "__"
  return if single then cs.filter (· != '_') else cs

/-- The blanks that may stand around a numeral. -/
def isNumeralBlank (c : Char) : Bool := Text.isBlank c && !(0x1C ≤ c.toNat && c.toNat ≤ 0x1F)

/-- The integer of a numeral. -/
def integerOfText (s : String) : Checked Int :=
  let cs := Text.dropTrailingList isNumeralBlank (s.toList.dropWhile isNumeralBlank)
  if numeralLimit < cs.length then .fail .integerTooLarge
  else match (plainInteger? cs).orElse fun _ => (cleanNumeral? cs).bind plainInteger? with
    | some i => .valid i
    | none => .fail .unknownInteger

/-- An integer. -/
def integer : Document → Checked Int
  | .int i => .valid i
  | .bool b => .valid (if b then 1 else 0)
  | .float x =>
    match Number.truncate? x with
    | none => .fail .notFinite
    | some i =>
      if !Number.isWhole x then .fail .fraction
      else if fitsWord i then .valid i
      else .fail .integerTooLarge
  | .text s => integerOfText s
  | _ => .fail .notInteger

/-- A value that may be null. -/
def nullable {α : Type} (read : Document → Checked α) : Document → Checked (Option α)
  | .null => .valid none
  | d => (read d).map some

/-- One of some words. -/
def among {α : Type} (words : List (String × α)) (d : Document) : Checked α :=
  match d with
  | .text s => match entryOf? s words with
    | some a => .valid a
    | none => .fail (.notAmong (words.map (·.1)))
  | _ => .fail (.notAmong (words.map (·.1)))

/-- Items, numbered from a position on. -/
def itemsFrom {α : Type} (read : Document → Checked α) : Nat → List Document → Checked (List α)
  | _, [] => .valid []
  | n, d :: rest => List.cons <$> (read d).under (toString n) <*> itemsFrom read (n + 1) rest

/-- A list. -/
def list {α : Type} (read : Document → Checked α) : Document → Checked (List α)
  | .list ds => itemsFrom read 0 ds
  | _ => .fail .notList

/-- Entries of any names. -/
def entriesOf {α : Type} (read : Document → Checked α) : List (String × Document) → Checked (List (String × α))
  | [] => .valid []
  | (n, d) :: rest => (fun a more => (n, a) :: more) <$> (read d).under n <*> entriesOf read rest

/-- An object of entries of any names. -/
def object {α : Type} (read : Document → Checked α) : Document → Checked (List (String × α))
  | .object entries => entriesOf read entries
  | _ => .fail .notObject

/-! ### Readers of fields -/

/-- The fields of a structure, read from the entries of an object. -/
def model {α : Type} (name : String) (read : List (String × Document) → Checked α) : Document → Checked α
  | .object entries => read entries
  | _ => .fail (.notModel name)

/-- A field that has to be there. -/
def required {α : Type} (entries : List (String × Document)) (name : String) (read : Document → Checked α) :
    Checked α :=
  match entryOf? name entries with
  | some d => (read d).under name
  | none => (Checked.fail .missing).under name

/-- A field with a default. -/
def optional {α : Type} (entries : List (String × Document)) (name : String) (read : Document → Checked α)
    (default : α) : Checked α :=
  match entryOf? name entries with
  | some d => (read d).under name
  | none => .valid default

/-- A field with a default that is also known under an older name. -/
def renamed {α : Type} (entries : List (String × Document)) (name older : String) (read : Document → Checked α)
    (default : α) : Checked α :=
  match entryOf? name entries with
  | some d => (read d).under name
  | none => optional entries older read default

end Courier.Schema
