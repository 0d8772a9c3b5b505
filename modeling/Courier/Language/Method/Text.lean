import Courier.Language.Method.Argument
import Courier.Text.Case

/-!
The methods of texts. A text that is marked as fit for HTML has methods of its own, which keep the mark and escape what
they put in.
-/

namespace Courier.Language

namespace Method

/-- A position as a result, or minus one. -/
def found (start : Nat) (p : Option Nat) : Int := p.elim (-1) fun n => ((start + n : Nat) : Int)

/-- Searches a text from the front or from the back. The bounds are looked at before the pattern. -/
def search (cs : List Char) (name : String) (last : Bool) (a : Arguments) : Except Fault Int := do
  let vs ← searchArguments "str" name a
  let part ← window cs vs.tail
  let pattern ← textArgument (argument vs 0)
  match part with
  | none => return -1
  | some (start, part) =>
    return found start (if last then Text.findLast pattern.toList part else Text.find pattern.toList part)

/-- Whether a text starts or ends with one of some texts. -/
def touches (cs : List Char) (name : String) (atEnd : Bool) (a : Arguments) : Except Fault Bool := do
  let vs ← searchArguments "str" name a
  let part ← window cs vs.tail
  let test (s : String) : Bool := part.any fun (_, cs) =>
    if atEnd then s.toList.isSuffixOf cs else s.toList.isPrefixOf cs
  match argument vs 0 with
  | .tuple _ items =>
    let mut result := false
    for v in items do
      match v.text? with
      | some s => if !result then result := test s
      | none =>
        if !result then
          throw (Fault.wrongType ("tuple for " ++ name ++ " must only contain str, not " ++ v.typeName))
    return result
  | v => match v.text? with
    | some s => return test s
    | none =>
      throw (Fault.wrongType (name ++ " first arg must be str or a tuple of str, not " ++ v.typeName))

/-- Removes characters from the ends of a text: blanks, or those of an argument. -/
def stripped (cs : List Char) (name : String) (left right : Bool) (a : Arguments) : Except Fault (List Char) := do
  let vs ← between "str" name 0 1 a
  let p ← match vs with
    | [] | [.none] => pure Text.isBlank
    | v :: _ => match v.text? with
      | some s => pure fun c => s.toList.contains c
      | none => throw (Fault.wrongType (name ++ " arg must be None or str"))
  let cs := if left then cs.dropWhile p else cs
  return if right then Text.dropTrailingList p cs else cs

/-- The words between blanks, at most `limit` of them cut off at the head of a text, and the rest as it is. -/
def words (isBlank : Char → Bool) : Nat → Nat → List Char → List (List Char)
  | 0, _, _ => []
  | fuel + 1, limit, cs =>
    match cs.dropWhile isBlank with
    | [] => []
    | cs =>
      if limit == 0 then [cs]
      else cs.takeWhile (fun c => !isBlank c) :: words isBlank fuel (limit - 1) (cs.dropWhile fun c => !isBlank c)

/-- Reverses the pieces of a split and their characters, to split from the back. -/
def turned (pieces : List (List Char)) : List (List Char) := (pieces.map List.reverse).reverse

/-- The arguments of a method that takes each of its parameters by position or by name. -/
def flexible (name : String) (parameters : List String) (a : Arguments) : Except Fault (List (Option Value)) := do
  let given := a.positional.length + a.named.length
  if parameters.length < given then
    throw (Fault.wrongType (name ++ "() takes at most " ++ toString parameters.length ++
      (if a.positional.isEmpty then " keyword" else "") ++ " argument" ++
      (if parameters.length == 1 then "" else "s") ++ " (" ++ toString given ++ " given)"))
  let known := a.named.filter fun (n, _) => (parameters.drop a.positional.length).contains n
  if known.length < a.named.length then
    let twice := (parameters.take a.positional.length).zipIdx.find? fun (n, _) => (entryOf? n a.named).isSome
    match twice, a.named.find? fun (n, _) => !parameters.contains n with
    | some (n, position), _ => throw (Fault.wrongType ("argument for " ++ name ++ "() given by name ('" ++ n ++
        "') and position (" ++ toString (position + 1) ++ ")"))
    | none, some (n, _) => throw (Fault.wrongType
        ("'" ++ n ++ "' is an invalid keyword argument for " ++ name ++ "()"))
    | none, none => pure ()
  return parameters.zipIdx.map fun (n, position) => a.positional[position]?.orElse fun _ => entryOf? n a.named

/-- Splits a text at a separator or at blanks. -/
def split (cs : List Char) (name : String) (fromBack : Bool) (a : Arguments) : Except Fault (List (List Char)) := do
  let vs ← flexible name ["sep", "maxsplit"] a
  let separator := (vs[0]?.getD none).getD .none
  let most ← match vs[1]?.getD none with
    | some v => sizeArgument v
    | none => pure (-1)
  let limit := if most < 0 then cs.length else most.toNat
  let cs := if fromBack then cs.reverse else cs
  let pieces ← match separator with
    | .none => pure (words Text.isBlank (cs.length + 1) limit cs)
    | v => match v.text? with
      | none => throw (Fault.wrongType ("must be str or None, not " ++ v.typeName))
      | some s =>
        if s.isEmpty then throw (Fault.wrongValue "empty separator")
        else pure (Text.pieces (if fromBack then s.toList.reverse else s.toList) limit cs)
  return if fromBack then turned pieces else pieces

/-- Joins the items of a value, which have to be texts. A single one is handed on as it is. -/
def joinItems (separator : String) (v : Value) : Except Fault Value := do
  let items ← match v.items with
    | .ok items => pure items
    | .error (.notIterable _) => throw (Fault.wrongType "can only join an iterable")
    | .error f => throw f
  let mut parts := #[]
  for item in items do
    match item.text? with
    | some s => parts := parts.push s
    | none => throw (Fault.wrongType ("sequence item " ++ toString parts.size ++ ": expected str instance, " ++
        item.typeName ++ " found"))
  match items with
  | [.text identity s] => return .text identity s
  | _ => return .ownText (Text.join separator parts.toList)

/-- Replaces a text by another. -/
def replaced (cs : List Char) (a : Arguments) : Except Fault (List Char) := do
  let vs ← between "str" "replace" 2 3 a
  let old ← textAt "replace() argument 1" (argument vs 0)
  let new ← textAt "replace() argument 2" (argument vs 1)
  let most ← match vs[2]? with
    | some v => sizeArgument v
    | none => pure (-1)
  return Text.replace old.toList new.toList (if most < 0 then cs.length + 1 else most.toNat) cs

/-- The fill character of a padding method. -/
def fillCharacter (v : Option Value) : Except Fault Char :=
  match v with
  | none => .ok ' '
  | some v => match v.text?.map String.toList with
    | some [c] => .ok c
    | some _ => .error (.wrongType "The fill character must be exactly one character long")
    | none => .error (.wrongType ("The fill character must be a unicode character, not " ++ v.typeName))

/-- Pads a text: an odd rest of a centred text goes to the left if the width is odd. -/
def padded (cs : List Char) (name : String) (a : Arguments) : Except Fault (List Char) := do
  let vs ← between "str" name 1 2 a
  let width ← sizeArgument (argument vs 0)
  let c ← fillCharacter vs[1]?
  if lengthLimit < width.toNat then throw Fault.tooLarge
  let missing := width.toNat - cs.length
  let left := if name == "ljust" then 0 else if name == "rjust" then missing
    else missing / 2 + (if missing % 2 == 1 && width.toNat % 2 == 1 then 1 else 0)
  return List.replicate left c ++ cs ++ List.replicate (missing - left) c

/-- Pads a numeral with zeros behind its sign. -/
def zeroPadded (cs : List Char) (v : Value) : Except Fault (List Char) := do
  let width ← sizeArgument v
  if lengthLimit < width.toNat then throw Fault.tooLarge
  let zeros := List.replicate (width.toNat - cs.length) '0'
  match cs with
  | c :: rest => return if c == '+' || c == '-' then c :: zeros ++ rest else zeros ++ cs
  | [] => return zeros

/-- Characters that end a line. -/
def isLineEnd (c : Char) : Bool :=
  (10 ≤ c.toNat && c.toNat ≤ 13) || (28 ≤ c.toNat && c.toNat ≤ 30) || c.toNat == 0x85 || c.toNat == 0x2028 ||
    c.toNat == 0x2029

/-- The lines of a text, with their ends or without. -/
def lines (keepEnds : Bool) : List Char → List Char → List (List Char)
  | [], [] => []
  | piece, [] => [piece.reverse]
  | piece, '\r' :: '\n' :: rest =>
    ((if keepEnds then '\n' :: '\r' :: piece else piece).reverse) :: lines keepEnds [] rest
  | piece, c :: rest =>
    if isLineEnd c then ((if keepEnds then c :: piece else piece).reverse) :: lines keepEnds [] rest
    else lines keepEnds (c :: piece) rest

/-- A text cut at the first or the last occurrence of a separator. -/
def partitioned (cs : List Char) (last : Bool) (v : Value) : Except Fault (List (List Char)) := do
  let separator ← textArgument v
  if separator.isEmpty then throw (Fault.wrongValue "empty separator")
  let pattern := separator.toList
  match if last then Text.findLast pattern cs else Text.find pattern cs with
  | some n => return [cs.take n, pattern, cs.drop (n + pattern.length)]
  | none => return if last then [[], [], cs] else [cs, [], []]

/-- Whether a text that is not empty has only characters of a class. -/
def all (p : Char → Bool) (cs : List Char) : Bool := !cs.isEmpty && cs.all p

/-- A text in title case: letters after letters are small, others are capital, and there are some. -/
def isTitle : Bool → Bool → List Char → Bool
  | _, some', [] => some'
  | afterCased, some', c :: rest =>
    if Text.isUpperChar c || Text.isTitleChar c then !afterCased && isTitle true true rest
    else if Text.isLowerChar c then afterCased && isTitle true true rest
    else isTitle false some' rest

/-- A text with its tabs replaced by blanks up to the next column that the width divides; `column` counts from zero. -/
def expandTabs (width : Nat) : Nat → List Char → List Char
  | _, [] => []
  | column, c :: rest =>
    if c == '\t' then
      let n := if width == 0 then 0 else width - column % width
      List.replicate n ' ' ++ expandTabs width (column + n) rest
    else c :: expandTabs width (if c == '\n' || c == '\r' then 0 else column + 1) rest

/-- What a table has for a character: nothing if it has no entry. -/
def tableEntry (table : Value) (c : Char) : Except Fault (Option Value) :=
  match table with
  | .map _ _ | .list _ _ | .tuple _ _ | .text _ _ | .safeText _ | .range _ _ _ => .ok (table.item? (.newInt c.toNat))
  | .undefined m chained => if chained then .ok (some table) else .error (.undefined m)
  | v => .error (.notSubscriptable v.typeName)

/-- The characters that a table puts in the place of one. -/
def translated (table : Value) (c : Char) : Except Fault (List Char) := do
  match ← tableEntry table c with
  | none => return [c]
  | some .none => return []
  | some v =>
    match v.text?, v with
    | some s, _ => return s.toList
    | none, _ => match v.int? with
      | some i =>
        if 0 ≤ i && i < 0x110000 then return [Courier.Text.charOfEscape i.toNat]
        else throw (Fault.wrongValue "character mapping must be in range(0x110000)")
      | none => throw (Fault.wrongType "character mapping must return integer, None or str")

/-- A key of a table: a code point, or a text of one character. -/
def tableKey (k : Value) : Except Fault Value :=
  match k.text?, k with
  | some s, _ => match s.toList with
    | [c] => .ok (.newInt c.toNat)
    | _ => .error (.wrongValue "string keys in translate table must be of length 1")
  | none, .int _ i => .ok (.newInt i)
  | none, .bool b => .ok (.bool b)
  | none, _ => .error (.wrongType "keys in translate table must be strings or integers")

/-- A table that puts characters in the place of others: made of a map, or of two texts of one length and perhaps a
third one of characters to leave out. -/
def tableOf (a : Arguments) : Except Fault Value := do
  let vs ← between "str" "maketrans" 1 3 a
  let code (c : Char) : Value := .newInt c.toNat
  match vs with
  | [.map _ entries] => do
    let entries ← entries.mapM fun (k, v) => do return (← tableKey k, v)
    return .newMap (Value.putKeys entries [])
  | [_] => throw (Fault.wrongType "if you give only one argument to maketrans it must be a dict")
  | first :: rest =>
    match first.text? with
    | none => throw (Fault.wrongType "first maketrans argument must be a string if there is a second argument")
    | some from' => do
      let into ← textAt "maketrans() argument 2" (argument rest 0)
      let without ← match rest[1]? with
        | some v => textAt "maketrans() argument 3" v
        | none => pure ""
      if from'.length != into.length then
        throw (Fault.wrongValue "the first two maketrans arguments must have equal length")
      let pairs := (from'.toList.zip into.toList).map fun (c, d) => (code c, code d)
      return .newMap (Value.putKeys (without.toList.map fun c => (code c, .none)) (Value.putKeys pairs []))
  | [] => return .none

/-- The methods of texts. A text that a method leaves as it is, is the same object afterwards; one in another case is
not, even if it looks the same. -/
def onText (identity : Identity) (s : String) (name : String) (a : Arguments) : Except Fault Value := do
  let cs := s.toList
  let plain (f : String → String) : Except Fault Value := do
    noArguments "str" name a
    return .ownText (f s)
  let test (b : Bool) : Except Fault Value := do
    noArguments "str" name a
    return .bool b
  let whole (part : List Char) : Value := if part == cs then .text identity s else .newText (String.ofList part)
  match name with
  | "upper" => plain Text.upper
  | "lower" => plain Text.lower
  | "casefold" => plain Text.folded
  | "capitalize" => plain Text.capitalize
  | "title" => plain Text.titleWords
  | "swapcase" => plain Text.swapCase
  | "strip" => return whole (← stripped cs name true true a)
  | "lstrip" => return whole (← stripped cs name true false a)
  | "rstrip" => return whole (← stripped cs name false true a)
  | "find" => return .newInt (← search cs name false a)
  | "rfind" => return .newInt (← search cs name true a)
  | "index" | "rindex" => do
    let n ← search cs name (name == "rindex") a
    if n < 0 then throw (Fault.wrongValue "substring not found")
    return .newInt n
  | "count" => do
    let vs ← searchArguments "str" name a
    let part ← window cs vs.tail
    let pattern ← textArgument (argument vs 0)
    return .newInt (part.elim 0 fun (_, cs) => (Text.count pattern.toList cs : Nat))
  | "startswith" => return .bool (← touches cs name false a)
  | "endswith" => return .bool (← touches cs name true a)
  | "split" => return .newList ((← split cs name false a).map whole)
  | "rsplit" => return .newList ((← split cs name true a).map whole)
  | "join" => joinItems s (← oneArgument "str" name a)
  | "replace" => return whole (← replaced cs a)
  | "center" | "ljust" | "rjust" => return whole (← padded cs name a)
  | "zfill" => return whole (← zeroPadded cs (← oneArgument "str" name a))
  | "expandtabs" => do
    let width ← match (← flexible name ["tabsize"] a)[0]?.getD none with
      | some v => flagArgument v
      | none => pure 8
    if lengthLimit < width.toNat * cs.length then throw Fault.tooLarge
    return whole (expandTabs width.toNat 0 cs)
  | "translate" => return .newText (String.ofList (← cs.mapM (translated (← oneArgument "str" name a))).flatten)
  | "maketrans" => tableOf a
  | "splitlines" => do
    let keep ← match (← flexible name ["keepends"] a)[0]?.getD none with
      | some v => flagArgument v
      | none => pure 0
    return .newList ((lines (keep != 0) [] cs).map whole)
  | "partition" | "rpartition" => do
    let ps ← partitioned cs (name == "rpartition") (← oneArgument "str" name a)
    return .newTuple (ps.map whole)
  | "removeprefix" => do
    let t ← textAt (name ++ "() argument") (← oneArgument "str" name a)
    return whole (if t.toList.isPrefixOf cs then cs.drop t.length else cs)
  | "removesuffix" => do
    let t ← textAt (name ++ "() argument") (← oneArgument "str" name a)
    return whole (if t.toList.isSuffixOf cs then cs.take (cs.length - t.length) else cs)
  | "isupper" => test (Text.isUpper s)
  | "islower" => test (Text.isLower s)
  | "istitle" => test (isTitle false false cs)
  | "isdigit" => test (all Text.isDigit cs)
  | "isdecimal" => test (all Text.isDecimal cs)
  | "isnumeric" => test (all Text.isNumber cs)
  | "isspace" => test (all Text.isBlank cs)
  | "isalpha" => test (all Text.isLetter cs)
  | "isalnum" => test (all (fun c => Text.isLetter c || Text.isNumber c) cs)
  | "isascii" => test (cs.all fun c => c.toNat < 128)
  | "isidentifier" => test (Text.isIdentifier s)
  | "isprintable" => test (cs.all Text.isPrintable)
  | _ => throw (Fault.noAttribute "str" name)

/-! ### Texts that are fit for HTML -/

/-- A value as text that is fit for HTML. -/
def escaped (v : Value) : Except Fault String :=
  match v with
  | .safeText s => .ok s
  | _ => do return Text.htmlEscaped (← v.toText)

/-- A text, or the texts of a list or tuple, marked as fit for HTML. -/
def marked : Value → Value
  | .text _ s => .safeText s
  | .list identity items => .list identity (items.map markedText)
  | .tuple _ items => .newTuple (items.map markedText)
  | v => v
where
  markedText : Value → Value
    | .text _ s => .safeText s
    | v => v

/-- The parameters of the methods that keep the mark, beside the text itself, and whether they may be given by name. -/
def safeParameters? (name : String) : Option (List Parameter × Bool) :=
  if ["capitalize", "title", "lower", "upper", "swapcase", "casefold"].contains name then some ([], false)
  else if ["strip", "lstrip", "rstrip"].contains name then some ([optional "chars" .none], false)
  else if ["ljust", "rjust", "center"].contains name then
    some ([required "width", optional "fillchar" (.newText " ")], false)
  else if name == "split" || name == "rsplit" then
    some ([optional "sep" .none, optional "maxsplit" (.newInt (-1))], true)
  else if name == "splitlines" then some ([optional "keepends" (.bool false)], true)
  else if name == "expandtabs" then some ([optional "tabsize" (.newInt 8)], true)
  else if name == "replace" then some ([required "old", required "new", optional "count" (.newInt (-1))], false)
  else if name == "join" then some ([required "iterable"], false)
  else if name == "zfill" then some ([required "width"], false)
  else if name == "translate" then some ([required "table"], false)
  else if name == "removeprefix" then some ([required "prefix"], false)
  else if name == "removesuffix" then some ([required "suffix"], false)
  else if name == "partition" || name == "rpartition" then some ([required "sep"], false)
  else none

/-- The arguments with those escaped that a method puts into its text. -/
def safeArguments (name : String) (vs : List Value) : Except Fault (List Value) := do
  match name, vs with
  | "replace", [old, new, count] => return [old, .newText (← escaped new), count]
  | "ljust", [width, fill] | "rjust", [width, fill] | "center", [width, fill] =>
    return [width, .newText (← escaped fill)]
  | "join", [v] =>
    let items ← v.items
    return [.newList (← items.mapM fun item => do return .newText (← escaped item))]
  | _, _ => return vs

/-- The methods of texts that are fit for HTML. -/
def onSafeText (s : String) (name : String) (a : Arguments) : Except Fault Value := do
  let accepted (parameters : List Parameter) : Except Fault (List Value) :=
    (Signature.ofPositional ("Markup." ++ name) 1 parameters).accept a
  match name, safeParameters? name with
  | "unescape", _ => do
    let _ ← accepted []
    return .newText (Text.withoutReferences s)
  | "striptags", _ => do
    let _ ← accepted []
    return .newText (Text.withoutTags s)
  | "escape", _ => do
    let vs ← accepted [required "s"]
    return .safeText (← escaped (argument vs 0))
  | _, none => onText .loose s name a
  | _, some (parameters, takesNames) =>
    let vs ← (Signature.mk ("Markup." ++ name) 1 parameters takesNames).accept a
    return marked (← onText .loose s name ⟨← safeArguments name vs, []⟩)

end Method

end Courier.Language
