import Courier.Language.Filter.Argument
import Courier.Language.JsonForm
import Courier.Language.Method.Text

/-!
The filters that change texts or make them.
-/

namespace Courier.Language

namespace Filter

/-- A text in the place of a value, which is the value itself if it has that text already. -/
def inPlaceOf (v : Value) (t : String) : Value :=
  match v with
  | .text identity s => if t == s then .text identity s else .newText t
  | .safeText _ => .safeText t
  | _ => .newText t

/-- Characters after which a word starts. -/
def startsWord (c : Char) : Bool := Text.isBlank c || c == '-' || c == '(' || c == '\x7b' || c == '[' || c == '<'

/-- Every word with its first letter in upper case and the others in lower case. -/
def titled : Nat → List Char → List Char
  | 0, _ => []
  | _, [] => []
  | fuel + 1, c :: rest =>
    if startsWord c then
      let run := (c :: rest).takeWhile startsWord
      (Text.upper (String.singleton c)).toList ++ (Text.lower (String.ofList run.tail)).toList ++
        titled fuel ((c :: rest).dropWhile startsWord)
    else
      let word := (c :: rest).takeWhile fun c => !startsWord c
      (Text.upper (String.singleton c)).toList ++ (Text.lower (String.ofList word.tail)).toList ++
        titled fuel ((c :: rest).dropWhile fun c => !startsWord c)

/-- A text with one text replaced by another, at most so many times unless the count is negative. Where texts are made
fit for HTML, what is not marked as such is escaped. -/
def replaced (manner : Manner) (v old new : Value) (most : Int) : Except Fault Value := do
  let plain (v old new : String) : String := String.ofList
    (Text.replace old.toList new.toList (if most < 0 then v.length + 1 else most.toNat) v.toList)
  let escapes := manner.escaping && (isMarked v || isMarked old || isMarked new)
  if escapes then
    return .safeText (plain (← Method.escaped v) (← old.toText) (← Method.escaped new))
  else
    let result := plain (← v.toText) (← old.toText) (← new.toText)
    return if isMarked v then .newText result else inPlaceOf v result

/-- The filters of texts. -/
def ofText? (manner : Manner) (name : String) (v : Value) (a : Arguments) : Option (Except Fault Value) :=
  let alone (shown : String) (f : String → String) := some <| bound shown 0 [required "s"] v a fun vs => do
    let (s, wrap) ← softText (argument vs 0)
    return wrap (f s)
  match name with
  | "upper" => alone "do_upper" Text.upper
  | "lower" => alone "do_lower" Text.lower
  | "capitalize" => alone "do_capitalize" Text.capitalize
  | "title" => some <| bound "do_title" 0 [required "s"] v a fun vs => do
      let (s, _) ← softText (argument vs 0)
      return .ownText (String.ofList (titled (s.length + 1) s.toList))
  | "string" => some <| boundByPosition "soft_str" [required "s"] v a fun vs => do
      let (s, _) ← softText (argument vs 0)
      return inPlaceOf (argument vs 0) s
  | "trim" => some <| bound "do_trim" 0 [required "value", optional "chars" .none] v a fun vs => do
      let (s, _) ← softText (argument vs 0)
      return inPlaceOf (argument vs 0) (String.ofList (← Method.stripped s.toList "strip" true true ⟨vs.tail, []⟩))
  | "replace" => some <|
      bound "do_replace" 1 [required "s", required "old", required "new", optional "count" .none] v a fun
      | [s, old, new, count] => do
        let most ← match count with
          | .none => pure (-1)
          | c => Method.sizeArgument c
        replaced manner s old new most
      | _ => .ok .none
  | "center" => some <| bound "do_center" 0 [required "value", optional "width" (.newInt 80)] v a fun vs => do
      let (s, _) ← softText (argument vs 0)
      return inPlaceOf (argument vs 0) (String.ofList (← Method.padded s.toList "center" ⟨vs.tail, []⟩))
  | "wordcount" => some <| bound "do_wordcount" 0 [required "s"] v a fun vs => do
      let (s, _) ← softText (argument vs 0)
      let cs := s.toList.map fun c => if Text.isWordPart c then c else ' '
      return .newInt (Method.words Text.isBlank (cs.length + 1) cs.length cs).length
  | "escape" | "e" => some <| boundByPosition "escape" [required "s"] v a fun vs => do
      return .safeText (← Method.escaped (argument vs 0))
  | "forceescape" => some <| bound "do_forceescape" 0 [required "value"] v a fun vs => do
      return .safeText (Text.htmlEscaped (← (argument vs 0).toText))
  | "safe" => some <| bound "do_mark_safe" 0 [required "value"] v a fun vs => do
      return .safeText (← (argument vs 0).toText)
  | "tojson" => some <| bound "do_tojson" 1 [required "value", optional "indent" .none] v a fun vs => do
      return .safeText (← Value.toScript (argument vs 1) (argument vs 0))
  | _ => none

end Filter

end Courier.Language
