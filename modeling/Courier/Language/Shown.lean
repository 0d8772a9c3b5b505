import Courier.Language.Value
import Courier.Text.Quoted
import Courier.Text.Search

/-!
Values as text. Inside a container every value is shown in its quoted form: texts in quotes, lists in brackets, maps in
braces. On its own a text stands for itself, and a value that is not there is the empty text.
-/

namespace Courier.Language

/-- The text of an integer that is short enough to be written. -/
def shownInt (i : Int) : Except Fault String :=
  match Number.writeInt? i with
  | some s => .ok s
  | none => .error .integerTooLong

/-- A float without the fraction of a whole number. -/
def shownPart (x : Float) : String :=
  let s := Number.plainLayout.write x
  if s.endsWith ".0" then String.ofList (s.toList.take (s.length - 2)) else s

/-- The text of a complex number: both parts in parentheses, or the imaginary one alone. -/
def shownComplex (x y : Float) : String :=
  let sign := if Number.signBit y then "" else "+"
  if x == 0 && !Number.signBit x then shownPart y ++ "j" else "(" ++ shownPart x ++ sign ++ shownPart y ++ "j)"

/-- The name of something that needs no data. -/
def Builtin.shown : Builtin → String
  | range => "<function safe_range>"
  | dict => "<class 'dict'>"
  | lipsum => "<function generate_lorem_ipsum>"
  | cycler => "<class 'jinja2.utils.Cycler'>"
  | joiner => "<class 'jinja2.utils.Joiner'>"
  | namespaceOf => "<class 'jinja2.utils.Namespace'>"
  | pathLookup => "<function _lookup>"
  | template => "<TemplateReference None>"

namespace Value

/-- The number of the present turn of a loop. -/
def loopPlace (fields : List (String × Value)) : Int := (((entryOf? "index0" fields).bind int?).getD 0) + 1

/-- The number of items that a loop goes through. -/
def loopLength (fields : List (String × Value)) : Int := ((entryOf? "length" fields).bind int?).getD 0

mutual

/-- The quoted form of a settled value. -/
def shown : Value → Except Fault String
  | none => .ok "None"
  | bool b => .ok (if b then "True" else "False")
  | int _ i => shownInt i
  | float _ x => .ok (Number.plainLayout.write x)
  | complex x y => .ok (shownComplex x y)
  | text _ s => .ok (Text.quoted s)
  | safeText s => .ok ("Markup(" ++ Text.quoted s ++ ")")
  | bytes b => .ok (Text.quotedBytes b)
  | tuple _ [v] => do return "(" ++ (← shown v) ++ ",)"
  | tuple _ items => do return "(" ++ Text.join ", " (← shownAll items) ++ ")"
  | list _ items => do return "[" ++ Text.join ", " (← shownAll items) ++ "]"
  | map _ entries => do return "\x7b" ++ Text.join ", " (← shownEntries entries) ++ "\x7d"
  | range start stop step => do
    let tail ← if step == 1 then pure "" else do pure (", " ++ (← shownInt step))
    return "range(" ++ (← shownInt start) ++ ", " ++ (← shownInt stop) ++ tail ++ ")"
  | slice a b c => do
    return "slice(" ++ (← shown a) ++ ", " ++ (← shown b) ++ ", " ++ (← shown c) ++ ")"
  | stream _ type _ => .ok ("<" ++ type ++ " object>")
  | view _ kind (map _ entries) => do
    match kind with
    | .keys => return "dict_keys([" ++ Text.join ", " (← shownKeys entries) ++ "])"
    | .values => return "dict_values([" ++ Text.join ", " (← shownItems entries) ++ "])"
    | .items => return "dict_items([" ++ Text.join ", " (← shownPairs entries) ++ "])"
  | view _ _ _ => .ok "dict_keys([])"
  | method _ name => .ok ("<built-in method " ++ name ++ ">")
  | undefined _ _ => .ok "Undefined"
  | builtin b => .ok b.shown
  | record _ .namespaceOf fields => do
    return "<Namespace \x7b" ++ Text.join ", " (← shownFields fields) ++ "\x7d>"
  | record _ .loop fields => .ok ("<LoopContext " ++ Int.repr (loopPlace fields) ++ "/" ++
      Int.repr (loopLength fields) ++ ">")
  | record _ .cycler _ => .ok "<jinja2.utils.Cycler object>"
  | record _ .joiner _ => .ok "<jinja2.utils.Joiner object>"
  | record _ .definition fields => do
    match (entryOf? "name" fields).bind text? with
    | some n => return "<Macro " ++ Text.quoted n ++ ">"
    | Option.none => return "<Macro anonymous>"
  | record _ .block _ => .ok "<jinja2.runtime.BlockReference object>"
  | cycle _ _ isMap => .ok (if isMap then "\x7b...\x7d" else "[...]")

def shownAll : List Value → Except Fault (List String)
  | [] => .ok []
  | v :: rest => do return (← shown v) :: (← shownAll rest)

def shownEntries : List (Value × Value) → Except Fault (List String)
  | [] => .ok []
  | (k, v) :: rest => do return ((← shown k) ++ ": " ++ (← shown v)) :: (← shownEntries rest)

def shownKeys : List (Value × Value) → Except Fault (List String)
  | [] => .ok []
  | (k, _) :: rest => do return (← shown k) :: (← shownKeys rest)

def shownItems : List (Value × Value) → Except Fault (List String)
  | [] => .ok []
  | (_, v) :: rest => do return (← shown v) :: (← shownItems rest)

def shownPairs : List (Value × Value) → Except Fault (List String)
  | [] => .ok []
  | (k, v) :: rest => do return ("(" ++ (← shown k) ++ ", " ++ (← shown v) ++ ")") :: (← shownPairs rest)

def shownFields : List (String × Value) → Except Fault (List String)
  | [] => .ok []
  | (n, v) :: rest => do return (Text.quoted n ++ ": " ++ (← shown v)) :: (← shownFields rest)

end

/-- The text that a settled value stands for. -/
def toText : Value → Except Fault String
  | text _ s | safeText s => .ok s
  | undefined _ _ => .ok ""
  | v => v.shown

end Value

end Courier.Language
