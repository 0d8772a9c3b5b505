import Courier.Language.Check
import Courier.Language.Filter.Html
import Courier.Language.Filter.Items
import Courier.Language.Filter.Layout
import Courier.Language.Filter.Number
import Courier.Language.Filter.Text

/-!
The filters that follow a bar: functions of one value and some arguments. Those that are here look at a value as a
whole; the ones that hand out items one by one are in `Courier.Language.Iteration`.
-/

namespace Courier.Language

namespace Filter

/-- Filters that apply other filters or checks. -/
def composite : List String := ["map", "select", "reject", "selectattr", "rejectattr"]

/-- Filters that see the run of the program; they are never applied before it. -/
def contextual : List String := composite ++ ["random"]

/-- Filters that hand out items one by one, or a first one. -/
def stepwise : List String := composite ++ ["batch", "first", "items", "reverse", "slice", "unique"]

/-- Filters that read all items of a value. -/
def draining : List String := ["groupby", "join", "list", "max", "min", "sort", "sum", "urlencode"]

/-- Filters that look at a value as a text. -/
def textual : List String :=
  ["capitalize", "center", "e", "escape", "forceescape", "format", "indent", "lower", "pprint", "replace", "safe",
    "string", "striptags", "title", "tojson", "trim", "upper", "urlize", "wordcount", "wordwrap", "xmlattr"]

/-- The names of all filters. -/
def names : List String :=
  stepwise ++
  ["abs", "attr", "capitalize", "center", "count", "d", "default", "dictsort", "e", "escape", "filesizeformat", "float",
    "forceescape", "format", "groupby", "indent", "int", "join", "last", "length", "list", "lower", "max", "min",
    "pprint", "random", "replace", "round", "safe", "sort", "string", "striptags", "sum", "title", "tojson", "trim",
    "truncate", "upper", "urlencode", "urlize", "wordcount", "wordwrap", "xmlattr"]

/-- The name of a filter in messages about its arguments. -/
def fullName (name : String) : String :=
  match name with
  | "abs" => "abs"
  | "count" | "length" => "len"
  | "e" | "escape" => "markupsafe.escape"
  | "string" => "markupsafe.soft_str"
  | "d" => "jinja2.filters.do_default"
  | "safe" => "jinja2.filters.do_mark_safe"
  | _ => "jinja2.filters.do_" ++ name

/-- Applies a filter of a known name to a value as a whole. -/
def apply (manner : Manner) (name : String) (v : Value) (a : Arguments) : Except Fault Value :=
  let result := (ofText? manner name v a).orElse fun _ => (ofLayout? name v a).orElse fun _ =>
    (ofHtml? manner name v a).orElse fun _ => (ofNumber? name v a).orElse fun _ =>
    (ofItems? manner name v a).orElse fun _ => ofAny? manner.chained name v a
  result.getD (.error (.malformed ("No filter named " ++ Text.quoted name ++ ".")))

/-- The fault of a name that stands for no filter or check. -/
def unknownName (kind : String) (name : Value) : Except Fault Fault := do
  let _ ← Value.asKey name
  let message := "No " ++ kind ++ " named " ++ (← name.shown) ++ "."
  match name with
  | .undefined m _ =>
    return .malformed (message ++ " (" ++ m ++ "; did you forget to quote the callable name?)")
  | _ => return .malformed message

end Filter

namespace Check

/-- The name of a check in messages about its arguments. -/
def fullName (name : String) : String :=
  match relation? name, name with
  | some (shown, _), _ => "_operator." ++ shown
  | none, "==" | none, "eq" | none, "equalto" => "_operator.eq"
  | none, "!=" | none, "ne" => "_operator.ne"
  | none, "callable" => "callable"
  | none, name => "jinja2.tests.test_" ++ name

end Check

end Courier.Language
