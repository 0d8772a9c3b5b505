import Courier.Language.Assignment
import Courier.Response.Content
import Courier.Step
import Courier.Text.Property
import Courier.Text.Search

/-!
The output of a call: status and content of the response, and a variable for each rule. The values of rules see the
data of the request, over it the content, and over that the headers of the response.

The rules of a plain output name paths in the data and the content, and paths in the output where the parts found there
are put. Collections nest the data of a record one level deeper than other services do. Paths of rules are led there,
unless they speak of data already.
-/

/-! ### Plain rules -/

namespace Courier.Response

open Courier.Language

/-- What the paths of plain rules lead through. -/
def pathData (data content : Value) : Except Fault Value :=
  match content with
  | .map _ entries =>
    if !data.isTrue then .ok (.newMap entries)
    else match data with
      | .map _ before => .ok (.newMap (Value.putKeys entries before))
      | v => .error (.notMapping v.typeName)
  | _ => do
    let before ← if data.isTrue then Method.entriesOf data else .ok []
    return .newMap (Value.putKeys before [])

/-- Puts the part that a plain rule names into the output. A rule without a value names the content. -/
def extractRule (all content output : Value) (changes : Changes) (rule : Rule) : Except Fault Changes := do
  let v ← if rule.value.isEmpty then .ok content else Path.find changes all rule.value (.newText "")
  Path.assign changes (Path.segments rule.key) output v

/-- The plain output of a response. -/
def extract (r : Response) (data : Value) (rules : List Rule) : Except Error Value := do
  if !(← r.isJson.mapError .json) then return r.raw
  let content := Value.ofDocument "content" [] (← r.accepted)
  let output := Value.map (.placed "output" []) (r.basic content)
  let all ← (pathData data content).mapError .fault
  let changes ← (rules.foldlM (extractRule all content output) []).mapError .fault
  return output.settle changes

/-! ### Collections -/

namespace Collection

/-- The characters of a version in a URL: digits and points. -/
def isVersionChar (c : Char) : Bool := Text.isAsciiDigit c || c == '.'

/-- Whether a text starts with the path of a collection. -/
def startsPath (cs : List Char) : Bool :=
  "/api/".toList.isPrefixOf cs &&
    (let rest := cs.drop 5
     rest.head?.any isVersionChar && "/collections".toList.isPrefixOf (rest.dropWhile isVersionChar))

/-- Whether a URL is the URL of a collection. -/
def isUrl (url : String) : Bool := Text.anyTail startsPath url.toList

/-- Where the data of a record stands. -/
def root : String := "data.data"

/-- A path led to the data of a record. -/
def rooted (path : String) : String :=
  if Text.contains path "data" then Text.trim path else root ++ "." ++ Text.trim path

/-- What stands between the opening braces of a tag and the first closing ones on the same line, and the rest. -/
def inner? : List Char → Option (List Char × List Char)
  | '\x7d' :: '\x7d' :: rest => some ([], rest)
  | [] => none
  | c :: rest => if c == '\n' then none else (inner? rest).map fun (before, after) => (c :: before, after)

/-- A tag at the head of a text: what stands in it, and the rest. -/
def tag? : List Char → Option (List Char × List Char)
  | '\x7b' :: '\x7b' :: rest => inner? rest
  | _ => none

/-- A text with the paths in its tags led to the data of a record. -/
def rootTags : Nat → List Char → List Char
  | 0, _ => []
  | _, [] => []
  | fuel + 1, c :: rest =>
    match tag? (c :: rest) with
    | some (path, after) =>
      "\x7b\x7b".toList ++ (rooted (String.ofList path)).toList ++ "\x7d\x7d".toList ++ rootTags fuel after
    | none => c :: rootTags fuel rest

/-- The value of a rule led to the data of a record: in each of its tags, or as a whole if it has none. -/
def rootedValue (value : String) : String :=
  let cs := value.toList
  if Text.anyTail (fun cs => (tag? cs).isSome) cs then String.ofList (rootTags (cs.length + 1) cs) else rooted value

end Collection

/-! ### Outputs -/

/-- The headers of a response as entries. -/
def headerEntries (r : Response) : List (Value × Value) := r.firstHeaders.map fun (n, v) => (.newText n, .newText v)

/-- The entries of the content that is an object. -/
def entriesOf : Value → List (Value × Value)
  | .map _ entries => entries
  | _ => []

/-- What the values of rules see. -/
def merged (r : Response) (data content : Value) : Except Fault Value :=
  match data with
  | .map _ entries => .ok (.newMap (Value.putKeys (r.headerEntries) (Value.putKeys (entriesOf content) entries)))
  | v => .error (.notMapping v.typeName)

/-- What a rule without a value stands for: the content with the headers, or content that is no object by itself. -/
def whole (r : Response) (content : Value) : Value :=
  match content with
  | .map _ entries => .newMap (Value.putKeys r.headerEntries entries)
  | v => v

/-- The value of a rule as it is evaluated. -/
def ruleValue (endpoint : Endpoint) (rule : Rule) : String :=
  if Collection.isUrl endpoint.url then Collection.rootedValue rule.value else rule.value

/-- The variables of rules. Their names are templates over the data of the request. -/
def withRules (endpoint : Endpoint) (data all whole : Value) :
    Nat → List Rule → List (Value × Value) → Step (List (Value × Value))
  | _, [], output => return output
  | position, rule :: rest, output => do
    let name ← Step.text rule.key data
    let v ←
      if Text.isBlankText rule.value then pure whole
      else
        let source := ruleValue endpoint rule
        Step.value (Mapping.formatOf rule.format source) source all "output" [position]
    withRules endpoint data all whole (position + 1) rest (Value.putKey (.newText name) v output)

/-- The output of a call. A body that is not JSON is handed on as it is. -/
def output (r : Response) (data : Value) (endpoint : Endpoint) (call : Call) : Step Value := do
  if !(← Step.lift .json r.isJson) then return r.raw
  let document ← Step.lift id r.accepted
  let content := Value.ofDocument "content" [] document
  match call.inbound with
  | none => return .newMap (r.basic content)
  | some rules =>
    let all ← Step.lift .fault (r.merged data content)
    let entries ← withRules endpoint data all (r.whole content) 0 rules (r.basic content)
    Step.settled (.newMap entries)

end Courier.Response
