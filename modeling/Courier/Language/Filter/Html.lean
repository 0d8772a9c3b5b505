import Courier.Language.Filter.Argument
import Courier.Language.Filter.Items
import Courier.Text.Link

/-!
The filters between plain texts, HTML and URLs: taking tags out, writing attributes and query texts, and making links of
addresses.
-/

namespace Courier.Language

namespace Filter

/-- Text that a filter made for HTML, marked where texts are made fit for it. -/
def forHtml (manner : Manner) (s : String) : Value := if manner.escaping then .safeText s else .newText s

/-! ### Attributes -/

/-- Characters that end the name of an attribute. -/
def endsName (c : Char) : Bool :=
  c == ' ' || (9 ≤ c.toNat && c.toNat ≤ 13) || c == '/' || c == '>' || c == '='

/-- One attribute; a value that is not there makes none. -/
def attributeText? (k v : Value) : Except Fault (Option String) := do
  if v.isUndefined || v matches .none then return none
  match k.text? with
  | none => throw (Fault.wrongType ("expected string or bytes-like object, got " ++ Text.quoted k.typeName))
  | some name =>
    if name.toList.any endsName then
      throw (Fault.wrongValue ("Invalid character in attribute name: " ++ (← k.shown)))
    return some ((← Method.escaped k) ++ "=\"" ++ (← Method.escaped v) ++ "\"")

/-- The attributes of a tag, for the entries of a map. -/
def attributesText (manner : Manner) (v : Value) (spaced : Bool) : Except Fault Value := do
  match v with
  | .map _ entries =>
    let s := Text.join " " ((← entries.mapM fun (k, w) => attributeText? k w).filterMap id)
    return forHtml manner (if spaced && !s.isEmpty then " " ++ s else s)
  | .undefined m _ => throw (Fault.undefined m)
  | v => throw (Fault.noAttribute v.typeName "items")

/-! ### Query texts -/

/-- The text of a value with escapes, as part of a path or of a query. -/
def percentText (inQuery : Bool) (v : Value) : Except Fault String := do
  let s ← v.toText
  match Text.formText s with
  | .error f => throw (Fault.wrongValue f.message)
  | .ok form =>
    if inQuery then return form
    else return String.ofList (s.toList.flatMap (Text.escapeChar fun c => Text.isUnreserved c || c == '/'))

/-- The two parts of an item. -/
def pairOf (v : Value) : Except Fault (Value × Value) := do
  let items ← match v.items with
    | .ok items => pure items
    | .error _ => throw (Fault.wrongType ("cannot unpack non-iterable " ++ v.typeName ++ " object"))
  match items with
  | [k, w] => return (k, w)
  | _ :: _ :: _ => throw (Fault.wrongValue "too many values to unpack (expected 2)")
  | few => throw (Fault.wrongValue
      ("not enough values to unpack (expected 2, got " ++ toString few.length ++ ")"))

/-- One field of a query. -/
def fieldText (v : Value) : Except Fault String := do
  let (k, w) ← pairOf v
  return (← percentText true k) ++ "=" ++ (← percentText true w)

/-- A value with escapes for a URL: the fields of a map or of pairs, or the text of anything else. -/
def urlText (v : Value) : Except Fault String :=
  match v with
  | .text _ _ | .safeText _ | .builtin _ => percentText false v
  | .map _ entries => do return Text.join "&" (← entries.mapM fun (k, w) => fieldText (.newTuple [k, w]))
  | _ =>
    match v.iterate with
    | .error _ => percentText false v
    | .ok (items, fault) => do
      let fields ← items.mapM fieldText
      return Text.join "&" (← unlessEnded fault fields)

/-! ### Links -/

/-- How links are written: the attributes of their tags, the most characters that are shown of an address, and the
schemes beside the common ones. -/
structure LinkStyle where
  attributes : String
  limit : Value
  schemes : List String

/-- An address as it is shown. -/
def LinkStyle.shown (style : LinkStyle) (address : String) : Except Fault String := do
  if style.limit matches .none then return address
  if ← Value.ordered .greater (.newInt address.length) style.limit then
    return (← (← (Value.newText address).sliced .none style.limit .none).toText) ++ "..."
  else return address

/-- A link. -/
def linkText (address attributes shown : String) : String :=
  "<a href=\"" ++ address ++ "\"" ++ attributes ++ ">" ++ shown ++ "</a>"

/-- A word as a link, if it is an address. -/
def LinkStyle.linked (style : LinkStyle) (s : String) : Except Fault String := do
  match Text.Link.target s with
  | .page address => return linkText address style.attributes (← style.shown s)
  | .person address shown => return linkText address "" shown
  | .nothing =>
    return style.schemes.foldl (fun s scheme =>
      if s != scheme && s.startsWith scheme then linkText s style.attributes s else s) s

/-- A text, fit for HTML, with links for the addresses in it. -/
def LinkStyle.linkedText (style : LinkStyle) (s : String) : Except Fault String := do
  let parts ← (Text.Link.runsFrom [] s.toList).mapM fun cs => do
    let word := Text.Link.Word.of cs
    return String.ofList word.head ++ (← style.linked (String.ofList word.middle)) ++ String.ofList word.tail
  return String.join parts

/-- An attribute of a link, unless its value is empty. -/
def linkAttribute (name : String) (v : Value) : Except Fault String := do
  if v.isTrue then return " " ++ name ++ "=\"" ++ (← Method.escaped v) ++ "\"" else return ""

/-- What a link says about its target: the words of a text and those that are asked for, in their order and each of them
once. -/
def relations (v : Value) (noFollow : Bool) : Except Fault String := do
  let given ← if !v.isTrue then pure "" else match v.text? with
    | some s => pure s
    | none => throw (Fault.noAttribute v.typeName "split")
  let words := (Text.wordsFrom [] given.toList).map String.ofList
  let all := (words ++ (if noFollow then ["nofollow"] else []) ++ ["noopener"]).eraseDups
  return Text.join " " (all.mergeSort fun a b => a ≤ b)

/-- Schemes that a program adds. -/
def schemesOf (v : Value) : Except Fault (List String) :=
  match v with
  | .none => .ok []
  | v => do
    (← v.items).mapM fun scheme =>
      match scheme.text? with
      | none => .error (.wrongType ("expected string or bytes-like object, got " ++ Text.quoted scheme.typeName))
      | some s =>
        if Text.Link.schemeName.fits s then .ok s
        else do throw (Fault.malformed ((← scheme.shown) ++ " is not a valid URI scheme prefix."))

/-- The filters between plain texts, HTML and URLs. -/
def ofHtml? (manner : Manner) (name : String) (v : Value) (a : Arguments) : Option (Except Fault Value) :=
  match name with
  | "striptags" => some <| bound "do_striptags" 0 [required "value"] v a fun vs => do
      return .newText (Text.withoutTags (← (argument vs 0).toText))
  | "urlencode" => some <| bound "do_urlencode" 0 [required "value"] v a fun vs => do
      return .newText (← urlText (argument vs 0))
  | "xmlattr" => some <| bound "do_xmlattr" 1 [required "d", optional "autospace" (.bool true)] v a fun vs =>
      attributesText manner (argument vs 0) (argument vs 1).isTrue
  | "urlize" => some <|
      bound "do_urlize" 1 [required "value", optional "trim_url_limit" .none, optional "nofollow" (.bool false),
        optional "target" .none, optional "rel" .none, optional "extra_schemes" .none] v a fun vs => do
      let relations ← relations (argument vs 4) (argument vs 2).isTrue
      let schemes ← schemesOf (argument vs 5)
      let s ← Method.escaped (argument vs 0)
      let attributes := (← linkAttribute "rel" (.newText relations)) ++ (← linkAttribute "target" (argument vs 3))
      let style : LinkStyle := ⟨attributes, argument vs 1, schemes⟩
      return forHtml manner (← style.linkedText s)
  | _ => none

end Filter

end Courier.Language
