import Courier.Language.Filter.Argument
import Courier.Language.Operation
import Courier.Language.Sorting

/-!
The filters that read all items of a value at once, and those of maps and of values in general.
-/

namespace Courier.Language

namespace Filter

/-- The items of a value from the last to the first, if it can be read that way. -/
def reversed (v : Value) : Except Fault (List Value) :=
  match v with
  | .text _ _ | .safeText _ | .bytes _ | .tuple _ _ | .list _ _ | .map _ _ | .range _ _ _ | .view _ _ _
  | .undefined _ _ => do
    return (← v.items).reverse
  | .builtin .template => .error (.noLength v.typeName)
  | _ => .error (.wrongType ("'" ++ v.typeName ++ "' object is not reversible"))

/-- The least or greatest item of a value. -/
def extreme (chained : Bool) (relation : Relation) (v path : Value) (caseCounts : Bool) : Except Fault Value := do
  match ← v.iterate with
  | ([], some fault) => throw fault
  | ([], none) => return .undefined "No aggregated item, sequence was empty." chained
  | (item :: rest, fault) => do
    let parts ← pathParts path
    let mut best := item
    let mut bestKey ← comparedBy chained .none parts caseCounts item
    for v in rest do
      let key ← comparedBy chained .none parts caseCounts v
      if ← Value.ordered relation key bestKey then
        best := v
        bestKey := key
    match fault with
    | some f => throw f
    | none => return best

/-- Items with the keys that they are sorted by. -/
def withKeys (f : Value → Except Fault Value) : List Value → Except Fault (List (Value × Value))
  | [] => .ok []
  | v :: rest => do return (← f v, v) :: (← withKeys f rest)

/-- Sorts items by a key, in a direction that an argument gives. -/
def sortedBy (f : Value → Except Fault Value) (reverse : Value) (items : List Value) : Except Fault Value := do
  let reverse := (← Method.flagArgument reverse) != 0
  let sorted ← sortDirected (fun a b => Value.ordered .less a.1 b.1) reverse (← withKeys f items)
  return .newList (sorted.map (·.2))

/-- The paths of a sort: one for each that a text names, between commas. -/
def sortPaths (path : Value) : Except Fault (List (List Value)) :=
  match path with
  | .text _ s | .safeText s => (s.splitOn ",").mapM fun p => pathParts (.newText p)
  | p => do return [← pathParts p]

/-- The keys of a sort. -/
def sortKey (chained : Bool) (paths : List (List Value)) (caseCounts : Bool) (v : Value) : Except Fault Value := do
  return .newList (← paths.mapM fun parts => comparedBy chained .none parts caseCounts v)

/-- An item, or its attribute. -/
def attributeOf (chained : Bool) (parts : Option (List Value)) (v : Value) : Except Fault Value :=
  match parts with
  | none => .ok v
  | some parts => follow chained .none parts v

/-- Adds up items, or their attributes. -/
def total (chained : Bool) (parts : Option (List Value)) : Value → List Value → Except Fault Value
  | acc, [] => .ok acc
  | acc, v :: rest => do total chained parts (← Operation.binary .add acc (← attributeOf chained parts v)) rest

/-- A result that holds unless a fault ended the items that it was made of. -/
def unlessEnded {α : Type} (fault : Option Fault) (result : α) : Except Fault α :=
  match fault with
  | none => .ok result
  | some f => .error f

/-- The parts of an attribute, if there is one. -/
def pathParts? (path : Value) : Except Fault (Option (List Value)) :=
  match path with
  | .none => .ok none
  | path => do return some (← pathParts path)

/-- Texts of values between a separator. Where texts are made fit for HTML, what is not marked as such is escaped as
soon as anything is marked. -/
def joinTexts (manner : Manner) (separator : Value) (items : List Value) : Except Fault Value := do
  if manner.escaping && (separator :: items).any isMarked then
    return .safeText (Text.join (← Method.escaped separator) (← items.mapM Method.escaped))
  else
    let separator ← separator.toText
    match items with
    | [.text identity s] => return .text identity s
    | _ => return .ownText (Text.join separator (← items.mapM Value.toText))

/-- The runs of neighbours that have one key, with that key. -/
def runsOf : List (Value × Value) → List (Value × List Value)
  | [] => []
  | (key, v) :: rest =>
    match runsOf rest with
    | (next, vs) :: others =>
      if Value.alike key next then (key, v :: vs) :: others else (key, [v]) :: (next, vs) :: others
    | [] => [(key, [v])]

/-- Items in groups of one attribute, sorted by it. A group shows the attribute of its first item. -/
def grouped (chained : Bool) (path default : Value) (caseCounts : Bool) (items : List Value) : Except Fault Value := do
  let parts ← pathParts path
  let keyed ← withKeys (comparedBy chained default parts caseCounts) items
  let sorted ← sortDirected (fun a b => Value.ordered .less a.1 b.1) false keyed
  return .newList (← (runsOf sorted).mapM fun (key, vs) => do
    let shown ← if caseCounts then pure key else follow chained default parts (argument vs 0)
    return .tuple ["grouper", "list"] [shown, .newList vs])

/-- Some item of a value that has positions. -/
def anyItem (chained : Bool) (v : Value) : Except Fault Value := do
  if (← v.length) == 0 then return .undefined "No random item, sequence was empty." chained
  match v, v.item? (.newInt 0) with
  | _, some found => return found
  | .map _ _, none => throw (Fault.missingKey "0")
  | _, none => throw (Fault.notSubscriptable v.typeName)

/-- The filters of sequences that read all of their items. -/
def ofItems? (manner : Manner) (name : String) (v : Value) (a : Arguments) : Option (Except Fault Value) :=
  let chained := manner.chained
  match name with
  | "length" | "count" => some <| exactlyOne "len" v a fun v => do return .newInt (← v.length)
  | "list" => some <| bound "sync_do_list" 0 [required "value"] v a fun vs => do
      return .newList (← (argument vs 0).items)
  | "last" => some <| bound "do_last" 1 [required "seq"] v a fun vs => do
      return (← reversed (argument vs 0)).head?.getD (.undefined "No last item, sequence was empty." chained)
  | "join" => some <|
      bound "sync_do_join" 1 [required "value", optional "d" (.newText ""), optional "attribute" .none] v a fun vs => do
      let parts ← pathParts? (argument vs 2)
      let (items, fault) ← (argument vs 0).iterate
      let items ← items.mapM (attributeOf chained parts)
      joinTexts manner (argument vs 1) (← unlessEnded fault items)
  | "groupby" => some <|
      bound "sync_do_groupby" 1 [required "value", required "attribute", optional "default" .none,
        optional "case_sensitive" (.bool false)] v a fun vs => do
      let (items, fault) ← (argument vs 0).iterate
      grouped chained (argument vs 1) (argument vs 2) (argument vs 3).isTrue (← unlessEnded fault items)
  | "random" => some <| bound "do_random" 1 [required "seq"] v a fun vs => anyItem chained (argument vs 0)
  | "sort" => some <|
      bound "do_sort" 1 [required "value", optional "reverse" (.bool false), optional "case_sensitive" (.bool false),
        optional "attribute" .none] v a fun vs => do
      let paths ← sortPaths (argument vs 3)
      let items ← (argument vs 0).items
      sortedBy (sortKey chained paths (argument vs 2).isTrue) (argument vs 1) items
  | "max" | "min" => some <|
      bound ("do_" ++ name) 1 [required "value", optional "case_sensitive" (.bool false), optional "attribute" .none]
      v a fun vs => extreme chained (if name == "max" then .greater else .less) (argument vs 0) (argument vs 2)
        (argument vs 1).isTrue
  | "sum" => some <|
      bound "sync_do_sum" 1 [required "iterable", optional "attribute" .none, optional "start" (.newInt 0)] v a
      fun vs => do
      let start := argument vs 2
      let parts ← pathParts? (argument vs 1)
      let (items, fault) ← (argument vs 0).iterate
      if start.text?.isSome then throw (Fault.wrongType "sum() can't sum strings [use ''.join(seq) instead]")
      unlessEnded fault (← total chained parts start items)
  | _ => none

/-- The filters of maps and of values in general. -/
def ofAny? (chained : Bool) (name : String) (v : Value) (a : Arguments) : Option (Except Fault Value) :=
  match name with
  | "default" | "d" => some <|
      bound "do_default" 0 [required "value", optional "default_value" (.newText ""), optional "boolean" (.bool false)]
      v a fun vs =>
      let v := argument vs 0
      .ok (if v.isUndefined || ((argument vs 2).isTrue && !v.isTrue) then argument vs 1 else v)
  | "dictsort" => some <|
      bound "do_dictsort" 0 [required "value", optional "case_sensitive" (.bool false), optional "by" (.newText "key"),
        optional "reverse" (.bool false)] v a fun vs => do
      let v := argument vs 0
      let atValue ← match (argument vs 2).text? with
        | some "key" => pure false
        | some "value" => pure true
        | _ => throw (Fault.malformed "You can only sort by either \"key\" or \"value\"")
      let caseCounts := (argument vs 1).isTrue
      match v with
      | .map _ entries =>
        let key (item : Value) : Except Fault Value := .ok (match item with
          | .tuple _ [k, w] =>
            let part := if atValue then w else k
            if caseCounts then part else foldCase part
          | other => other)
        sortedBy key (argument vs 3) (entries.map fun (k, w) => .newTuple [k, w])
      | .undefined m _ => throw (Fault.undefined m)
      | v => throw (Fault.noAttribute v.typeName "items")
  | "attr" => some <| bound "do_attr" 1 [required "obj", required "name"] v a fun vs => do
      let v := argument vs 0
      let name ← (argument vs 1).toText
      match v, Value.attribute? chained v name with
      | .map _ _, some _ => v.attributeOf chained name
      | _, some found => return found
      | .undefined _ true, none => return v
      | _, none => return Value.noAttribute chained v name
  | _ => none

end Filter

end Courier.Language
