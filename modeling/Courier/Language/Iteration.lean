import Courier.Language.Filter
import Courier.Language.Run

/-!
Items that are handed out one by one. A cursor looks for the next item only when it is asked for it, so what a filter
does to an item is done at that moment, and an item that nobody asks for is never made. Filters and checks are applied
here, because some of them hand out items themselves and others read what is left of a stream.
-/

namespace Courier.Language

namespace Eval

/-- More steps than a program can take. -/
def stepLimit : Nat := Nat.pow 2 64

/-! ### Loops -/

/-- A field of a record. -/
def fieldOf (fields : List (String × Value)) (name : String) : Value := (entryOf? name fields).getD .none

/-- The fields of a loop in front of its first turn. `source` is what it goes through, and `depth` tells how many loops
it was started in anew. -/
def loopStart (source : Value) (depth : Nat) : List (String × Value) :=
  [("index0", .newInt (-1)), ("depth0", .newInt depth), ("_iterable", source)]

/-- The present fields of a loop. -/
def loopFields (identity : Identity) : Eval (List (String × Value)) := do
  match ← remaining identity with
  | some (.record _ _ fields) => return fields
  | _ => return []

/-- Sets a field of a loop. -/
def setLoopField (identity : Identity) (name : String) (v : Value) : Eval Unit := do
  leave identity (.record identity .loop (putEntry name v (← loopFields identity)))

/-- The number of turns of a loop before the present one. -/
def loopIndex (identity : Identity) : Eval Int := do return ((fieldOf (← loopFields identity) "index0").int?).getD 0

/-- The next item that a loop goes through: one that was listed before, or a new one. -/
def drawItem (identity : Identity) : Eval (Option Value) := do
  match fieldOf (← loopFields identity) "_listed" with
  | .tuple _ (v :: rest) =>
    setLoopField identity "_listed" (.newTuple rest)
    return some v
  | _ => fun setting => setting.draw identity

/-- The item of the next turn of a loop, before the turn begins. -/
def nextItem (identity : Identity) : Eval (Option Value) := do
  match entryOf? "_after" (← loopFields identity) with
  | some v => return some v
  | none =>
    match ← drawItem identity with
    | some v =>
      setLoopField identity "_after" v
      return some v
    | none => return none

/-- Begins the next turn of a loop: its item, if there is one. -/
def beginTurn (identity : Identity) : Eval (Option Value) := do
  let item ← match entryOf? "_after" (← loopFields identity) with
    | some v => pure (some v)
    | none => drawItem identity
  match item with
  | none => return none
  | some v =>
    let fields := (← loopFields identity).filter fun (n, _) => n != "_after"
    let index0 := ((fieldOf fields "index0").int?).getD 0 + 1
    let before := fieldOf fields "_current"
    leave identity (.record identity .loop
      (putEntries [("index0", .newInt index0), ("_before", before), ("_current", v)] fields))
    return some v

/-- The items that a loop is still to go through. -/
def drawAll (identity : Identity) : Nat → Array Value → Eval (List Value)
  | 0, taken => return taken.toList
  | fuel + 1, taken => do
    match ← drawItem identity with
    | some v => drawAll identity fuel (taken.push v)
    | none => return taken.toList

/-- The number of turns of a loop. Where what it goes through has no length of its own, its items are listed. -/
def loopLength (identity : Identity) : Eval Int := do
  let fields ← loopFields identity
  match (fieldOf fields "_length").int?, (← present (fieldOf fields "_iterable")).length with
  | some n, _ => return n
  | none, .ok n =>
    setLoopField identity "_length" (.newInt n)
    return n
  | none, .error _ =>
    let items ← drawAll identity stepLimit #[]
    setLoopField identity "_listed" (.newTuple items)
    let ahead := if (entryOf? "_after" fields).isSome then 1 else 0
    let n := items.length + ((fieldOf fields "index0").int?.getD 0 + 1) + ahead
    setLoopField identity "_length" (.newInt n)
    return n

/-- What a loop knows of its present turn. -/
def loopAttribute? (identity : Identity) (name : String) : Eval (Option Value) := do
  let missing (which : String) : Eval (Option Value) := do
    return some (.undefined ("there is no " ++ which ++ " item") (← chained))
  let index0 ← loopIndex identity
  match name with
  | "index0" => return some (.newInt index0)
  | "index" => return some (.newInt (index0 + 1))
  | "first" => return some (.bool (index0 == 0))
  | "depth0" => return some (fieldOf (← loopFields identity) "depth0")
  | "depth" => return some (.newInt (((fieldOf (← loopFields identity) "depth0").int?.getD 0) + 1))
  | "length" => return some (.newInt (← loopLength identity))
  | "revindex" => return some (.newInt ((← loopLength identity) - index0))
  | "revindex0" => return some (.newInt ((← loopLength identity) - index0 - 1))
  | "last" => return some (.bool (← nextItem identity).isNone)
  | "previtem" =>
    if index0 == 0 then missing "previous" else return some (fieldOf (← loopFields identity) "_before")
  | "nextitem" =>
    match ← nextItem identity with
    | some v => return some v
    | none => missing "next"
  | _ => return none

/-- A value as it is shown: a loop with its place and its length. -/
def shownLoop (v : Value) : Eval Value := do
  match v with
  | .record identity .loop _ =>
    let index ← loopIndex identity
    return .record identity .loop [("index0", .newInt index), ("length", .newInt (← loopLength identity))]
  | v => return v

/-! ### Cursors -/

/-- A cursor in front of the first item of a value. -/
def cursorOf (v : Value) : Eval Cursor := do
  match ← present v with
  | .list identity items => return if identity == .loose then .fixed items none else .forward v 0
  | .map identity entries => return keyed identity .keys v entries
  | .view _ kind (.map identity entries) => return keyed identity kind (.map identity entries) entries
  | .stream .loose _ left => return left
  | .stream _ _ _ | .record _ .loop _ => return .shared v
  | w => do
    let (items, fault) ← lift w.iterate
    return .fixed items fault
where
  keyed (identity : Identity) (kind : ViewKind) (owner : Value) (entries : List (Value × Value)) : Cursor :=
    if identity == .loose then .fixed (entries.map fun (k, v) => Value.ofEntry kind k v) none
    else .keyed kind owner (entries.map (·.1)) (entries.map (·.1)) 0

/-- The items of a present value that is a list. -/
def listItems : Value → List Value
  | .list _ items => items
  | _ => []

/-- The entries of a present value that is a map. -/
def mapEntries : Value → List (Value × Value)
  | .map _ entries => entries
  | _ => []

/-- The entry of a key. -/
def entryAt? (entries : List (Value × Value)) (key : Value) : Option (Value × Value) :=
  entries.find? fun entry => Value.alike key entry.1

/-- The first of some keys that a map has, with its value and the keys behind it. -/
def firstPresent? (entries : List (Value × Value)) : List Value → Option ((Value × Value) × List Value)
  | [] => none
  | key :: rest =>
    match entryAt? entries key with
    | some entry => some (entry, rest)
    | none => firstPresent? entries rest

/-- The next entry of a map that was known by its keys. A map of another size is a fault. Keys that took the place of
others are handed out last, and are a fault once all entries were. -/
def advanceKeyed (entries : List (Value × Value)) (kind : ViewKind) (owner : Value) (known ahead : List Value)
    (handedOut : Nat) : Except Fault (Option (Value × Cursor)) :=
  if entries.length != known.length then .error (.unsteady "dictionary changed size during iteration")
  else match firstPresent? entries ahead with
    | some ((k, v), rest) => .ok (some (Value.ofEntry kind k v, .keyed kind owner known rest (handedOut + 1)))
    | none =>
      match entries.find? fun (k, _) => !known.any (Value.alike k) with
      | none => .ok none
      | some (k, v) =>
        if handedOut == known.length then .error (.unsteady "dictionary keys changed during iteration")
        else
          let gone := known.findIdx fun key => (entryAt? entries key).isNone
          .ok (some (Value.ofEntry kind k v, .keyed kind owner (known.set gone k) [] (handedOut + 1)))

/-- The first step of a filter that looks at its arguments then: whether its parameters are fit for use. -/
def prepare (name : String) (a : Arguments) : Except Fault Unit := do
  match name with
  | "map" =>
    match a.positional, entryOf? "attribute" a.named with
    | [], some path =>
      match a.named.find? fun (n, _) => n != "attribute" && n != "default" with
      | some (n, _) => throw (Fault.malformed ("Unexpected keyword argument " ++ Text.quoted n))
      | none => let _ ← Filter.pathParts path
    | [], none => throw (Fault.malformed "map requires a filter argument")
    | _, _ => pure ()
  | "selectattr" | "rejectattr" =>
    match a.positional with
    | path :: _ => let _ ← Filter.pathParts path
    | [] => throw (Fault.malformed "Missing parameter for attribute name")
  | "unique" => let _ ← Filter.pathParts (argument a.positional 1)
  | _ => pure ()

/-- The list that a batch hands out: the items that it holds, filled up to its length. -/
def filledBatch (length fill : Value) (items : List Value) : Except Fault Value := do
  if fill matches .none then return .newList items
  if ← Value.ordered .less (.newInt items.length) length then
    let missing ← Operation.binary .subtract length (.newInt items.length)
    Operation.binary .add (.newList items) (← Operation.binary .multiply (.newList [fill]) missing)
  else return .newList items

/-- The lists that a value is cut into: their number, the least number of items in each, and how many of them have one
more. -/
def sliceShape (length : Nat) (count : Value) : Except Fault (List Value) := do
  let least ← Operation.binary .floorDivide (.newInt length) count
  let longer ← Operation.binary .remainder (.newInt length) count
  let count ← Method.integer count
  return [.newInt count, least, longer, .newInt 0]

/-- The next of the lists that a value is cut into, and the items behind it. -/
def advanceSlice (fill : Value) (held items : List Value) : Option (Value × List Value × List Value) :=
  match held.map (·.int?.getD 0) with
  | [count, least, longer, n] =>
    if count ≤ n then none
    else
      let size := (least + if n < longer then 1 else 0).toNat
      let part := items.take size
      let part := if !(fill matches .none) && longer ≤ n then part ++ [fill] else part
      some (.newList part, [.newInt count, .newInt least, .newInt longer, .newInt (n + 1)], items.drop size)
  | _ => none

/-- Indenting puts the end of a line behind its value first. A list keeps it, although it has no lines. -/
def endLine (v : Value) (result : Except Fault Value) : Eval Unit := do
  match v, result with
  | .list identity items, .error (.noAttribute "list" "splitlines") =>
    record identity (.list identity (items ++ [.newText "\n"]))
  | _, _ => pure ()

mutual

/-- The next item of a cursor with the cursor behind it, or nothing at its end. -/
def advance : Nat → Cursor → Eval (Option (Value × Cursor))
  | 0, _ => throw .tooDeep
  | fuel + 1, cursor => do
    match cursor with
    | .done => return none
    | .busy => throw (.wrongValue "generator already executing")
    | .fixed (v :: rest) fault => return some (v, .fixed rest fault)
    | .fixed [] (some f) => throw f
    | .fixed [] none => return none
    | .forward owner position =>
      return (listItems (← present owner))[position]?.map fun v => (v, .forward owner (position + 1))
    | .backward owner position =>
      if position == 0 then return none
      else return (listItems (← present owner))[position - 1]?.map fun v => (v, .backward owner (position - 1))
    | .keyed kind owner known ahead handedOut =>
      lift (advanceKeyed (mapEntries (← present owner)) kind owner known ahead handedOut)
    | .waiting source => advance fuel (← cursorOf source)
    | .shared source => advanceShared fuel source
    | .through name positional named held (.waiting source) =>
      advance fuel (← opened fuel name ⟨positional, named⟩ held source)
    | .through "map" positional named _ source => do
      match ← advance fuel source with
      | none => return none
      | some (v, rest) =>
        return some (← mapped fuel ⟨positional, named⟩ v, .through "map" positional named [] rest)
    | .through "unique" positional _ held source => advanceUnique fuel positional held source
    | .through "batch" positional _ held source => advanceBatch fuel positional held source
    | .through "slice" positional _ held source =>
      match source with
      | .fixed items _ =>
        return (advanceSlice (argument positional 1) held items).map fun (part, held, items) =>
          (part, .through "slice" positional [] held (.fixed items none))
      | _ => return none
    | .through name positional named _ source => advanceChosen fuel name ⟨positional, named⟩ source

/-- The next item of a stream or a loop that others can read too. While it looks for an item, it cannot be asked for
another one. -/
def advanceShared : Nat → Value → Eval (Option (Value × Cursor))
  | 0, _ => throw .tooDeep
  | fuel + 1, source => do
    match source.identity? with
    | none => return none
    | some identity =>
      match (← remaining identity).getD source with
      | .stream _ type left =>
        leave identity (.stream identity type .busy)
        match ← observe (advance fuel left) with
        | .ok (some (v, rest)) =>
          leave identity (.stream identity type rest)
          return some (v, .shared source)
        | .ok none =>
          leave identity (.stream identity type .done)
          return none
        | .error f =>
          leave identity (.stream identity type .done)
          throw f
      | .record _ .loop _ =>
        match ← beginTurn identity with
        | some v => return some (.newTuple [v, source], .shared source)
        | none => return none
      | _ => return none

/-- The cursor of a filter whose source is looked at for the first time. -/
def opened : Nat → String → Arguments → List Value → Value → Eval Cursor
  | 0, _, _, _, _ => throw .tooDeep
  | fuel + 1, name, a, held, source => do
    let through (source : Cursor) : Cursor := .through name a.positional a.named held source
    match name with
    | "unique" =>
      lift (prepare name a)
      return through (← cursorOf source)
    | "batch" => return through (← cursorOf source)
    | "slice" =>
      let items ← itemsOf fuel source
      return .through name a.positional a.named (← lift (sliceShape items.length (← settled (argument a.positional 0))))
        (.fixed items none)
    | "items" =>
      match ← present source with
      | .undefined _ _ => return .done
      | .map identity entries => cursorOf (.view .loose .items (.map identity entries))
      | _ => throw (.wrongType "Can only get item pairs from a mapping.")
    | _ =>
      if ← holds source then
        lift (prepare name a)
        return through (← cursorOf source)
      else return .done

/-- What a map makes of an item. -/
def mapped : Nat → Arguments → Value → Eval Value
  | 0, _, _ => throw .tooDeep
  | fuel + 1, a, v => do
    match a.positional with
    | name :: more => filterNamed fuel (← settled name) v ⟨more, a.named⟩
    | [] =>
      let parts ← lift (Filter.pathParts (fieldOf a.named "attribute"))
      lift (Filter.follow (← chained) (fieldOf a.named "default") parts (← settled v))

/-- Whether an item passes the check of a choice. -/
def accepts : Nat → String → Arguments → Value → Eval Bool
  | 0, _, _, _ => throw .tooDeep
  | fuel + 1, name, a, v => do
    let byAttribute := name == "selectattr" || name == "rejectattr"
    let subject ←
      if byAttribute then
        lift (Filter.follow (← chained) .none (← lift (Filter.pathParts (argument a.positional 0))) (← settled v))
      else pure v
    match a.positional.drop (if byAttribute then 1 else 0) with
    | [] => holds subject
    | test :: more => checkNamed fuel (← settled test) subject ⟨more, a.named⟩

/-- The next item that passes a check, or that does not. -/
def advanceChosen : Nat → String → Arguments → Cursor → Eval (Option (Value × Cursor))
  | 0, _, _, _ => throw .tooDeep
  | fuel + 1, name, a, source => do
    match ← advance fuel source with
    | none => return none
    | some (v, rest) =>
      if (← accepts fuel name a v) == (name == "select" || name == "selectattr") then
        return some (v, .through name a.positional a.named [] rest)
      else advanceChosen fuel name a rest

/-- The next item that differs from all items before. `seen` are those, as they are compared. -/
def advanceUnique : Nat → List Value → List Value → Cursor → Eval (Option (Value × Cursor))
  | 0, _, _, _ => throw .tooDeep
  | fuel + 1, positional, seen, source => do
    match ← advance fuel source with
    | none => return none
    | some (v, rest) =>
      let parts ← lift (Filter.pathParts (argument positional 1))
      let caseCounts ← holds (argument positional 0)
      let key ← lift (Filter.comparedBy (← chained) .none parts caseCounts (← settled v))
      let key ← lift (Value.asKey key)
      if seen.any (Value.alike key) then advanceUnique fuel positional seen rest
      else return some (v, .through "unique" positional [] (key :: seen) rest)

/-- The next list of a batch. `held` are its items so far, the last one first. -/
def advanceBatch : Nat → List Value → List Value → Cursor → Eval (Option (Value × Cursor))
  | 0, _, _, _ => throw .tooDeep
  | fuel + 1, positional, held, source => do
    match ← advance fuel source with
    | none =>
      if held.isEmpty then return none
      else
        let part ← lift (filledBatch (← settled (argument positional 0)) (argument positional 1) held.reverse)
        return some (part, .done)
    | some (v, rest) =>
      if Value.same (.newInt held.length) (← settled (argument positional 0)) then
        return some (.newList held.reverse, .through "batch" positional [] [v] rest)
      else advanceBatch fuel positional (v :: held) rest

/-- All items that a cursor is still to hand out, and the fault that ends them, if any. -/
def collect : Nat → Array Value → Cursor → Eval (List Value × Option Fault)
  | 0, taken, _ => return (taken.toList, some .tooDeep)
  | fuel + 1, taken, cursor => do
    match ← observe (advance fuel cursor) with
    | .ok (some (v, rest)) => collect fuel (taken.push v) rest
    | .ok none => return (taken.toList, none)
    | .error f => return (taken.toList, some f)

/-- All items of a value. -/
def itemsOf : Nat → Value → Eval (List Value)
  | 0, _ => throw .tooDeep
  | fuel + 1, v => do
    match ← collect fuel #[] (← cursorOf v) with
    | (items, none) => return items
    | (_, some f) => throw f

/-- A value for an operation that reads all of its items. Streams and loops are read to their end. -/
def drained : Nat → Value → Eval Value
  | 0, _ => throw .tooDeep
  | fuel + 1, v => do
    let read (identity : Identity) (type : String) : Eval Value := do
      let (items, fault) ← collect fuel #[] (← cursorOf v)
      return .stream identity type (.fixed (← settledAll items) fault)
    match v with
    | .stream identity type _ => read identity type
    | .record identity .loop _ => read identity "LoopContext"
    | _ => unfolded v

/-- Whether a value holds another one. Streams are read up to the place where it is found. -/
def contains : Nat → Value → Value → Eval Bool
  | 0, _, _ => throw .tooDeep
  | fuel + 1, container, v => do
    match container with
    | .stream _ _ _ | .record _ .loop _ => isAmong fuel (← settled v) (← cursorOf container)
    | _ => lift ((← unfolded container).holds (← settled v))

/-- Whether a settled value is among the items that a cursor is still to hand out. Those up to it are taken. -/
def isAmong : Nat → Value → Cursor → Eval Bool
  | 0, _, _ => throw .tooDeep
  | fuel + 1, v, cursor => do
    match ← advance fuel cursor with
    | none => return false
    | some (w, rest) => if Value.alike v (← settled w) then return true else isAmong fuel v rest

/-- Applies a filter. -/
def applyFilter : Nat → String → Value → Arguments → Eval Value
  | 0, _, _, _ => throw .tooDeep
  | fuel + 1, name, v, a => do
    if Filter.composite.contains name then
      match a.named.find? fun (n, _) => n == "context" || n == "value" with
      | some (n, _) =>
        throw (.wrongType ("sync_do_" ++ name ++ "() got multiple values for argument " ++ Text.quoted n))
      | none => return .stream .loose "generator" (.through name a.positional a.named [] (.waiting v))
    else if Filter.stepwise.contains name then applyStepwise fuel name v a
    else
      let v ←
        if Filter.draining.contains name then drained fuel v
        else if Filter.textual.contains name then do settled (← shownLoop v)
        else do unfolded (← shownLoop v)
      let result := Filter.apply (← read).manner name v (← settledArguments a)
      if name == "indent" then endLine v result
      lift result

/-- Applies a filter that hands out items one by one, or a first one. -/
def applyStepwise : Nat → String → Value → Arguments → Eval Value
  | 0, _, _, _ => throw .tooDeep
  | fuel + 1, name, v, a => do
    let values (shown : String) (hidden : Nat) (parameters : List Parameter) : Eval (List Value) :=
      lift ((Signature.ofNamed shown hidden parameters).accept ⟨v :: a.positional, a.named⟩)
    let through (vs : List Value) : Value :=
      .stream .loose "generator" (.through name vs.tail [] [] (.waiting (argument vs 0)))
    match name with
    | "first" =>
      let vs ← values "sync_do_first" 1 [required "seq"]
      match ← advance fuel (← cursorOf (argument vs 0)) with
      | some (v, _) => return v
      | none => return .undefined "No first item, sequence was empty." (← chained)
    | "items" => return through (← values "do_items" 0 [required "value"])
    | "unique" =>
      return through (← values "do_unique" 1
        [required "value", optional "case_sensitive" (.bool false), optional "attribute" .none])
    | "batch" =>
      return through (← values "do_batch" 0 [required "value", required "linecount", optional "fill_with" .none])
    | "slice" =>
      return through (← values "sync_do_slice" 0 [required "value", required "slices", optional "fill_with" .none])
    | _ => reversed fuel (argument (← values "do_reverse" 0 [required "value"]) 0)

/-- The items of a value in the opposite order. What cannot be read from its end is listed first. -/
def reversed : Nat → Value → Eval Value
  | 0, _ => throw .tooDeep
  | fuel + 1, v => do
    let stream (type : String) (left : Cursor) : Value := .stream .loose type left
    let keyed (kind : ViewKind) (word : String) (identity : Identity) (entries : List (Value × Value)) : Value :=
      let keys := entries.map (·.1)
      stream ("dict_reverse" ++ word ++ "iterator") (.keyed kind (.map identity entries) keys keys.reverse 0)
    match ← present v with
    | .text _ s => return .newText (String.ofList s.toList.reverse)
    | .safeText s => return .safeText (String.ofList s.toList.reverse)
    | .list identity items =>
      return stream "list_reverseiterator"
        (if identity == .loose then .fixed items.reverse none else .backward v items.length)
    | .tuple _ items => return stream "reversed" (.fixed items.reverse none)
    | .bytes b => return stream "reversed" (.fixed (b.reverse.map fun n => .newInt n.toNat) none)
    | .range start stop step =>
      return stream "range_iterator" (.fixed (Value.rangeItems start stop step).reverse none)
    | .map identity entries => return keyed .keys "key" identity entries
    | .view _ .keys (.map identity entries) => return keyed .keys "key" identity entries
    | .view _ .values (.map identity entries) => return keyed .values "value" identity entries
    | .view _ .items (.map identity entries) => return keyed .items "item" identity entries
    | .undefined _ _ => return stream "reversed" .done
    | _ =>
      match ← observe (itemsOf fuel v) with
      | .ok items => return .newList items.reverse
      | .error f => if f.kind == .type then throw (.malformed "argument must be iterable") else throw f

/-- Applies the filter that a settled value names. -/
def filterNamed : Nat → Value → Value → Arguments → Eval Value
  | 0, _, _, _ => throw .tooDeep
  | fuel + 1, name, v, a => do
    match name.text?.filter Filter.names.contains with
    | some n => applyFilter fuel n v a
    | none => throw (← lift (Filter.unknownName "filter" name))

/-- Applies the check that a settled value names. -/
def checkNamed : Nat → Value → Value → Arguments → Eval Bool
  | 0, _, _, _ => throw .tooDeep
  | fuel + 1, name, v, a => do
    match name.text?.filter Check.names.contains with
    | some n => applyCheck fuel n v a
    | none => throw (← lift (Filter.unknownName "test" name))

/-- Applies a check. -/
def applyCheck : Nat → String → Value → Arguments → Eval Bool
  | 0, _, _, _ => throw .tooDeep
  | fuel + 1, name, v, a => do
    if name == "in" then
      let vs ← lift ((Signature.ofNamed "test_in" 0 [required "value", required "seq"]).accept
        ⟨v :: a.positional, a.named⟩)
      contains fuel (argument vs 1) (argument vs 0)
    else lift (Check.apply Filter.names name (← settled v) (← settledArguments a))

end

end Eval

end Courier.Language
