import Courier.Language.Method.Argument
import Courier.Language.Sorting

/-!
The methods of lists, tuples and ranges.
-/

namespace Courier.Language

namespace Method

/-- The position of an item between two bounds. -/
def indexOf (items : List Value) (vs : List Value) (type : String) : Except Fault Value := do
  let v := argument vs 0
  let length : Int := items.length
  let bound (x : Option Value) (default : Int) : Except Fault Int := match x with
    | none => .ok default
    | some x => match x.int? with
      | some i => .ok (if i < 0 then max (i + length) 0 else i)
      | none => .error (.wrongType "slice indices must be integers or have an __index__ method")
  let first ← bound vs[1]? 0
  let last ← bound vs[2]? length
  match ((items.take last.toNat).drop first.toNat).findIdx? (Value.alike v) with
  | some n => return .newInt (first + (n : Int))
  | none =>
    if type == "list" then throw (Fault.wrongValue ((← v.shown) ++ " is not in list"))
    else throw (Fault.wrongValue "tuple.index(x): x not in tuple")

/-- Takes an item out of a list. -/
def popItem (items : List Value) (i : Int) : Except Fault (Value × List Value) :=
  if items.isEmpty then .error (.badIndex "pop from empty list")
  else match Value.position? items.length i with
    | some n => .ok (items.getD n .none, items.eraseIdx n)
    | none => .error (.badIndex "pop index out of range")

/-- The arguments of sorting a list: whether the order is reversed. Items that have to be compared by something that
cannot be called are a fault. -/
def sortDirection (isEmpty : Bool) (a : Arguments) : Except Fault Bool := do
  let given := a.positional.length + a.named.length
  if 2 < given then
    throw (Fault.wrongType ("sort() takes at most 2 " ++ (if a.positional.isEmpty then "keyword " else "") ++
      "arguments (" ++ toString given ++ " given)"))
  if !a.positional.isEmpty then throw (Fault.wrongType "sort() takes no positional arguments")
  for (n, _) in a.named do
    if n != "key" && n != "reverse" then
      throw (Fault.wrongType ("'" ++ n ++ "' is an invalid keyword argument for sort()"))
  let direction ← match entryOf? "reverse" a.named with
    | none => pure 0
    | some v => flagArgument v
  match entryOf? "key" a.named with
  | none | some .none => pure ()
  | some v => if !isEmpty then throw (Fault.notCallable v.typeName)
  return direction != 0

/-- The methods of lists. -/
def onList (identity : Identity) (items : List Value) (name : String) (a : Arguments) : Except Fault Effect := do
  let changed (result : Value) (items : List Value) : Effect := ⟨.ok result, some (.list identity items)⟩
  match name with
  | "append" => do let v ← oneArgument "list" name a; return changed .none (items ++ [v])
  | "extend" => do
    let (more, fault) ← (← oneArgument "list" name a).iterate
    let whole := Value.list identity (items ++ more)
    match fault with
    | none => return ⟨.ok .none, some whole⟩
    | some f => return ⟨.error f, some whole⟩
  | "insert" => do
    let vs ← between "list" name 2 2 a
    let i ← sizeArgument (argument vs 0)
    let n := (if i < 0 then max (i + items.length) 0 else min i items.length).toNat
    return changed .none (items.take n ++ argument vs 1 :: items.drop n)
  | "pop" => do
    let vs ← between "list" name 0 1 a
    let i ← match vs with
      | v :: _ => sizeArgument v
      | [] => pure (-1)
    let (v, rest) ← popItem items i
    return changed v rest
  | "remove" => do
    let v ← oneArgument "list" name a
    match items.findIdx? (Value.alike v) with
    | some n => return changed .none (items.eraseIdx n)
    | none => throw (Fault.wrongValue "list.remove(x): x not in list")
  | "clear" => do noArguments "list" name a; return changed .none []
  | "copy" => do noArguments "list" name a; return .unchanged (.ok (.newList items))
  | "count" => do
    let v ← oneArgument "list" name a
    return .unchanged (.ok (.newInt (items.filter (Value.alike v)).length))
  | "index" => do return .unchanged (indexOf items (← between "list" name 1 3 a) "list")
  | "reverse" => do noArguments "list" name a; return changed .none items.reverse
  | "sort" => do
    let reversed ← sortDirection items.isEmpty a
    let (items, fault) := arrangedIn (Value.ordered .less) reversed items
    match fault with
    | none => return changed .none items
    | some f => return ⟨.error f, some (.list identity items)⟩
  | _ => throw (Fault.noAttribute "list" name)

/-- The bounds and the step that a slice has in a sequence of some length. -/
def sliceIndices (start stop step : Value) (a : Arguments) : Except Fault Value := do
  let length ← integer (← oneArgument "slice" "indices" a)
  if length < 0 then throw (Fault.wrongValue "length should not be negative")
  let (first, last, by') ← Value.sliceBounds length.toNat start stop step
  return .newTuple [.newInt first, .newInt last, .newInt by']

/-- The methods of tuples and ranges. -/
def onItems (type : String) (items : List Value) (name : String) (a : Arguments) : Except Fault Value := do
  match name with
  | "count" => do
    let v ← oneArgument type name a
    return .newInt (items.filter (Value.alike v)).length
  | "index" =>
    if type == "range" then do
      let v ← oneArgument type name a
      match items.findIdx? (Value.alike v) with
      | some n => return .newInt n
      | none => throw (Fault.wrongValue ((← v.shown) ++ " is not in range"))
    else indexOf items (← between type name 1 3 a) type
  | _ => throw (Fault.noAttribute type name)

end Method

end Courier.Language
