import Courier.Language.Method.Argument

/-!
The methods of maps and of their views.
-/

namespace Courier.Language

namespace Method

/-- A pair of a sequence that a map is made of. -/
def pairOf (position : Nat) (v : Value) : Except Fault (Value × Value) := do
  match v.iterate with
  | .error _ => throw (Fault.pairExpected position)
  | .ok (items, fault) =>
    match items, fault with
    | _, some f => throw f
    | [k, w], none => return (← Value.asKey k, w)
    | items, none => throw (Fault.pairLength position items.length)

/-- The pairs of a sequence that a map is made of, numbered from a position on, up to the first fault. `last` is the
fault that ends the sequence itself, if any. -/
def pairsUntil (last : Option Fault) : Nat → List Value → List (Value × Value) × Option Fault
  | _, [] => ([], last)
  | n, v :: rest =>
    match pairOf n v with
    | .ok pair => let (pairs, fault) := pairsUntil last (n + 1) rest; (pair :: pairs, fault)
    | .error f => ([], some f)

/-- The entries that a map is made of, up to the first fault: those of a map, or the pairs of a sequence. -/
def entriesUntil (v : Value) : List (Value × Value) × Option Fault :=
  match v with
  | .map _ entries => (entries, none)
  | .undefined m _ => ([], some (.undefined m))
  | _ => match v.iterate with
    | .ok (items, fault) => pairsUntil fault 0 items
    | .error f => ([], some f)

/-- The entries that a map is made of. -/
def entriesOf (v : Value) : Except Fault (List (Value × Value)) :=
  match entriesUntil v with
  | (entries, none) => .ok entries
  | (_, some f) => .error f

/-- Arguments by name as entries. -/
def namedEntries (named : List (String × Value)) : List (Value × Value) :=
  named.map fun (n, v) => (.text (.written none) n, v)

/-- A map with the same value for each item of an argument. -/
def mapFromKeys (a : Arguments) : Except Fault Value := do
  let vs ← between "dict" "fromkeys" 1 2 a
  let keys ← (← (argument vs 0).items).mapM Value.asKey
  return .newMap (Value.putKeys (keys.map fun k => (k, argument vs 1)) [])

/-- The methods of maps. -/
def onMap (identity : Identity) (entries : List (Value × Value)) (name : String) (a : Arguments) :
    Except Fault Effect := do
  let view (kind : ViewKind) : Effect := .unchanged (.ok (.view .loose kind (.map identity entries)))
  let changed (result : Value) (entries : List (Value × Value)) : Effect :=
    ⟨.ok result, some (.map identity entries)⟩
  match name with
  | "get" => do
    let vs ← between "dict" name 1 2 a
    let key ← Value.asKey (argument vs 0)
    return .unchanged (.ok ((Value.lookup key entries).getD (argument vs 1)))
  | "keys" => do noArguments "dict" name a; return view .keys
  | "values" => do noArguments "dict" name a; return view .values
  | "items" => do noArguments "dict" name a; return view .items
  | "pop" => do
    let vs ← between "dict" name 1 2 a
    let key := argument vs 0
    let key ← if entries.isEmpty then pure key else Value.asKey key
    match (if entries.isEmpty then none else Value.lookup key entries), vs[1]? with
    | some v, _ => return changed v (Value.removeKey key entries)
    | none, some v => return .unchanged (.ok v)
    | none, none => throw (Fault.missingKey (← key.shown))
  | "popitem" => do
    noArguments "dict" name a
    match entries.getLast? with
    | some (k, v) => return changed (.newTuple [k, v]) entries.dropLast
    | none => throw (Fault.missingKey "'popitem(): dictionary is empty'")
  | "setdefault" => do
    let vs ← between "dict" name 1 2 a
    let key ← Value.asKey (argument vs 0)
    match Value.lookup key entries with
    | some v => return .unchanged (.ok v)
    | none => do
      let v := argument vs 1
      return changed v (Value.putKey key v entries)
  | "update" => do
    if 1 < a.positional.length then
      throw (Fault.wrongType ("update expected at most 1 argument, got " ++ toString a.positional.length))
    let (pairs, fault) := match a.positional with
      | v :: _ => entriesUntil v
      | [] => ([], none)
    let entries := Value.putKeys pairs entries
    match fault with
    | some f => return ⟨.error f, some (.map identity entries)⟩
    | none => return changed .none (Value.putKeys (namedEntries a.named) entries)
  | "clear" => do noArguments "dict" name a; return changed .none []
  | "copy" => do noArguments "dict" name a; return .unchanged (.ok (.newMap entries))
  | "fromkeys" => return .unchanged (mapFromKeys a)
  | _ => throw (Fault.noAttribute "dict" name)

/-- The methods of the type of maps, whose first argument is the map that they are applied to. -/
def onMapType (name : String) (a : Arguments) : Except Fault Effect :=
  if name == "fromkeys" then .ok (.unchanged (mapFromKeys a))
  else match a.positional with
    | [] => .error (.wrongType ("unbound method dict." ++ name ++ "() needs an argument"))
    | .map identity entries :: rest => onMap identity entries name ⟨rest, a.named⟩
    | v :: _ => .error (.wrongType
        ("descriptor '" ++ name ++ "' for 'dict' objects doesn't apply to a '" ++ v.typeName ++ "' object"))

/-- The methods of the views of maps. -/
def onView (v : Value) (name : String) (a : Arguments) : Except Fault Value := do
  match name with
  | "isdisjoint" =>
    let other ← oneArgument v.typeName name a
    let items ← v.items
    return .bool !((← other.items).any fun w => items.any (Value.alike w))
  | _ => throw (Fault.noAttribute v.typeName name)

end Method

end Courier.Language
