import Courier.Language.Value

/-!
The changes that programs made to containers. A container's content travels with it; what a method changed later
is recorded under the container's identity and wins over the content carried along. A value is settled when every
part of it carries its present content, so that all operations on settled values are plain functions. Without
changes every value is settled as it is (`settle_nil`).
-/

namespace Courier.Language

/-- The present form of every container that was changed, the latest change first. -/
abbrev Changes := List (Identity × Value)

namespace Changes

/-- The present form of a container. -/
def find? (changes : Changes) (identity : Identity) : Option Value :=
  (List.find? (fun entry => entry.1 == identity) changes).map (·.2)

/-- Takes note of the new form of a container, in the place of the one before. -/
def put (identity : Identity) (v : Value) : Changes → Changes
  | [] => [(identity, v)]
  | (i, w) :: rest => if i == identity then (identity, v) :: rest else (i, w) :: put identity v rest

end Changes

namespace Value

/-- The value with the present content of its outermost container. -/
def current (changes : Changes) (v : Value) : Value :=
  match v.identity? with
  | some .loose => v
  | some identity => (changes.find? identity).getD v
  | Option.none => v

/-- The value with the present content of its outermost container, and a view with that of its owner. -/
def present (changes : Changes) (v : Value) : Value :=
  match v.current changes with
  | view identity kind owner => view identity kind (owner.current changes)
  | w => w

mutual

/-- The number of values that a value is made of. A stream counts as one, because it is read where it stands. -/
def size : Value → Nat
  | tuple _ items | list _ items => sizes items + 1
  | map _ entries => entrySizes entries + 1
  | record _ _ fields => fieldSizes fields + 1
  | slice a b c => a.size + b.size + c.size + 1
  | view _ _ owner | method owner _ => owner.size + 1
  | _ => 1

def sizes : List Value → Nat
  | [] => 0
  | v :: rest => v.size + sizes rest

def entrySizes : List (Value × Value) → Nat
  | [] => 0
  | (k, v) :: rest => k.size + v.size + entrySizes rest

def fieldSizes : List (String × Value) → Nat
  | [] => 0
  | (_, v) :: rest => v.size + fieldSizes rest

end

/-- How many levels up a container stands among the ones that are being settled, the innermost first. -/
def levelsUp (identity : Identity) (path : List Identity) : Option Nat :=
  if identity == .loose then Option.none
  else (path.findIdx? (· == identity)).map (· + 1)

/-- The value with the present content of all its parts. `path` holds the containers around it, the innermost
first, and a container that is met again inside itself becomes a reference to the level where it stands. -/
def settleAt (changes : Changes) : Nat → List Identity → Value → Value
  | 0, _, v => v
  | fuel + 1, path, v =>
    match v.current changes with
    | tuple names items => tuple names (items.map (settleAt changes fuel (.loose :: path)))
    | list identity items =>
      match levelsUp identity path with
      | some levels => cycle identity levels false
      | Option.none => list identity (items.map (settleAt changes fuel (identity :: path)))
    | map identity entries =>
      match levelsUp identity path with
      | some levels => cycle identity levels true
      | Option.none =>
        map identity (entries.map fun (k, v) => (k, settleAt changes fuel (identity :: path) v))
    | view identity kind owner => view identity kind (settleAt changes fuel path owner)
    | method owner name => method (settleAt changes fuel path owner) name
    | record identity kind fields =>
      match levelsUp identity path with
      | some levels => cycle identity levels true
      | Option.none =>
        record identity kind (fields.map fun (n, v) => (n, settleAt changes fuel (identity :: path) v))
    | other => other

/-- The value with the present content of all its parts. The fuel suffices because no container is settled inside
itself. -/
def settle (changes : Changes) (v : Value) : Value :=
  match changes with
  | [] => v
  | _ => settleAt changes (v.size + sizes (changes.map (·.2)) + 1) [] v

theorem settle_nil (v : Value) : v.settle [] = v := rfl

/-- The value with the present content of its items, each of them settled by itself. -/
def unfolded (changes : Changes) (v : Value) : Value :=
  match v.present changes with
  | tuple names items => tuple names (items.map (settle changes))
  | list identity items => list identity (items.map (settle changes))
  | map identity entries => map identity (entries.map fun (k, w) => (k, w.settle changes))
  | view identity kind (map inner entries) =>
    view identity kind (map inner (entries.map fun (k, w) => (k, w.settle changes)))
  | w => w.settle changes

mutual

/-- Gives the loose parts of a value serial numbers, from a number on; the number after the last one is returned. -/
def bind (epoch : Nat) : Value → Nat → Value × Nat
  | int .loose i, serial =>
    if (int .loose i).isUnique then (int .loose i, serial) else (int (.bound epoch serial) i, serial + 1)
  | float .loose x, serial => (float (.bound epoch serial) x, serial + 1)
  | text .loose s, serial =>
    if (text .loose s).isUnique then (text .loose s, serial) else (text (.bound epoch serial) s, serial + 1)
  | text .apart s, serial => (text (.bound epoch serial) s, serial + 1)
  | list .loose items, serial =>
    let (items, next) := bindAll epoch items (serial + 1)
    (list (.bound epoch serial) items, next)
  | map .loose entries, serial =>
    let (entries, next) := bindEntries epoch entries (serial + 1)
    (map (.bound epoch serial) entries, next)
  | stream .loose type left, serial =>
    let (left, next) := bindCursor epoch left (serial + 1)
    (stream (.bound epoch serial) type left, next)
  | view .loose kind owner, serial =>
    let (owner, next) := bind epoch owner (serial + 1)
    (view (.bound epoch serial) kind owner, next)
  | record .loose kind fields, serial =>
    let (fields, next) := bindFields epoch fields (serial + 1)
    (record (.bound epoch serial) kind fields, next)
  | tuple names items, serial => let (items, next) := bindAll epoch items serial; (tuple names items, next)
  | method owner name, serial => let (owner, next) := bind epoch owner serial; (method owner name, next)
  | v, serial => (v, serial)

def bindAll (epoch : Nat) : List Value → Nat → List Value × Nat
  | [], serial => ([], serial)
  | v :: rest, serial =>
    let (v, next) := bind epoch v serial
    let (rest, last) := bindAll epoch rest next
    (v :: rest, last)

def bindEntries (epoch : Nat) : List (Value × Value) → Nat → List (Value × Value) × Nat
  | [], serial => ([], serial)
  | (k, v) :: rest, serial =>
    let (v, next) := bind epoch v serial
    let (rest, last) := bindEntries epoch rest next
    ((k, v) :: rest, last)

def bindFields (epoch : Nat) : List (String × Value) → Nat → List (String × Value) × Nat
  | [], serial => ([], serial)
  | (n, v) :: rest, serial =>
    let (v, next) := bind epoch v serial
    let (rest, last) := bindFields epoch rest next
    ((n, v) :: rest, last)

/-- Gives the loose parts that a cursor reads serial numbers. -/
def bindCursor (epoch : Nat) : Cursor → Nat → Cursor × Nat
  | .fixed items fault, serial => let (items, next) := bindAll epoch items serial; (.fixed items fault, next)
  | .forward owner position, serial => let (owner, next) := bind epoch owner serial; (.forward owner position, next)
  | .backward owner position, serial => let (owner, next) := bind epoch owner serial; (.backward owner position, next)
  | .keyed kind owner known ahead n, serial =>
    let (owner, next) := bind epoch owner serial
    (.keyed kind owner known ahead n, next)
  | .shared source, serial => let (source, next) := bind epoch source serial; (.shared source, next)
  | .waiting source, serial => let (source, next) := bind epoch source serial; (.waiting source, next)
  | .through filter positional named held source, serial =>
    let (positional, next) := bindAll epoch positional serial
    let (named, next) := bindFields epoch named next
    let (held, next) := bindAll epoch held next
    let (source, last) := bindCursor epoch source next
    (.through filter positional named held source, last)
  | .done, serial => (.done, serial)
  | .busy, serial => (.busy, serial)

end

mutual

/-- The value with all its parts loose. -/
def loosened : Value → Value
  | int _ i => int .loose i
  | float _ x => float .loose x
  | text _ s => text .loose s
  | tuple names items => tuple names (loosenedAll items)
  | list _ items => list .loose (loosenedAll items)
  | map _ entries => map .loose (loosenedEntries entries)
  | v => v

def loosenedAll : List Value → List Value
  | [] => []
  | v :: rest => v.loosened :: loosenedAll rest

def loosenedEntries : List (Value × Value) → List (Value × Value)
  | [] => []
  | (k, v) :: rest => (k.loosened, v.loosened) :: loosenedEntries rest

end

/-- Whether a text consists of letters and digits of ASCII and underscores, as names do. -/
def isNameLike (s : String) : Bool := s.toList.all fun c => c.isAlphanum || c == '_'

mutual

/-- The value as it stands in a program. Its lists and maps are made anew each time. -/
def inProgram (epoch : Nat) : Value → Value
  | int _ i => int (.written (some epoch)) i
  | float _ x => float (.written (some epoch)) x
  | text _ s => text (.written (if isNameLike s then Option.none else some epoch)) s
  | tuple names items => tuple names (inProgramAll epoch items)
  | list identity items => list identity (inProgramAll epoch items)
  | map identity entries => map identity (inProgramEntries epoch entries)
  | v => v

def inProgramAll (epoch : Nat) : List Value → List Value
  | [] => []
  | v :: rest => v.inProgram epoch :: inProgramAll epoch rest

def inProgramEntries (epoch : Nat) : List (Value × Value) → List (Value × Value)
  | [] => []
  | (k, v) :: rest => (k.inProgram epoch, v.inProgram epoch) :: inProgramEntries epoch rest

end

end Value

/-- What the runs of programs leave behind: the changes of containers, and streams that were read to their end. -/
structure Memory where
  changes : Changes
  deriving Inhabited

namespace Memory

/-- Nothing was changed yet. -/
def empty : Memory := ⟨[]⟩

/-- A value with its present content. -/
def settle (memory : Memory) (v : Value) : Value := v.settle memory.changes

end Memory

end Courier.Language
