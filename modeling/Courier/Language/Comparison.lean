import Courier.Language.Value
import Courier.Text.Search

/-!
Equality, order and membership of settled values. Numbers of all kinds compare by their exact value, containers item by
item. Values of different kinds are unequal, and only numbers, texts, lists, tuples and the keys or entries of maps have
an order. A number that is none differs from itself, but it is found in a container that holds the same object.
-/

namespace Courier.Language

/-- The order relations. -/
inductive Relation
  | less
  | lessEqual
  | greater
  | greaterEqual
  deriving DecidableEq, Repr

namespace Relation

/-- The sign of a relation. -/
def sign : Relation → String
  | less => "<"
  | lessEqual => "<="
  | greater => ">"
  | greaterEqual => ">="

/-- Whether a relation holds of two things in that order. -/
def holds : Relation → Ordering → Bool
  | less, o => o == .lt
  | lessEqual, o => o != .gt
  | greater, o => o == .gt
  | greaterEqual, o => o != .lt

end Relation

namespace Value

/-- The order of two numbers: nothing if one of the values is no number, and no order if one is undefined. -/
def compareNumbers? (a b : Value) : Option (Option Ordering) :=
  match a, b with
  | float _ x, float _ y => some (Number.compareFloat x y)
  | float _ x, _ => b.int?.map fun j => (Number.compareIntFloat j x).map Ordering.swap
  | _, float _ y => a.int?.map fun i => Number.compareIntFloat i y
  | _, _ => do some (compare (← a.int?) (← b.int?))

/-- The integers of a range as a list, for comparison. -/
def sameRange (a b c d e f : Int) : Bool :=
  let n := rangeLength a b c
  n == rangeLength d e f && (n == 0 || (a == d && (n == 1 || c == f)))

mutual

/-- Equality of settled values. -/
def same : Value → Value → Bool
  | none, none => true
  | complex x y, complex u v => x == u && y == v
  | tuple _ xs, tuple _ ys => sameItems xs ys
  | list _ xs, list _ ys => sameItems xs ys
  | map _ xs, map _ ys => xs.length == ys.length && sameEntries xs ys
  | range a b c, range d e f => sameRange a b c d e f
  | slice a b c, slice d e f => same a d && same b e && same c f
  | undefined _ p, undefined _ q => p == q
  | builtin a, builtin b => a == b
  | method a n, method b m => n == m && same a b
  | stream i _ _, stream j _ _ => i == j && i != .loose
  | record i _ _, record j _ _ => i == j && i != .loose
  | cycle i _ _, cycle j _ _ => i == j
  | text _ a, b => b.text? == some a
  | safeText a, b => b.text? == some a
  | bytes a, bytes b => a == b
  | view i .values _, view j .values _ => i == j && i != .loose
  | view _ .keys (map _ xs), view _ .keys (map _ ys) => xs.length == ys.length && sameKeys xs ys
  | view _ .items (map _ xs), view _ .items (map _ ys) => xs.length == ys.length && sameEntries xs ys
  | view _ _ (map _ []), view _ _ (map _ []) => true
  | a, b => compareNumbers? a b == some (some .eq)

/-- Equality of two items of containers: they are equal, or one object that is no number. -/
def alike : Value → Value → Bool
  | float i x, float j y => x == y || (Number.isNaN x && Number.isNaN y && i == j && i != .loose)
  | v, w => same v w

def sameItems : List Value → List Value → Bool
  | [], [] => true
  | x :: xs, y :: ys => alike x y && sameItems xs ys
  | _, _ => false

def sameEntries : List (Value × Value) → List (Value × Value) → Bool
  | [], _ => true
  | (k, v) :: rest, ys =>
    (match ys.find? fun entry => alike k entry.1 with
      | some (_, w) => alike v w
      | Option.none => false) && sameEntries rest ys

def sameKeys : List (Value × Value) → List (Value × Value) → Bool
  | [], _ => true
  | (k, _) :: rest, ys => ys.any (fun entry => alike k entry.1) && sameKeys rest ys

end

/-- What an order compares two views by, if they are comparable: whether the entries of either are among the other's. -/
def viewsWithin? : Value → Value → Option (Bool × Bool × Nat × Nat)
  | view _ .keys (map _ xs), view _ .keys (map _ ys) =>
    some (sameKeys xs ys, sameKeys ys xs, xs.length, ys.length)
  | view _ .items (map _ xs), view _ .items (map _ ys) =>
    some (sameEntries xs ys, sameEntries ys xs, xs.length, ys.length)
  | _, _ => Option.none

/-- The message of an undefined value. -/
def undefinedMessage? : Value → Option String
  | undefined m _ => some m
  | _ => Option.none

mutual

/-- The order of two settled values. -/
def ordered (relation : Relation) : Value → Value → Except Fault Bool
  | tuple _ xs, tuple _ ys => orderedItems relation xs ys
  | list _ xs, list _ ys => orderedItems relation xs ys
  | bytes a, bytes b => .ok (relation.holds (compare a b))
  | a, b =>
    match compareNumbers? a b, a.text?, b.text? with
    | some order, _, _ => .ok (order.any relation.holds)
    | Option.none, some s, some t => .ok (relation.holds (compare s t))
    | Option.none, _, _ =>
      match a.undefinedMessage?, b.undefinedMessage?, viewsWithin? a b with
      | some m, _, _ => .error (.undefined m)
      | Option.none, some m, _ => .error (.undefined m)
      | Option.none, Option.none, some (below, above, m, n) => .ok (match relation with
          | .less => below && m < n
          | .lessEqual => below && m ≤ n
          | .greater => above && n < m
          | .greaterEqual => above && n ≤ m)
      | Option.none, Option.none, Option.none => .error (.notOrdered relation.sign a.typeName b.typeName)

/-- The first pair of different items decides, else the lengths. -/
def orderedItems (relation : Relation) : List Value → List Value → Except Fault Bool
  | x :: xs, y :: ys => if alike x y then orderedItems relation xs ys else ordered relation x y
  | [], ys => .ok (relation.holds (if ys.isEmpty then .eq else .lt))
  | _ :: _, [] => .ok (relation.holds .gt)

end

mutual

/-- The type that keeps a value from being a key. -/
def unhashable? : Value → Option String
  | list _ _ => some "list"
  | map _ _ => some "dict"
  | slice _ _ _ => some "slice"
  | view _ .keys _ => some "dict_keys"
  | view _ .items _ => some "dict_items"
  | cycle _ _ isMap => some (if isMap then "dict" else "list")
  | tuple _ items => unhashableIn? items
  | _ => Option.none

def unhashableIn? : List Value → Option String
  | [] => Option.none
  | v :: rest => (unhashable? v).orElse fun _ => unhashableIn? rest

end

/-- A value that can be a key. -/
def asKey (v : Value) : Except Fault Value :=
  match v.unhashable? with
  | some type => .error (.unhashable type)
  | Option.none => .ok v

/-- The value of a key. -/
def lookup (key : Value) (entries : List (Value × Value)) : Option Value :=
  (entries.find? fun entry => alike key entry.1).map (·.2)

/-- Sets a key. An equal key keeps its place and its spelling. -/
def putKey (key value : Value) : List (Value × Value) → List (Value × Value)
  | [] => [(key, value)]
  | (k, v) :: rest => if alike key k then (k, value) :: rest else (k, v) :: putKey key value rest

/-- Takes a key out. -/
def removeKey (key : Value) (entries : List (Value × Value)) : List (Value × Value) :=
  entries.filter fun entry => !alike key entry.1

/-- Sets the keys of a list of pairs one after the other. -/
def putKeys (pairs entries : List (Value × Value)) : List (Value × Value) :=
  pairs.foldl (fun acc (k, v) => putKey k v acc) entries

end Value

end Courier.Language
