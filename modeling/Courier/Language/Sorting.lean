import Courier.Language.Fault

/-!
Sorting with an order that may fail. The comparisons are made in a fixed sequence, because the first one that fails
decides the fault: a leading run is kept, or reversed if it falls, and every further item is inserted by halving.
Items that are equal keep their places.
-/

namespace Courier.Language

variable {α : Type}

/-- The length of the run that starts with an item and goes on falling or not falling. -/
def runLength (less : α → α → Except Fault Bool) (falling : Bool) : α → List α → Except Fault Nat
  | _, [] => .ok 1
  | a, b :: rest => do
    if (← less b a) == falling then return (← runLength less falling b rest) + 1
    else return 1

/-- The position behind all items of a sorted array that are not greater, between two positions. -/
def insertionPoint (less : α → α → Except Fault Bool) (sorted : Array α) (item : α) :
    Nat → Nat → Nat → Except Fault Nat
  | 0, low, _ => .ok low
  | fuel + 1, low, high =>
    if low < high then
      let middle := low + (high - low) / 2
      match sorted[middle]? with
      | none => .ok low
      | some m => do
        if ← less item m then insertionPoint less sorted item fuel low middle
        else insertionPoint less sorted item fuel (middle + 1) high
    else .ok low

/-- Inserts the items one after the other into a sorted array. Where that fails, the items that are left follow the
sorted ones. -/
def insertAll (less : α → α → Except Fault Bool) : Array α → List α → List α × Option Fault
  | sorted, [] => (sorted.toList, none)
  | sorted, item :: rest =>
    match insertionPoint less sorted item (sorted.size + 1) 0 sorted.size with
    | .ok p => insertAll less (sorted.insertIdxIfInBounds p item) rest
    | .error f => (sorted.toList ++ item :: rest, some f)

/-- The order that sorting a list comes to, and the fault that ends it early, if any. -/
def arranged (less : α → α → Except Fault Bool) (items : List α) : List α × Option Fault :=
  match items with
  | a :: b :: rest =>
    let run : Except Fault (Bool × Nat) := do
      let falling ← less b a
      return (falling, (← runLength less falling b rest) + 1)
    match run with
    | .ok (falling, n) =>
      insertAll less (if falling then (items.take n).reverse else items.take n).toArray (items.drop n)
    | .error f => (items, some f)
  | items => (items, none)

/-- The same for a sort the other way round, in which equal items keep their places too. -/
def arrangedIn (less : α → α → Except Fault Bool) (reversed : Bool) (items : List α) : List α × Option Fault :=
  if reversed then
    let (items, fault) := arranged less items.reverse
    (items.reverse, fault)
  else arranged less items

/-- Sorts a list in a direction. -/
def sortDirected (less : α → α → Except Fault Bool) (reversed : Bool) (items : List α) : Except Fault (List α) :=
  match arrangedIn less reversed items with
  | (items, none) => .ok items
  | (_, some f) => .error f

/-- Sorts a list by a strict order. -/
def sortBy (less : α → α → Except Fault Bool) (items : List α) : Except Fault (List α) := sortDirected less false items

end Courier.Language
