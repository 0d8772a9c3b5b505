/-!
Documents: the data that configuration, process data and bodies are made of. An object keeps its entries in the
order in which their keys were first written.
-/

namespace Courier

/-- A JSON value. Integers have any size; a number written with a point or an exponent is a float. -/
inductive Document
  | null
  | bool (value : Bool)
  | int (value : Int)
  | float (value : Float)
  | text (value : String)
  | list (items : List Document)
  | object (entries : List (String × Document))
  deriving Inhabited

/-- Sets a key: an entry of that key keeps its place, a new one goes to the end. -/
def putEntry {α : Type} (key : String) (value : α) : List (String × α) → List (String × α)
  | [] => [(key, value)]
  | (k, v) :: rest => if k == key then (k, value) :: rest else (k, v) :: putEntry key value rest

/-- The value of a key. -/
def entryOf? {α : Type} (key : String) : List (String × α) → Option α
  | [] => none
  | (k, v) :: rest => if k == key then some v else entryOf? key rest

/-- Sets the keys of a list of pairs one after the other, so that the last value of a key wins. -/
def putEntries {α : Type} (pairs entries : List (String × α)) : List (String × α) :=
  pairs.foldl (fun acc (key, value) => putEntry key value acc) entries

theorem entryOf?_putEntry_self {α : Type} (key : String) (value : α) (entries : List (String × α)) :
    entryOf? key (putEntry key value entries) = some value := by
  induction entries with
  | nil => simp [putEntry, entryOf?]
  | cons e rest ih =>
    obtain ⟨k, v⟩ := e
    by_cases h : k = key <;> simp [putEntry, entryOf?, h, ih]

theorem entryOf?_putEntry_of_ne {α : Type} {key other : String} (h : other ≠ key) (value : α)
    (entries : List (String × α)) : entryOf? other (putEntry key value entries) = entryOf? other entries := by
  induction entries with
  | nil => simp [putEntry, entryOf?, Ne.symm h]
  | cons e rest ih =>
    obtain ⟨k, v⟩ := e
    by_cases hk : k = key
    · subst hk
      simp [putEntry, entryOf?, Ne.symm h]
    · by_cases ho : k = other
      · subst ho
        simp [putEntry, entryOf?, hk]
      · simp [putEntry, entryOf?, hk, ho, ih]

namespace Document

/-- The entries of an object. -/
def entries? : Document → Option (List (String × Document))
  | object entries => some entries
  | _ => none

/-- The value of a key of an object. -/
def get? (key : String) : Document → Option Document
  | object entries => entryOf? key entries
  | _ => none

end Document

end Courier
