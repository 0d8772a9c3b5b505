import Courier.Language.Assignment

/-!
Paths in documents. A lookup tries the whole path as a key before it goes by segments; setting the end of a path makes
an object of every part on the way that is none. The two agree: what was set is found (`find_assign_key`).
-/

namespace Courier.Document

open Courier.Language

/-- The name of a document's type. -/
def typeName (d : Document) : String := (Value.ofDocument "" [] d).typeName

/-- The part that a segment leads to. -/
def step (d : Document) (segment : String) : Except Fault (Option Document) :=
  match d with
  | .object entries => .ok (entryOf? segment entries)
  | .list items => do
    match ← Path.position? segment with
    | some n => return items[n]?
    | none => return none
  | _ => .ok none

/-- The part at the end of segments. -/
def walk : List String → Document → Except Fault (Option Document)
  | [], d => .ok (some d)
  | segment :: rest, d => do
    match ← step d segment with
    | some part => walk rest part
    | none => return none

/-- What a path stands for, or a default where it leads nowhere. -/
def find (d : Document) (path : String) (default : Document) : Except Fault Document :=
  match d.get? path with
  | some part => .ok part
  | none => do return (← walk (Path.segments path) d).getD default

/-- The object that stands under a key, or an empty one. -/
def inner (entries : List (String × Document)) (key : String) : Document :=
  match entryOf? key entries with
  | some (.object inner) => .object inner
  | _ => .object []

/-- The document with the end of a path set. -/
def assign : List String → Document → Document → Except Fault Document
  | [], d, _ => .ok d
  | [key], .object entries, part => .ok (.object (putEntry key part entries))
  | [_], .list _, _ => .error .notListPosition
  | [_], d, _ => .error (.notAssignable d.typeName)
  | segment :: rest, .object entries, part => do
    return .object (putEntry segment (← assign rest (inner entries segment) part) entries)
  | _ :: _ :: _, d, _ => .error (.noAttribute d.typeName "get")

/-- A key that was set is found. -/
theorem find_assign_key (entries : List (String × Document)) (key : String) (part default : Document) :
    (assign [key] (.object entries) part).bind (fun d => d.find key default) = .ok part := by
  simp [assign, find, get?, entryOf?_putEntry_self, Except.bind]

end Courier.Document
