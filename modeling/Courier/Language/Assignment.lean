import Courier.Language.Access
import Courier.Language.Memory
import Courier.Number.Reading

/-!
Paths of keys into data, written with dots. A segment names an entry of a map or counts the items of a list from
zero; any other segment leads nowhere, and a path that leads nowhere stands for nothing.

What is set at the end of a path is stored and not copied, so that a container can be at many places, and setting a part
of it shows at each of them. An entry whose key is the whole path is found before any other.
-/

namespace Courier.Language

namespace Path

/-! ### Paths into data -/

/-- The segments of a path. -/
def segments (path : String) : List String := Text.splitBy '.' path

/-- The number that a segment of digits stands for, if it is one. Digits that are not decimal make no number. -/
def position? (segment : String) : Except Fault (Option Nat) :=
  if segment.isEmpty || !segment.toList.all Text.isDigit then .ok none
  else match Number.readInt segment with
    | .ok i => .ok (some i.toNat)
    | .error (.tooLong digits) => .error (.numeralTooLong digits)
    | .error .malformed => .error (.badNumeral (Text.quoted segment))

/-- The part of a settled value that a segment leads to. -/
def step (v : Value) (segment : String) : Except Fault (Option Value) :=
  match v with
  | .map _ entries => .ok (Value.lookup (.newText segment) entries)
  | .list _ items | .tuple _ items => do
    match ← position? segment with
    | some n => return items[n]?
    | none => return none
  | _ => .ok none

/-- The part of a settled value at the end of a path, or nothing. -/
def walk : List String → Value → Except Fault (Option Value)
  | [], v => .ok (some v)
  | segment :: rest, v => do
    match ← step v segment with
    | some w => walk rest w
    | none => return none

/-- What a path stands for in a settled value: the part it leads to, or `none` where it leads nowhere. -/
def resolve (v : Value) (path : String) : Except Fault Value := do
  return (← walk (segments path) v).getD .none

/-! ### Paths into what is stored -/

/-- The part that a segment leads to in the present content of a value. Of tuples nothing is found. -/
def stepShared (changes : Changes) (v : Value) (segment : String) : Except Fault (Option Value) :=
  match v.current changes with
  | .tuple _ _ => .ok none
  | w => step w segment

/-- The part at the end of a path. -/
def walkShared (changes : Changes) : List String → Value → Except Fault (Option Value)
  | [], v => .ok (some v)
  | segment :: rest, v => do
    match ← stepShared changes v segment with
    | some w => walkShared changes rest w
    | none => return none

/-- The entry whose key is a path. -/
def wholeKey? (changes : Changes) (v : Value) (path : String) : Option Value :=
  match v.current changes with
  | .map _ entries => Value.lookup (.newText path) entries
  | _ => none

/-- What a path stands for, or a default where it leads nowhere. -/
def find (changes : Changes) (v : Value) (path : String) (default : Value) : Except Fault Value :=
  match wholeKey? changes v path with
  | some w => .ok w
  | none => do return (← walkShared changes (segments path) v).getD default

/-- Sets a key of a container, which is recorded as a change. -/
def putShared (changes : Changes) (owner : Value) (key : String) (v : Value) : Except Fault Changes :=
  match owner.current changes with
  | .map identity entries => .ok ((identity, .map identity (Value.putKey (.newText key) v entries)) :: changes)
  | .list _ _ => .error .notListPosition
  | w => .error (.notAssignable w.typeName)

/-- A map that nothing else holds: no other one is made after as many changes. -/
def newShared (changes : Changes) : Value := .map (.placed "made" [changes.length]) []

/-- Sets the end of a path. Where a segment leads to no map, it is made to lead to a new one. -/
def assign (changes : Changes) : List String → Value → Value → Except Fault Changes
  | [], _, _ => .ok changes
  | [key], owner, v => putShared changes owner key v
  | segment :: rest, owner, v =>
    match owner.current changes with
    | .map _ entries =>
      match Value.lookup (.newText segment) entries with
      | some (.map identity inner) => assign changes rest (.map identity inner) v
      | _ => do
        let made := newShared changes
        assign (← putShared changes owner segment made) rest made v
    | w => .error (.noAttribute w.typeName "get")

end Path

end Courier.Language
