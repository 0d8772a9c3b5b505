import Courier.Json.Writer
import Courier.Language.Operation
import Courier.Language.Sorting

/-!
Values as JSON. Tuples become lists and keys become texts; what JSON has no form for is a fault, and so is a container
that holds itself.
-/

namespace Courier.Language

namespace Value

/-- The text of a key. -/
def entryKey : Value → Except Fault String
  | text _ s | safeText s => .ok s
  | float _ x => .ok (Number.jsonLayout.write x)
  | bool b => .ok (if b then "true" else "false")
  | none => .ok "null"
  | int _ i => shownInt i
  | v => .error (.badEntryKey v.typeName)

/-- The entries of a map, whose values have documents or faults, in the order in which they are written. -/
def inOrder {α : Type} (sorted : Bool) (entries : List (Value × α)) : Except Fault (List (Value × α)) :=
  if sorted then sortBy (fun a b => ordered .less a.1 b.1) entries else .ok entries

/-- The entries with their keys as texts. The first fault counts, that of a key before that of its value. -/
def writtenEntries : List (Value × Except Fault Document) → Except Fault (List (String × Document))
  | [] => .ok []
  | (k, d) :: rest => do return (← entryKey k, ← d) :: (← writtenEntries rest)

mutual

/-- The document of a settled value, the entries of its maps as they are or sorted by their keys. -/
def document (sorted : Bool) : Value → Except Fault Document
  | none => .ok .null
  | bool b => .ok (.bool b)
  | int _ i => do let _ ← shownInt i; return .int i
  | float _ x => .ok (.float x)
  | text _ s | safeText s => .ok (.text s)
  | tuple _ items | list _ items => do return .list (← documents sorted items)
  | map _ entries => do return .object (← writtenEntries (← inOrder sorted (entryDocuments sorted entries)))
  | cycle _ _ _ => .error .circular
  | v => .error (.notSerializable v.typeName)

def documents (sorted : Bool) : List Value → Except Fault (List Document)
  | [] => .ok []
  | v :: rest => do return (← document sorted v) :: (← documents sorted rest)

/-- The entries with the documents of their values, or why there is none. -/
def entryDocuments (sorted : Bool) : List (Value × Value) → List (Value × Except Fault Document)
  | [] => []
  | (k, v) :: rest => (k, document sorted v) :: entryDocuments sorted rest

end

/-- The document of a settled value. -/
def toDocument (v : Value) : Except Fault Document := v.document false

mutual

/-- The value with the texts of all parts that JSON has no form for. -/
def withTexts : Value → Except Fault Value
  | tuple names items => do return tuple names (← withTextsAll items)
  | list identity items => do return list identity (← withTextsAll items)
  | map identity entries => do return map identity (← withTextsIn entries)
  | none => .ok none
  | bool b => .ok (bool b)
  | int _ i => .ok (newInt i)
  | float _ x => .ok (newFloat x)
  | text _ s => .ok (newText s)
  | safeText s => .ok (safeText s)
  | cycle identity levels isMap => .ok (cycle identity levels isMap)
  | v => do return newText (← v.toText)

def withTextsAll : List Value → Except Fault (List Value)
  | [] => .ok []
  | v :: rest => do return (← withTexts v) :: (← withTextsAll rest)

def withTextsIn : List (Value × Value) → Except Fault (List (Value × Value))
  | [] => .ok []
  | (k, v) :: rest => do return (k, ← withTexts v) :: (← withTextsIn rest)

end

/-- The JSON text of a value on one line. -/
def toJson (v : Value) : Except Fault String := do return Json.write Json.oneLine (← toDocument v)

/-- A character of JSON that is written as an escape inside HTML. -/
def scriptChar (c : Char) : List Char :=
  if c == '<' then "\\u003c".toList
  else if c == '>' then "\\u003e".toList
  else if c == '&' then "\\u0026".toList
  else if c == '\'' then "\\u0027".toList
  else [c]

/-- The style that an argument asks for: a text to indent by, or a number of blanks. -/
def jsonStyle (indent : Value) : Except Fault Json.Style :=
  match indent with
  | none => .ok Json.asciiLine
  | text _ s | safeText s => .ok ⟨true, some s⟩
  | undefined m _ => .error (.undefined m)
  | v => match v.int? with
    | some i =>
      if i > indexLimit || i < -indexLimit - 1 then .error .indexTooLarge
      else if lengthLimit < i.toNat then .error .tooLarge
      else .ok ⟨true, some (String.ofList (List.replicate i.toNat ' '))⟩
    | Option.none => .error (.notRepeatable v.typeName)

/-- JSON text that can stand inside HTML. A text by itself is never indented. -/
def toScript (indent v : Value) : Except Fault String := do
  let style ← match v with
    | text _ _ | safeText _ => pure Json.asciiLine
    | _ => jsonStyle indent
  return String.ofList ((Json.write style (← v.document true)).toList.flatMap scriptChar)

end Value

end Courier.Language
