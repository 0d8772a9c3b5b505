import Courier.Document
import Courier.Number.Layout
import Courier.Text.Quoted

/-!
Writing JSON text. On one line, items are separated by a comma and a blank and a key is followed by a colon and a
blank; indented, every item has a line of its own.
-/

namespace Courier.Json

/-- The choices of a writer: whether characters beyond ASCII are escaped, and the text by which items are indented. -/
structure Style where
  ascii : Bool
  indent : Option String

/-- One line, characters as they are. -/
def oneLine : Style := ⟨false, none⟩

/-- One line of ASCII. -/
def asciiLine : Style := ⟨true, none⟩

/-- Items on lines of their own, two blanks deeper at each level. -/
def indented : Style := ⟨false, some "  "⟩

/-- A string in a style. -/
def Style.string (style : Style) (s : String) : String :=
  if style.ascii then Text.asciiJsonString s else Text.jsonString s

/-- The break in front of an item at a nesting depth: nothing on one line. -/
def Style.lineBreak (style : Style) (depth : Nat) : String :=
  match style.indent with
  | none => ""
  | some text => "\n" ++ String.join (List.replicate depth text)

/-- What stands between two items at a nesting depth. -/
def Style.separator (style : Style) (depth : Nat) : String :=
  match style.indent with
  | none => ", "
  | some _ => "," ++ style.lineBreak depth

/-- The words of the two truth values. -/
def boolWord (b : Bool) : String := if b then "true" else "false"

mutual

/-- The text of a document at a nesting depth. -/
def writeAt (style : Style) (depth : Nat) : Document → String
  | .null => "null"
  | .bool b => boolWord b
  | .int i => Number.writeInt i
  | .float x => Number.jsonLayout.write x
  | .text s => style.string s
  | .list [] => "[]"
  | .list (item :: items) =>
    "[" ++ style.lineBreak (depth + 1) ++ writeAt style (depth + 1) item ++ writeItems style (depth + 1) items ++
      style.lineBreak depth ++ "]"
  | .object [] => "\x7b\x7d"
  | .object ((key, value) :: entries) =>
    "\x7b" ++ style.lineBreak (depth + 1) ++ style.string key ++ ": " ++ writeAt style (depth + 1) value ++
      writeEntries style (depth + 1) entries ++ style.lineBreak depth ++ "\x7d"

/-- The items of a list after the first, each with the separator in front. -/
def writeItems (style : Style) (depth : Nat) : List Document → String
  | [] => ""
  | item :: items => style.separator depth ++ writeAt style depth item ++ writeItems style depth items

/-- The entries of an object after the first, each with the separator in front. -/
def writeEntries (style : Style) (depth : Nat) : List (String × Document) → String
  | [] => ""
  | (key, value) :: entries =>
    style.separator depth ++ style.string key ++ ": " ++ writeAt style depth value ++
      writeEntries style depth entries

end

/-- The text of a document. -/
def write (style : Style) (d : Document) : String := writeAt style 0 d

end Courier.Json
