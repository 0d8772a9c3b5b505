import Courier.Document
import Courier.Language.Fault
import Courier.Text.Encoding

/-!
The values that expressions work on. Containers, texts and numbers carry their content and an identity: the place where
they came to rest. By it a change made to a container under one name is seen under another
(`Courier.Language.Memory`), and one object is told from another of the same content. What no name or container holds
yet is loose: nobody else can see a change of it, and it is the same as nothing else.
-/

namespace Courier.Language

/-- Where an object came to rest. Those of a document are known by their path in it, those that a program made by the
number of changes before its run and a serial number in the run. What is written in a program is one object wherever it
is written there, and texts that could be names are so in all programs. -/
inductive Identity
  | loose
  | placed (root : String) (path : List Nat)
  | bound (epoch serial : Nat)
  /-- Loose, and not the one short text of its content. -/
  | apart
  | written (epoch : Option Nat)
  deriving DecidableEq, Repr

/-- What every program can name without any data. -/
inductive Builtin
  | range
  | dict
  | lipsum
  | cycler
  | joiner
  | namespaceOf
  | pathLookup
  /-- The template that runs, by whose name its blocks can be looked up. -/
  | template
  deriving DecidableEq, Repr

/-- The parts of a map that can be looked at apart. -/
inductive ViewKind
  | keys
  | values
  | items
  deriving DecidableEq, Repr

/-- Objects with named fields. -/
inductive RecordKind
  | loop
  | namespaceOf
  | cycler
  | joiner
  /-- A body with parameters. -/
  | definition
  /-- A block of the template that runs. -/
  | block
  deriving DecidableEq, Repr

mutual

/-- A value of the language. -/
inductive Value
  | none
  | bool (value : Bool)
  | int (identity : Identity) (value : Int)
  | float (identity : Identity) (value : Float)
  /-- What a fractional power of a negative number is. -/
  | complex (real imaginary : Float)
  | text (identity : Identity) (value : String)
  /-- Text that is marked as fit for HTML. -/
  | safeText (value : String)
  | bytes (value : Courier.Text.Bytes)
  /-- Items that stay as they are. They may have names, so that they can be asked for as attributes. -/
  | tuple (names : List String) (items : List Value)
  | list (identity : Identity) (items : List Value)
  | map (identity : Identity) (entries : List (Value × Value))
  | range (start stop step : Int)
  | slice (start stop step : Value)
  /-- Items that are handed out once. -/
  | stream (identity : Identity) (type : String) (left : Cursor)
  | view (identity : Identity) (kind : ViewKind) (owner : Value)
  | method (owner : Value) (name : String)
  /-- A value that is not there, with the message of its use. A chained one may be asked for attributes. -/
  | undefined (message : String) (chained : Bool)
  | builtin (what : Builtin)
  | record (identity : Identity) (kind : RecordKind) (fields : List (String × Value))
  /-- The container that many levels up, in a value that holds itself. -/
  | cycle (identity : Identity) (levels : Nat) (isMap : Bool)

/-- What is left of the items that are handed out one by one. Lists and maps are read anew for each item, so that
their changes show; what never changes is taken apart at the start. -/
inductive Cursor
  | done
  /-- The cursor is asked for an item while it looks for one. -/
  | busy
  /-- These items, and the fault that ends them, if any. -/
  | fixed (items : List Value) (fault : Option Fault)
  /-- The items of a list from a position on. -/
  | forward (owner : Value) (position : Nat)
  /-- The items of a list in front of a position, the last one first. -/
  | backward (owner : Value) (position : Nat)
  /-- The entries of a map whose keys were known at the start. `ahead` holds the keys that are still to come. -/
  | keyed (kind : ViewKind) (owner : Value) (known ahead : List Value) (handedOut : Nat)
  /-- What is left of a stream. -/
  | shared (stream : Value)
  /-- The items of a value that is looked at when the first one is asked for. -/
  | waiting (source : Value)
  /-- A filter that takes the items of a source and hands out others. `held` is what it keeps from one to the next. -/
  | through (filter : String) (positional : List Value) (named : List (String × Value)) (held : List Value)
      (source : Cursor)

end

instance : Inhabited Value := ⟨.none⟩

instance : Inhabited Cursor := ⟨.done⟩

namespace Value

/-- Whether a method of texts fills their placeholders. -/
def isFilling (name : String) : Bool := name == "format" || name == "format_map"

/-- The name of a value's type. -/
def typeName : Value → String
  | none => "NoneType"
  | bool _ => "bool"
  | int _ _ => "int"
  | float _ _ => "float"
  | complex _ _ => "complex"
  | text _ _ => "str"
  | safeText _ => "Markup"
  | bytes _ => "bytes"
  | tuple names _ => if names.isEmpty then "tuple" else "_GroupTuple"
  | list _ _ => "list"
  | map _ _ => "dict"
  | range _ _ _ => "range"
  | slice _ _ _ => "slice"
  | stream _ type _ => type
  | view _ .keys _ => "dict_keys"
  | view _ .values _ => "dict_values"
  | view _ .items _ => "dict_items"
  | method (record _ _ _) _ => "method"
  | method (text _ _) name | method (safeText _) name =>
    if isFilling name then "function" else "builtin_function_or_method"
  | method _ _ => "builtin_function_or_method"
  | undefined _ chained => if chained then "ChainableUndefined" else "Undefined"
  | builtin .range | builtin .lipsum | builtin .pathLookup => "function"
  | builtin .template => "TemplateReference"
  | builtin _ => "type"
  | record _ .loop _ => "LoopContext"
  | record _ .namespaceOf _ => "Namespace"
  | record _ .cycler _ => "Cycler"
  | record _ .joiner _ => "Joiner"
  | record _ .definition _ => "Macro"
  | record _ .block _ => "BlockReference"
  | cycle _ _ isMap => if isMap then "dict" else "list"

/-- An integer without identity. -/
def newInt (value : Int) : Value := int .loose value

/-- A float without identity. -/
def newFloat (value : Float) : Value := float .loose value

/-- A text without identity. -/
def newText (value : String) : Value := text .loose value

/-- A text without identity that is another object than the one short text of its content. -/
def ownText (value : String) : Value := text .apart value

/-- A tuple whose items have no names. -/
def newTuple (items : List Value) : Value := tuple [] items

/-- A list of values without identity. -/
def newList (items : List Value) : Value := list .loose items

/-- A map without identity. -/
def newMap (entries : List (Value × Value)) : Value := map .loose entries

mutual

/-- The value of a document. Its parts are placed in the root, at their path. Numbers without digits are the same in all
documents, and keys of one spelling the same in one document. -/
def ofDocument (root : String) (path : List Nat) : Document → Value
  | .null => none
  | .bool b => bool b
  | .int i => int (.placed root path) i
  | .float x => float (if Number.isFinite x then .placed root path else .placed "" []) x
  | .text s => text (.placed root path) s
  | .list items => list (.placed root path) (ofDocuments root path 0 items)
  | .object entries => map (.placed root path) (ofEntries root path 0 entries)

/-- The values of the items of a list, numbered from a position on. -/
def ofDocuments (root : String) (path : List Nat) (position : Nat) : List Document → List Value
  | [] => []
  | d :: rest => ofDocument root (position :: path) d :: ofDocuments root path (position + 1) rest

/-- The values of the entries of an object, numbered from a position on. -/
def ofEntries (root : String) (path : List Nat) (position : Nat) :
    List (String × Document) → List (Value × Value)
  | [] => []
  | (key, d) :: rest =>
    (text (.placed root []) key, ofDocument root (position :: path) d) :: ofEntries root path (position + 1) rest

end

/-- The characters of a text of either kind. -/
def text? : Value → Option String
  | text _ s | safeText s => some s
  | _ => Option.none

/-- The integer that an integer or a truth value counts as. -/
def int? : Value → Option Int
  | int _ i => some i
  | bool b => some (if b then 1 else 0)
  | _ => Option.none

/-- An integer as itself, and a truth value as the integer that it counts as. -/
def asInt? : Value → Option Value
  | int identity i => some (int identity i)
  | bool b => some (newInt (if b then 1 else 0))
  | _ => Option.none

/-- The identity of a container. -/
def identity? : Value → Option Identity
  | list identity _ | map identity _ | stream identity _ _ | view identity _ _ | record identity _ _
  | cycle identity _ _ => some identity
  | _ => Option.none

/-- The number of integers in a range. -/
def rangeLength (start stop step : Int) : Nat :=
  if 0 < step then (if start < stop then ((stop - start - 1) / step + 1).toNat else 0)
  else if start > stop then ((start - stop - 1) / (-step) + 1).toNat else 0

/-- The integers of a range. -/
def rangeItems (start stop step : Int) : List Value :=
  (List.range (rangeLength start stop step)).map fun (i : Nat) => newInt (start + step * (i : Int))

/-- Whether a settled value counts as true. -/
def isTrue : Value → Bool
  | none => false
  | bool b => b
  | int _ i => i != 0
  | float _ x => x != 0
  | text _ s | safeText s => !s.isEmpty
  | bytes b => !b.isEmpty
  | tuple _ items | list _ items => !items.isEmpty
  | map _ entries => !entries.isEmpty
  | range start stop step => rangeLength start stop step != 0
  | view _ _ (map _ entries) => !entries.isEmpty
  | undefined _ _ => false
  | _ => true

/-- Whether a text of one character is the one object of its content. Some letters that are written in programs are
another. -/
def isShared (identity : Identity) (s : String) : Bool :=
  match identity with
  | .bound _ _ | .apart => false
  | .written _ => s.toList.all fun c => !"BCLST_abcdefhijklmnopqrstvwxy".toList.contains c
  | _ => true

/-- Whether there is only one object of this content. -/
def isUnique : Value → Bool
  | none | bool _ | builtin _ | tuple _ [] => true
  | int _ i => -5 ≤ i && i ≤ 256
  | bytes b => b.length ≤ 1
  | text identity s => s.isEmpty || (isShared identity s && s.length == 1 && s.toList.all fun c => c.toNat < 256)
  | _ => false

/-- An undefined value. -/
def isUndefined : Value → Bool
  | undefined _ _ => true
  | _ => false

end Value

end Courier.Language
