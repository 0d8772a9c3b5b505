import Courier.Language.Comparison
import Courier.Language.Shown

/-!
Access to the parts of values: attributes, items and slices. The outermost container has its present content. What is
not there is an undefined value that knows why, and never a fault by itself. Attributes whose names start with an
underscore are closed to programs.
-/

namespace Courier.Language

namespace Value

/-- The names of the methods of texts. -/
def textMethods : List String :=
  ["capitalize", "casefold", "center", "count", "encode", "endswith", "expandtabs", "find", "format",
    "format_map", "index", "isalnum", "isalpha", "isascii", "isdecimal", "isdigit", "isidentifier", "islower",
    "isnumeric", "isprintable", "isspace", "istitle", "isupper", "join", "ljust", "lower", "lstrip", "maketrans",
    "partition", "removeprefix", "removesuffix", "replace", "rfind", "rindex", "rjust", "rpartition", "rsplit",
    "rstrip", "split", "splitlines", "startswith", "strip", "swapcase", "title", "translate", "upper", "zfill"]

/-- The names of the methods of a value's type. -/
def methodNames : Value → List String
  | text _ _ => textMethods
  | safeText _ => "escape" :: "striptags" :: "unescape" :: textMethods
  | bytes _ =>
    ["capitalize", "center", "count", "decode", "endswith", "expandtabs", "find", "fromhex", "hex", "index", "isalnum",
      "isalpha", "isascii", "isdigit", "islower", "isspace", "istitle", "isupper", "join", "ljust", "lower", "lstrip",
      "maketrans", "partition", "removeprefix", "removesuffix", "replace", "rfind", "rindex", "rjust", "rpartition",
      "rsplit", "rstrip", "split", "splitlines", "startswith", "strip", "swapcase", "title", "translate", "upper",
      "zfill"]
  | int _ _ | bool _ => ["as_integer_ratio", "bit_count", "bit_length", "conjugate", "from_bytes", "to_bytes"]
  | float _ _ => ["as_integer_ratio", "conjugate", "fromhex", "hex", "is_integer"]
  | complex _ _ => ["conjugate"]
  | list _ _ => ["append", "clear", "copy", "count", "extend", "index", "insert", "pop", "remove", "reverse", "sort"]
  | tuple _ _ | range _ _ _ => ["count", "index"]
  | map _ _ =>
    ["clear", "copy", "fromkeys", "get", "items", "keys", "pop", "popitem", "setdefault", "update", "values"]
  | slice _ _ _ => ["indices"]
  | stream _ type _ => if type == "generator" then ["close", "send", "throw"] else []
  | view _ .values _ => []
  | view _ _ _ => ["isdisjoint"]
  | builtin .dict =>
    ["clear", "copy", "fromkeys", "get", "items", "keys", "pop", "popitem", "setdefault", "update", "values"]
  | record _ .loop _ => ["changed", "cycle"]
  | record _ .cycler _ => ["next", "reset"]
  | _ => []

/-- The closed attributes of every value. -/
def closedNames : List String :=
  ["__class__", "__delattr__", "__dir__", "__doc__", "__eq__", "__format__", "__ge__", "__getattribute__",
    "__getstate__", "__gt__", "__hash__", "__init__", "__init_subclass__", "__le__", "__lt__", "__ne__", "__new__",
    "__reduce__", "__reduce_ex__", "__repr__", "__setattr__", "__sizeof__", "__str__", "__subclasshook__"]

/-- The closed attributes of integers and truth values. -/
def closedNamesOfInt : List String :=
  ["__abs__", "__add__", "__and__", "__bool__", "__ceil__", "__divmod__", "__float__", "__floor__", "__floordiv__",
    "__getnewargs__", "__index__", "__int__", "__invert__", "__lshift__", "__mod__", "__mul__", "__neg__", "__or__",
    "__pos__", "__pow__", "__radd__", "__rand__", "__rdivmod__", "__rfloordiv__", "__rlshift__", "__rmod__",
    "__rmul__", "__ror__", "__round__", "__rpow__", "__rrshift__", "__rshift__", "__rsub__", "__rtruediv__",
    "__rxor__", "__sub__", "__truediv__", "__trunc__", "__xor__"]

/-- The closed attributes of floats. -/
def closedNamesOfFloat : List String :=
  ["__abs__", "__add__", "__bool__", "__ceil__", "__divmod__", "__float__", "__floor__", "__floordiv__",
    "__getformat__", "__getnewargs__", "__int__", "__mod__", "__mul__", "__neg__", "__pos__", "__pow__", "__radd__",
    "__rdivmod__", "__rfloordiv__", "__rmod__", "__rmul__", "__round__", "__rpow__", "__rsub__", "__rtruediv__",
    "__sub__", "__truediv__", "__trunc__"]

/-- The closed attributes of sequences. -/
def closedNamesOfSequence : List String :=
  ["__add__", "__contains__", "__getitem__", "__iter__", "__len__", "__mul__", "__rmul__"]

/-- The closed attributes that undefined values have of their own. -/
def closedNamesOfUndefined : List String :=
  ["__add__", "__aiter__", "__bool__", "__call__", "__complex__", "__div__", "__float__", "__floordiv__",
    "__getattr__", "__getitem__", "__int__", "__iter__", "__len__", "__mod__", "__module__", "__mul__", "__neg__",
    "__pos__", "__pow__", "__radd__", "__rdiv__", "__rfloordiv__", "__rmod__", "__rmul__", "__rpow__", "__rsub__",
    "__rtruediv__", "__slots__", "__sub__", "__truediv__", "_fail_with_undefined_error", "_undefined_exception",
    "_undefined_hint", "_undefined_message", "_undefined_name", "_undefined_obj"]

/-- The closed attributes of functions. -/
def closedNamesOfFunction : List String :=
  ["__annotations__", "__builtins__", "__call__", "__closure__", "__code__", "__defaults__", "__dict__", "__get__",
    "__globals__", "__kwdefaults__", "__module__", "__name__", "__qualname__"]

/-- The closed attributes of types. -/
def closedNamesOfType : List String :=
  ["__base__", "__bases__", "__basicsize__", "__call__", "__dict__", "__dictoffset__", "__flags__",
    "__instancecheck__", "__itemsize__", "__module__", "__mro__", "__name__", "__or__", "__prepare__",
    "__qualname__", "__ror__", "__subclasscheck__", "__subclasses__", "__text_signature__", "__weakrefoffset__",
    "mro"]

/-- The closed attributes of maps. -/
def closedNamesOfMap : List String :=
  ["__class_getitem__", "__contains__", "__delitem__", "__getitem__", "__ior__", "__iter__", "__len__", "__or__",
    "__reversed__", "__ror__", "__setitem__"]

/-- The closed attributes of objects with named fields. -/
def closedNamesOfRecord : RecordKind → List String
  | .loop =>
    ["__annotations__", "__call__", "__dict__", "__iter__", "__len__", "__module__", "__next__", "__weakref__",
      "_after", "_before", "_current", "_iterable", "_iterator", "_last_changed_value", "_length", "_peek_next",
      "_recurse", "_to_iterator", "_undefined"]
  | .namespaceOf => []
  | .cycler => ["__dict__", "__module__", "__next__", "__weakref__"]
  | .joiner => ["__call__", "__dict__", "__module__", "__weakref__"]
  | .definition =>
    ["__call__", "__dict__", "__module__", "__weakref__", "_argument_count", "_async_invoke", "_default_autoescape",
      "_environment", "_func", "_invoke"]
  | .block => ["__call__", "__dict__", "__module__", "__weakref__", "_async_call", "_context", "_depth", "_stack"]

/-- The closed attributes that the values of a type have beside those of every value. -/
def closedNamesOf : Value → List String
  | text _ _ => closedNamesOfSequence ++ ["__getnewargs__", "__mod__", "__rmod__"]
  | safeText _ => closedNamesOfSequence ++
      ["__getnewargs__", "__mod__", "__rmod__", "__radd__", "__html__", "__html_format__", "__module__", "__slots__"]
  | bytes _ => closedNamesOfSequence ++ ["__bytes__", "__getnewargs__", "__mod__", "__rmod__"]
  | int _ _ | bool _ => closedNamesOfInt
  | float _ _ => closedNamesOfFloat
  | complex _ _ =>
    ["__abs__", "__add__", "__bool__", "__complex__", "__getnewargs__", "__mul__", "__neg__", "__pos__", "__pow__",
      "__radd__", "__rmul__", "__rpow__", "__rsub__", "__rtruediv__", "__sub__", "__truediv__"]
  | none => ["__bool__"]
  | list _ _ => closedNamesOfSequence ++
      ["__class_getitem__", "__delitem__", "__iadd__", "__imul__", "__reversed__", "__setitem__"]
  | tuple names _ => closedNamesOfSequence ++ ["__class_getitem__", "__getnewargs__"] ++
      if names.isEmpty then [] else
        ["__annotations__", "__match_args__", "__module__", "__orig_bases__", "__slots__", "_asdict", "_field_defaults",
          "_fields", "_make", "_replace"]
  | map _ _ => closedNamesOfMap
  | range _ _ _ =>
    ["__bool__", "__contains__", "__getitem__", "__iter__", "__len__", "__reversed__"]
  | stream _ type _ =>
    if type == "generator" then ["__del__", "__iter__", "__name__", "__next__", "__qualname__", "gi_code", "gi_frame"]
    else if type.startsWith "dict" then ["__iter__", "__length_hint__", "__next__"]
    else ["__iter__", "__length_hint__", "__next__", "__setstate__"]
  | view _ .values _ => ["__iter__", "__len__", "__reversed__"]
  | view _ _ _ =>
    ["__and__", "__contains__", "__iter__", "__len__", "__or__", "__rand__", "__reversed__", "__ror__", "__rsub__",
      "__rxor__", "__sub__", "__xor__"]
  | method (record _ _ _) _ => "__func__" :: "__self__" :: closedNamesOfFunction
  | method _ _ => ["__call__", "__module__", "__name__", "__qualname__", "__self__", "__text_signature__"]
  | undefined _ chained => if chained then "__html__" :: closedNamesOfUndefined else closedNamesOfUndefined
  | builtin .dict => closedNamesOfMap ++ closedNamesOfType
  | builtin .cycler => closedNamesOfRecord .cycler ++ closedNamesOfType
  | builtin .joiner => closedNamesOfRecord .joiner ++ closedNamesOfType
  | builtin .namespaceOf => ["__setitem__", "__weakref__"] ++ closedNamesOfType
  | builtin .template => ["_TemplateReference__context", "__dict__", "__getitem__", "__module__", "__weakref__"]
  | builtin _ => closedNamesOfFunction
  | record _ kind _ => closedNamesOfRecord kind
  | slice _ _ _ | cycle _ _ _ => []

/-- Whether an attribute of a value is closed to programs. A namespace has few attributes but its fields. -/
def isClosed (v : Value) (name : String) : Bool :=
  match v with
  | record _ .namespaceOf fields =>
    name == "__class__" || name == "_Namespace__attrs" || (name.startsWith "_" && (entryOf? name fields).isSome)
  | _ => closedNames.contains name || v.closedNamesOf.contains name

/-- The number parts that numbers have as attributes. -/
def numberPart? (v : Value) (name : String) : Option Value :=
  match v, name with
  | float identity x, "real" => some (float identity x)
  | float _ _, "imag" => some (newFloat 0)
  | complex x _, "real" => some (newFloat x)
  | complex _ y, "imag" => some (newFloat y)
  | _, "real" | _, "numerator" => v.asInt?
  | _, "imag" => v.int?.map fun _ => newInt 0
  | _, "denominator" => v.int?.map fun _ => newInt 1
  | _, _ => Option.none

/-- How messages about missing parts name a value. -/
def described : Value → String
  | none => "None"
  | safeText _ => "markupsafe.Markup object"
  | record _ .loop _ => "jinja2.runtime.LoopContext object"
  | record _ .namespaceOf _ => "jinja2.utils.Namespace object"
  | record _ .cycler _ => "jinja2.utils.Cycler object"
  | record _ .joiner _ => "jinja2.utils.Joiner object"
  | record _ .definition _ => "jinja2.runtime.Macro object"
  | record _ .block _ => "jinja2.runtime.BlockReference object"
  | builtin .template => "jinja2.runtime.TemplateReference object"
  | undefined _ chained => "jinja2.runtime." ++ (if chained then "ChainableUndefined" else "Undefined") ++ " object"
  | v => v.typeName ++ " object"

/-- The undefined value of a name that stands for nothing. -/
def noName (chained : Bool) (name : String) : Value :=
  undefined (Text.quoted name ++ " is undefined") chained

/-- The undefined value of a missing attribute. -/
def noAttribute (chained : Bool) (v : Value) (name : String) : Value :=
  undefined (Text.quoted v.described ++ " has no attribute " ++ Text.quoted name) chained

/-- The undefined value of a missing item. A key that is a text is named as an attribute. -/
def noItem (chained : Bool) (v key : Value) : Except Fault Value := do
  let shown ← key.shown
  return undefined (if key.text?.isSome then Text.quoted v.described ++ " has no attribute " ++ shown
    else v.described ++ " has no element " ++ shown) chained

/-- The undefined value of a closed attribute. -/
def closed (chained : Bool) (v : Value) (shown : String) : Value :=
  undefined ("access to attribute " ++ shown ++ " of " ++ Text.quoted v.typeName ++ " object is unsafe.") chained

/-- Whether a stream has handed out an item and can hand out more. -/
def isSuspended : Cursor → Bool
  | .done | .busy | .waiting _ => false
  | .through _ _ _ _ source => isSuspended source
  | _ => true

/-- The attribute of an object that is no map, if there is one. -/
def attribute? (chained : Bool) (v : Value) (name : String) : Option Value :=
  if v.isClosed name then some (closed chained v (Text.quoted name))
  else if v.methodNames.contains name then some (method v name)
  else
    match v, v.numberPart? name with
    | _, some part => some part
    | record _ _ fields, Option.none => if name.startsWith "_" then Option.none else entryOf? name fields
    | tuple names items, Option.none => ((names.zip items).find? (·.1 == name)).map (·.2)
    | range start stop step, Option.none =>
      if name == "start" then some (newInt start)
      else if name == "stop" then some (newInt stop)
      else if name == "step" then some (newInt step)
      else Option.none
    | slice start stop step, Option.none =>
      if name == "start" then some start
      else if name == "stop" then some stop
      else if name == "step" then some step
      else Option.none
    | stream _ "generator" left, Option.none =>
      if name == "gi_running" then some (bool false)
      else if name == "gi_suspended" then some (bool (isSuspended left))
      else if name == "gi_yieldfrom" then some none
      else Option.none
    | _, Option.none => Option.none

/-- The attribute of a value. A map answers with the value of the key of that name alone. -/
def attributeOf (chained : Bool) (v : Value) (name : String) : Except Fault Value :=
  match v with
  | map _ entries => .ok ((lookup (newText name) entries).getD (noAttribute chained v name))
  | undefined message isChained =>
    match attribute? chained v name with
    | some closed => .ok closed
    | Option.none => if isChained then .ok v else .error (.undefined message)
  | _ => .ok ((attribute? chained v name).getD (noAttribute chained v name))

/-- A position counted from the end if it is negative. -/
def position? (length : Nat) (i : Int) : Option Nat :=
  let j := if i < 0 then i + length else i
  if 0 ≤ j && j < length then some j.toNat else Option.none

/-- An item of a list at a position. -/
def at? {α : Type} (items : List α) (i : Int) : Option α :=
  (position? items.length i).bind fun n => items[n]?

/-! ### Slices -/

/-- A bound of a slice: absent or an integer. -/
def bound? : Value → Except Fault (Option Int)
  | none => .ok Option.none
  | v => match v.int? with
    | some i => .ok (some i)
    | Option.none => .error .notSlicing

/-- Moves a bound that is counted from the end and keeps it between two limits. -/
def clamp (length low high : Int) (i : Int) : Int :=
  let j := if i < 0 then i + length else i
  if j < low then low else if high < j then high else j

/-- The first position, the end and the step of a slice of a sequence. -/
def sliceBounds (length : Nat) (start stop step : Value) : Except Fault (Int × Int × Int) := do
  let step := (← bound? step).getD 1
  if step == 0 then throw (Fault.wrongValue "slice step cannot be zero")
  let low : Int := if step < 0 then -1 else 0
  let high : Int := if step < 0 then length - 1 else length
  let first := (← bound? start).elim (if step < 0 then high else low) (clamp length low high)
  let last := (← bound? stop).elim (if step < 0 then low else high) (clamp length low high)
  return (first, last, step)

/-- The items at the positions of a slice. -/
def sliceItems {α : Type} (items : List α) (start stop step : Value) : Except Fault (List α) := do
  let (first, last, step) ← sliceBounds items.length start stop step
  if step == 1 then return (items.drop first.toNat).take (last - first).toNat
  let held := items.toArray
  return (List.range (rangeLength first last step)).filterMap fun (n : Nat) => held[(first + step * (n : Int)).toNat]?

/-- A slice of a settled value. -/
def sliced (v start stop step : Value) : Except Fault Value :=
  match v with
  | text identity s => do
    if (← sliceBounds s.length start stop step) == (0, (s.length : Int), 1) then return text identity s
    return newText (String.ofList (← sliceItems s.toList start stop step))
  | safeText s => do return safeText (String.ofList (← sliceItems s.toList start stop step))
  | bytes b => do return bytes (← sliceItems b start stop step)
  | list _ items => do return newList (← sliceItems items start stop step)
  | tuple _ items => do return newTuple (← sliceItems items start stop step)
  | range a b c => do
    let (first, last, by') ← sliceBounds (rangeLength a b c) start stop step
    return range (a + c * first) (a + c * last) (c * by')
  | map _ _ => .error (.unhashable "slice")
  | undefined message chained => if chained then .ok v else .error (.undefined message)
  | builtin .dict => .error (.wrongType "type 'dict' is not subscriptable")
  | _ => .error (.notSubscriptable v.typeName)

/-! ### Items -/

/-- The item of a value, if it has one of that key. A key of the wrong type is a missing one. -/
def item? (v key : Value) : Option Value :=
  match v, key with
  | _, slice start stop step => (sliced v start stop step).toOption
  | text _ s, _ => do
    let c ← at? s.toList (← key.int?)
    some (newText (String.singleton c))
  | safeText s, _ => do
    let c ← at? s.toList (← key.int?)
    some (safeText (String.singleton c))
  | bytes b, _ => do
    let n ← at? b (← key.int?)
    some (newInt n.toNat)
  | list _ items, _ | tuple _ items, _ => do at? items (← key.int?)
  | range start stop step, _ => do
    let n ← position? (rangeLength start stop step) (← key.int?)
    some (newInt (start + step * (n : Int)))
  | map _ entries, _ => if key.unhashable?.isSome then Option.none else lookup key entries
  | _, _ => Option.none

/-- The item of a value. A missing item that is named by a text may be an attribute. -/
def item (chained : Bool) (v key : Value) : Except Fault Value :=
  match v with
  | undefined message isChained => if isChained then .ok v else .error (.undefined message)
  | _ =>
    match item? v key, key.text? with
    | some found, _ => .ok found
    | Option.none, some name =>
      if v.isClosed name then do return closed chained v (← key.shown)
      else match attribute? chained v name with
        | some found => .ok found
        | Option.none => noItem chained v key
    | Option.none, Option.none => noItem chained v key

/-! ### Iteration and length -/

/-- An entry of a map as a view of some kind shows it. -/
def ofEntry (kind : ViewKind) (k v : Value) : Value :=
  match kind with
  | .keys => k
  | .values => v
  | .items => newTuple [k, v]

/-- The items that a value hands out one by one, and the fault that ends them. What is left of a stream was read
before. -/
def iterate : Value → Except Fault (List Value × Option Fault)
  | text _ s | safeText s => .ok (s.toList.map fun c => newText (String.singleton c), Option.none)
  | bytes b => .ok (b.map fun n => newInt n.toNat, Option.none)
  | tuple _ items | list _ items => .ok (items, Option.none)
  | map _ entries => .ok (entries.map (·.1), Option.none)
  | range start stop step => .ok (rangeItems start stop step, Option.none)
  | stream _ _ (.fixed items fault) => .ok (items, fault)
  | view _ kind (map _ entries) => .ok (entries.map fun (k, v) => ofEntry kind k v, Option.none)
  | builtin .template => .ok ([], some (.missingKey "0"))
  | undefined _ _ | cycle _ _ _ | view _ _ _ | stream _ _ _ => .ok ([], Option.none)
  | v => .error (.notIterable v.typeName)

/-- All items of a value. -/
def items (v : Value) : Except Fault (List Value) := do
  match ← v.iterate with
  | (items, Option.none) => return items
  | (_, some fault) => throw fault

/-- The number of items of a value. -/
def length : Value → Except Fault Nat
  | text _ s | safeText s => .ok s.length
  | bytes b => .ok b.length
  | tuple _ items | list _ items => .ok items.length
  | map _ entries | view _ _ (map _ entries) => .ok entries.length
  | range start stop step => .ok (rangeLength start stop step)
  | undefined _ _ => .ok 0
  | record _ .loop fields => .ok (loopLength fields).toNat
  | v => .error (.noLength v.typeName)

/-- Whether a value holds another: a part of a text, a key of a map, an item of anything else. -/
def holds (container v : Value) : Except Fault Bool :=
  match container with
  | text _ s | safeText s => match v.text? with
    | some t => .ok (Text.contains s t)
    | Option.none => .error (.notSearchable v.typeName)
  | bytes b => match v, v.int? with
    | bytes part, _ => .ok (Text.contains (Courier.Text.latin1 b) (Courier.Text.latin1 part))
    | _, some i =>
      if 0 ≤ i && i < 256 then .ok (b.any fun n => (n.toNat : Int) == i)
      else .error (.wrongValue "byte must be in range(0, 256)")
    | _, Option.none => .error (.notBytes v.typeName)
  | map _ entries | view _ .keys (map _ entries) => do return (lookup (← asKey v) entries).isSome
  | view _ .items (map _ entries) =>
    match v with
    | tuple _ [k, w] => do return (lookup (← asKey k) entries).any (alike w)
    | _ => .ok false
  | range start stop step => .ok ((rangeItems start stop step).any (same v))
  | _ =>
    match container.iterate with
    | .ok (items, fault) =>
      if items.any (alike v) then .ok true
      else match fault with
        | some f => .error f
        | Option.none => .ok false
    | .error _ => .error (.notContainer container.typeName)

end Value

end Courier.Language
