import Courier.Language.Method
import Courier.Language.Assignment
import Courier.Language.Placeholder.Filling

/-!
Calls. What is called gets arguments that have come to rest, so that a container which a method keeps is the one that
the caller named. A change that a method makes is recorded even where the method fails afterwards.
-/

namespace Courier.Language

namespace Eval

/-- What a path of keys stands for. -/
def followPath (path : String) : Eval Value := do
  match Path.segments path with
  | [] => return .none
  | first :: rest =>
    match ← pathRoot first with
    | none => return .none
    | some v => return (← lift (Path.walk rest (← settled v))).getD .none

/-- The largest range that a program may make. -/
def rangeLimit : Nat := 100000

/-- A range of integers. -/
def makeRange (a : Arguments) : Except Fault Value := do
  match a.named with
  | (n, _) :: _ => throw (Fault.wrongType ("safe_range() got an unexpected keyword argument " ++ Text.quoted n))
  | [] => pure ()
  let bounds ← match a.positional with
    | [] => throw (Fault.wrongType "range expected at least 1 argument, got 0")
    | [stop] => do pure (0, ← Method.integer stop, (1 : Int))
    | [start, stop] => do pure (← Method.integer start, ← Method.integer stop, 1)
    | [start, stop, step] => do pure (← Method.integer start, ← Method.integer stop, ← Method.integer step)
    | vs => throw (Fault.wrongType ("range expected at most 3 arguments, got " ++ toString vs.length))
  let (start, stop, step) := bounds
  if step == 0 then throw (Fault.wrongValue "range() arg 3 must not be zero")
  let length := Value.rangeLength start stop step
  if Nat.pow 2 63 ≤ length then throw .lengthTooLarge
  if rangeLimit < length then throw (.rangeTooLarge rangeLimit)
  return .range start stop step

/-- A map made of a map or of pairs, and of arguments by name. -/
def makeMap (a : Arguments) : Except Fault (List (Value × Value)) := do
  if 1 < a.positional.length then
    throw (Fault.wrongType ("dict expected at most 1 argument, got " ++ toString a.positional.length))
  let pairs ← match a.positional with
    | v :: _ => Method.entriesOf v
    | [] => pure []
  return Value.putKeys (Method.namedEntries a.named) (Value.putKeys pairs [])

/-- A value that a map is made of, with its pairs read to their ends. -/
def pairSource (v : Value) : Eval Value := do
  match ← drained stepLimit v with
  | .stream identity type (.fixed items fault) =>
    return .stream identity type (.fixed (← items.mapM (drained stepLimit)) fault)
  | .list identity items => return .list identity (← items.mapM (drained stepLimit))
  | .tuple _ items => return .newTuple (← items.mapM (drained stepLimit))
  | w => return w

/-- Arguments for something that makes a map of the positional ones. -/
def pairArguments (a : Arguments) : Eval Arguments := do
  return { (← settledArguments a) with positional := ← a.positional.mapM pairSource }

/-- The words that filling text is made of. -/
def fillingWords : List String := ["lorem", "ipsum", "dolor", "sit", "amet", "consectetuer", "adipiscing", "elit"]

/-- A paragraph of filling text with so many words. Which words they are is left open. -/
def fillingParagraph (count : Nat) : String :=
  let words := (List.range count).map fun i =>
    let word := fillingWords.getD (i % fillingWords.length) ""
    if i == 0 then Courier.Text.capitalize word else word
  Text.join " " words ++ "."

/-- Filling text: paragraphs with at least so many words and fewer than a limit, marked up for HTML or with empty lines
between them. -/
def fillingText (a : Arguments) : Except Fault Value := do
  let vs ← (Signature.ofNamed "generate_lorem_ipsum" 0 [optional "n" (.newInt 5), optional "html" (.bool true),
    optional "min" (.newInt 20), optional "max" (.newInt 100)]).accept a
  let count ← Method.integer (argument vs 0)
  let paragraph ← if count ≤ 0 then pure "" else do
    let least ← Method.integer (argument vs 2)
    let limit ← Method.integer (argument vs 3)
    if limit ≤ least then
      throw (Fault.wrongValue ("empty range for randrange() (" ++ Int.repr least ++ ", " ++ Int.repr limit ++ ", " ++
        Int.repr (limit - least) ++ ")"))
    if lengthLimit < least.toNat * count.toNat then throw Fault.tooLarge
    pure (fillingParagraph least.toNat)
  let paragraphs := List.replicate count.toNat paragraph
  if (argument vs 1).isTrue then
    return .safeText (Text.join "\n" (paragraphs.map fun p => "<p>" ++ p ++ "</p>"))
  else return .newText (Text.join "\n\n" paragraphs)

/-- Calls what every program can name. -/
def callBuiltin (what : Builtin) (a : Arguments) : Eval Value := do
  match what with
  | .range => lift (makeRange a)
  | .dict => return .newMap (← lift (makeMap (← pairArguments a)))
  | .namespaceOf => do
    let entries ← lift (makeMap (← pairArguments a))
    return .record .loose .namespaceOf (entries.filterMap fun (k, v) => k.text?.map fun n => (n, v))
  | .cycler =>
    match a.positional with
    | [] => throw (.wrongType "at least one item has to be provided")
    | first :: _ =>
      return .record .loose .cycler [("items", .newTuple a.positional), ("pos", .newInt 0), ("current", first)]
  | .joiner => do
    let vs ← lift ((Signature.ofNamed "Joiner.__init__" 1 [optional "sep" (.newText ", ")]).accept a)
    return .record .loose .joiner [("sep", argument vs 0), ("used", .bool false)]
  | .pathLookup => do
    let vs ← lift ((Signature.ofNamed "_lookup" 1 [required "path"]).accept a)
    match (argument vs 0).text? with
    | some path => followPath path
    | none => throw (.noAttribute (argument vs 0).typeName "split")
  | .lipsum => lift (fillingText (← settledArguments a))
  | .template => throw (.notCallable "TemplateReference")

/-- Calls a method of a loop. -/
def callLoop (identity : Identity) (name : String) (a : Arguments) : Eval Value := do
  match a.named with
  | (n, _) :: _ =>
    throw (.wrongType ("LoopContext." ++ name ++ "() got an unexpected keyword argument " ++ Text.quoted n))
  | [] => pure ()
  if name == "cycle" then
    if a.positional.isEmpty then throw (.wrongType "no items for cycling given")
    return argument a.positional ((← loopIndex identity).toNat % a.positional.length)
  else
    let before := entryOf? "_last_changed_value" (← loopFields identity)
    let now ← settled (.newTuple a.positional)
    match before with
    | some v =>
      if Value.same (← settled v) now then return .bool false
    | none => pure ()
    setLoopField identity "_last_changed_value" (.newTuple a.positional)
    return .bool true

/-- Calls a method of a cycler. -/
def callCycler (identity : Identity) (fields : List (String × Value)) (name : String) : Eval Value := do
  let place := ((fieldOf fields "pos").int?.getD 0).toNat
  match fieldOf fields "items" with
  | .tuple _ items =>
    let next := if name == "next" then (place + 1) % max items.length 1 else 0
    record identity (.record identity .cycler
      [("items", .newTuple items), ("pos", .newInt next), ("current", argument items next)])
    return if name == "next" then argument items place else .none
  | v => return v

/-- Calls a method of the items that a filter hands out. They take no values in return, and nothing is thrown at
them. -/
def callStream (owner : Value) (left : Cursor) (name : String) (a : Arguments) : Eval Value := do
  match name with
  | "close" =>
    lift (Method.noArguments "generator" name a)
    owner.identity?.forM fun identity => leave identity (.stream identity "generator" .done)
    return .none
  | "send" =>
    let v ← lift (Method.oneArgument "generator" name a)
    let isNew := match left with
      | .done | .busy => false
      | _ => !Value.isSuspended left
    if isNew && !(v matches .none) then
      throw (.wrongType "can't send non-None value to a just-started generator")
    match ← advance stepLimit (if owner.identity? == some .loose then left else .shared owner) with
    | some (item, _) => return item
    | none => throw (.unsteady "generator raised StopIteration")
  | _ =>
    let vs ← lift (Method.between "generator" name 1 3 a)
    throw (.wrongType ("exceptions must be classes or instances deriving from BaseException, not " ++
      (argument vs 0).typeName))

/-- Methods that read the streams among their arguments. -/
def consuming : List String := ["extend", "fromkeys", "isdisjoint", "join"]

/-- Calls a method of a value that is no record. -/
def callMethod (owner : Value) (name : String) (a : Arguments) : Eval Value := do
  let a ←
    if name == "update" then pairArguments a
    else if consuming.contains name then do
      pure { (← settledArguments a) with positional := ← a.positional.mapM (drained stepLimit) }
    else settledArguments a
  let effect := Method.call (← settled owner) name a
  match effect.change, effect.change.bind (·.identity?) with
  | some changed, some identity => record identity changed
  | _, _ => pure ()
  lift effect.outcome

/-- A text as the value of a body that was collected. -/
def markedIf (isMarked : Bool) (text : String) : Value := if isMarked then .safeText text else .newText text

/-- The text of a body that was put aside. That of a loop is marked as fit for HTML if texts are made so where the loop
stands, that of any other body if they are made so by now. -/
def callBody (identity : Identity) (a : Arguments) : Eval Value := do
  let p ← procedureOf? identity
  let text ← lift (← perform identity a).joined
  let isMarked ← match p with
    | some (.recursion r) => escapesIn r.place.escaping
    | _ => do pure (← read).manner.escaping
  return markedIf isMarked text

/-- Calls a value. -/
def call (callee : Value) (a : Arguments) : Eval Value := do
  match ← present callee with
  | .method (.record identity .loop _) name => callLoop identity name a
  | .method owner name =>
    match ← present owner with
    | .record identity .cycler fields => callCycler identity fields name
    | .stream identity type _ => do
      let stream := (← remaining identity).getD owner
      match stream with
      | .stream _ _ left => callStream stream left name a
      | _ => throw (.noAttribute type name)
    | w =>
      if w.text?.isSome && Value.isFilling name then callFilling w (name == "format_map") a
      else callMethod owner name a
  | .builtin what => callBuiltin what a
  | .undefined message _ => throw (.undefined message)
  | .record identity .joiner fields =>
    if (fieldOf fields "used").isTrue then return fieldOf fields "sep"
    else
      record identity (.record identity .joiner (putEntry "used" (.bool true) fields))
      return .newText ""
  | .record identity .loop _ => do
    let vs ← lift ((Signature.ofNamed "LoopContext.__call__" 1 [required "iterable"]).accept a)
    match ← procedureOf? identity with
    | some _ => callBody identity ⟨vs, []⟩
    | none => throw (.wrongType "The loop must have the 'recursive' marker to be called recursively.")
  | .record identity .definition _ => callBody identity a
  | .record identity .block _ => do
    let _ ← lift ((Signature.ofNamed "BlockReference.__call__" 1 []).accept a)
    callBody identity .empty
  | v => throw (.notCallable v.typeName)

end Eval

end Courier.Language
