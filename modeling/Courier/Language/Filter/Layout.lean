import Courier.Language.Filter.Argument
import Courier.Language.Operation
import Courier.Language.Pretty
import Courier.Text.Wrap

/-!
The filters that lay out texts: indenting, cutting to a length, wrapping lines, laying out values, and filling the
places of a pattern. They put values together by the operators of the language, so that text which is marked as fit for
HTML stays so and what joins it is escaped.
-/

namespace Courier.Language

namespace Filter

open Courier.Text (Wrap.Rules Wrap.hasLong Wrap.lines)

/-- Texts of values between a separator; a marked separator marks the whole and escapes what is not marked. -/
def joinedBy (separator : Value) (parts : List Value) : Except Fault Value := do
  if isMarked separator then
    return .safeText (Text.join (← separator.toText) (← parts.mapM Method.escaped))
  else return .newText (Text.join (← separator.toText) (← parts.mapM Value.toText))

/-- A text, marked if a value is. -/
def markedLike (v : Value) (s : String) : Value := if isMarked v then .safeText s else .newText s

/-- The lines of a value that gets the end of a line. Only texts have lines. -/
def endedLines (v : Value) : Except Fault (List Value) :=
  match v with
  | .text _ s | .safeText s =>
    .ok ((Method.lines false [] (s.toList ++ ['\n'])).map fun cs => markedLike v (String.ofList cs))
  | .list _ _ => .error (.noAttribute v.typeName "splitlines")
  | .tuple _ _ => .error (.notJoinable "tuple" "str")
  | .bytes _ => .error (.wrongType "can't concat str to bytes")
  | .undefined m _ => .error (.undefined m)
  | _ => .error (.unsupportedOperands "+=" v.typeName "str")

/-- What stands in front of indented lines: a text, or a number of blanks. -/
def indentation (v width : Value) : Except Fault Value := do
  let plain ← if width.text?.isSome then pure width else Operation.binary .multiply (.newText " ") width
  if isMarked v then return .safeText (← plain.toText) else return plain

/-- A text with its lines indented, except the first one and the empty ones unless they are asked for. -/
def indented (v width : Value) (first blank : Bool) : Except Fault Value := do
  let front ← indentation v width
  let newline := markedLike v "\n"
  let lines ← endedLines v
  let body ←
    if blank then joinedBy (← Operation.binary .add newline front) lines
    else
      let rest ← (lines.drop 1).mapM fun line =>
        if line.isTrue then Operation.binary .add front line else pure line
      let head := argument lines 0
      if rest.isEmpty then pure head
      else Operation.binary .add head (← Operation.binary .add newline (← joinedBy newline rest))
  if first then Operation.binary .add front body else return body

/-- The allowance of a cut: a text that is longer by so many characters is left as it is. -/
def defaultLeeway : Value := .newInt 5

/-- What is in front of the last blank of a text. -/
def upToLastBlank (v : Value) : Except Fault Value :=
  match v with
  | .text _ s | .safeText s =>
    let cs := s.toList
    .ok (markedLike v (String.ofList ((Text.findLast [' '] cs).elim cs cs.take)))
  | .bytes _ => .error (.notBytes "str")
  | _ => .error (.noAttribute v.typeName "rsplit")

/-- A value cut to a length with an ending, inside of a word or in front of it. One that is hardly longer is left as it
is. -/
def truncated (v length : Value) (insideWords : Bool) (ending leeway : Value) : Except Fault Value := do
  let leeway := if leeway matches .none then defaultLeeway else leeway
  let least : Value := .newInt (← ending.length)
  if !(← Value.ordered .greaterEqual length least) then
    throw (Fault.notMet ("expected length >= " ++ (← least.toText) ++ ", got " ++ (← length.toText)))
  if !(← Value.ordered .greaterEqual leeway (.newInt 0)) then
    throw (Fault.notMet ("expected leeway >= 0, got " ++ (← leeway.toText)))
  let n ← v.length
  if ← Value.ordered .lessEqual (.newInt n) (← Operation.binary .add length leeway) then return v
  let part ← v.sliced .none (← Operation.binary .subtract length least) .none
  let part ← if insideWords then pure part else upToLastBlank part
  Operation.binary .add part ending

/-- The lines that one line of a text is wrapped to. A width that is no whole number is good as long as no word has to
be cut. -/
def wrappedLine (rules : Wrap.Rules) (width : Value) (cs : List Char) : Except Fault (List Value) := do
  if ← Value.ordered .lessEqual width (.newInt 0) then
    throw (Fault.wrongValue ("invalid width " ++ (← width.shown) ++ " (must be > 0)"))
  if width.int?.isNone && rules.cutsWords && rules.width != 0 && Wrap.hasLong rules cs then throw Fault.notSlicing
  return (Wrap.lines rules cs).map fun line => .newText (String.ofList line)

/-- The largest whole number of columns in a width. -/
def columns (width : Value) (cs : List Char) : Nat :=
  match width with
  | .float _ x => match Number.Binary64.ofFloat x with
    | .finite d => d.truncate.toNat
    | _ => cs.length
  | w => (w.int?.getD 0).toNat

/-- A text with its lines wrapped to a width. -/
def wrapped (v width : Value) (cutsWords : Bool) (separator hyphens : Value) : Except Fault Value := do
  let separator := if separator matches .none then .newText "\n" else separator
  match separator with
  | .text _ _ | .safeText _ => pure ()
  | .undefined m _ => throw (Fault.undefined m)
  | w => throw (Fault.noAttribute w.typeName "join")
  let cs ← match v with
    | .text _ s | .safeText s => pure s.toList
    | .bytes b =>
      if b.isEmpty then pure []
      else throw (Fault.wrongType "cannot use a string pattern on a bytes-like object")
    | .undefined m _ => throw (Fault.undefined m)
    | w => throw (Fault.noAttribute w.typeName "splitlines")
  let rules : Wrap.Rules :=
    ⟨columns width cs, hyphens matches .bool true, cutsWords, hyphens.isTrue⟩
  joinedBy separator (← (Method.lines false [] cs).mapM fun line => do
    joinedBy separator (← wrappedLine rules width line))

/-- A pattern with its places filled by arguments, which are given by position or by name. -/
def formatted (v : Value) (a : Arguments) : Except Fault Value := do
  if (entryOf? "value" a.named).isSome then
    throw (Fault.wrongType "do_format() got multiple values for argument 'value'")
  if !a.positional.isEmpty && !a.named.isEmpty then
    throw (Fault.malformed "can't handle positional and keyword arguments at the same time")
  let (s, _) ← softText v
  let pattern := match v with
    | .text _ _ => v
    | _ => markedLike v s
  Operation.binary .remainder pattern (if a.named.isEmpty then .newTuple a.positional
    else .newMap (a.named.map fun (n, w) => (.newText n, w)))

/-- The filters that lay out texts. -/
def ofLayout? (name : String) (v : Value) (a : Arguments) : Option (Except Fault Value) :=
  match name with
  | "format" => some (formatted v a)
  | "indent" => some <|
      bound "do_indent" 0 [required "s", optional "width" (.newInt 4), optional "first" (.bool false),
        optional "blank" (.bool false)] v a fun vs =>
      indented (argument vs 0) (argument vs 1) (argument vs 2).isTrue (argument vs 3).isTrue
  | "pprint" => some <| bound "do_pprint" 0 [required "value"] v a fun vs => do
      return .newText (← (argument vs 0).prettyText)
  | "truncate" => some <|
      bound "do_truncate" 1 [required "s", optional "length" (.newInt 255), optional "killwords" (.bool false),
        optional "end" (.newText "..."), optional "leeway" .none] v a fun vs =>
      truncated (argument vs 0) (argument vs 1) (argument vs 2).isTrue (argument vs 3) (argument vs 4)
  | "wordwrap" => some <|
      bound "do_wordwrap" 1 [required "s", optional "width" (.newInt 79), optional "break_long_words" (.bool true),
        optional "wrapstring" .none, optional "break_on_hyphens" (.bool true)] v a fun vs =>
      wrapped (argument vs 0) (argument vs 1) (argument vs 2).isTrue (argument vs 3) (argument vs 4)
  | _ => none

end Filter

end Courier.Language
