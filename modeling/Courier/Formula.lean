import Courier.Language.Grammar
import Courier.Template.Render

/-!
Formulas: expressions with typed results. A formula may be wrapped as a whole in a pair of double braces. A result that
is a text with double braces in it is rendered as a template.
-/

namespace Courier.Formula

open Courier.Language

/-- Whether a text starts with the braces that open or close a tag. -/
def isBraces : List Char → Bool
  | '\x7b' :: '\x7b' :: _ | '\x7d' :: '\x7d' :: _ => true
  | _ => false

/-- A text up to the first braces of a tag, and the rest. -/
def upToBraces : List Char → List Char × List Char
  | [] => ([], [])
  | c :: cs =>
    if isBraces (c :: cs) then ([], c :: cs)
    else let (first, rest) := upToBraces cs; (c :: first, rest)

/-- What a pair of double braces around the whole text holds. -/
def unwrapped? (cs : List Char) : Option (List Char) := do
  let inner ← Template.Tag.after? ['\x7b', '\x7b'] (cs.dropWhile Text.isBlank)
  let (content, rest) := upToBraces inner
  let rest ← Template.Tag.after? ['\x7d', '\x7d'] rest
  if rest.all Text.isBlank then some content else none

/-- The expression that a formula consists of, without blanks at its ends. -/
def content (source : String) : String :=
  Text.trim ((unwrapped? source.toList).elim source String.ofList)

/-- The expression of a formula, ready to run. -/
def compile (content : String) : Except Fault Expression := do
  let e ← Constant.ready (.outermost false) false (← Grammar.parseExpression content)
  Program.checkListing ⟨[.assign (.name "result") e], []⟩
  return e

/-- The value of an expression on the context that a value stands for. -/
def valueOf (content : String) (data : Value) (memory : Memory) : Except Fault Value × Memory :=
  match compile content with
  | .error f => (.error f, memory)
  | .ok e =>
    match Context.ofValue (memory.settle data) with
    | .error f => (.error f, memory)
    | .ok context => e.run context.find memory

/-- Whether a text holds the opening braces of a tag. -/
def hasTag (s : String) : Bool := Text.contains s "\x7b\x7b"

/-- The value of a formula on the context that a value stands for. -/
def evaluate (source : String) (data : Value) (memory : Memory) : Except Failure Value × Memory :=
  if (content source).isEmpty then (.error (.formula source "empty expression"), memory)
  else
    match valueOf (content source) data memory with
    | (.error f, memory) => (.error (.ofFormula source f), memory)
    | (.ok v, memory) =>
      match v.text? with
      | some s =>
        if hasTag s then
          let (result, memory) := Template.render s data memory
          (match result with
            | .ok text => .ok (.newText text)
            | .error (.template _ message) => .error (.formula source message)
            | .error failure => .error failure, memory)
        else (.ok v, memory)
      | none => (.ok v, memory)

end Courier.Formula
