import Courier.Text.Property
import Courier.Text.Quoted

/-!
Tags of a single name in templates: a name in double braces, with or without an ampersand before it, or in triple
braces. A template is cut at its tags, and the tags are written out as look-ups of key paths, so that the language of
templates needs to know nothing about them.
-/

namespace Courier.Template

/-- The name under which templates look up key paths. -/
def lookupName : String := "__rb_path__"

namespace Tag

/-- Characters of names. -/
def isNameChar (c : Char) : Bool := !Text.isBlank c && c != '\x7b' && c != '\x7d'

/-- Characters that a name in double braces cannot start with. -/
def marks : List Char := ['#', '^', '/', '!', '>', '=', '&', '\'', '"']

/-- The rest of a text behind some characters that it has to start with. -/
def after? (expected cs : List Char) : Option (List Char) :=
  if expected.isPrefixOf cs then some (cs.drop expected.length) else none

/-- A name up to the braces that close its tag, and the rest. -/
def nameBefore? (closing cs : List Char) : Option (List Char × List Char) :=
  let cs := cs.dropWhile Text.isBlank
  let name := cs.takeWhile isNameChar
  if name.isEmpty then none
  else (after? closing ((cs.dropWhile isNameChar).dropWhile Text.isBlank)).map fun rest => (name, rest)

/-- The tag in triple braces that a text starts with: its name and the rest. -/
def triple? (cs : List Char) : Option (List Char × List Char) :=
  (after? ['\x7b', '\x7b', '\x7b'] cs).bind (nameBefore? ['\x7d', '\x7d', '\x7d'])

/-- The rest of a text behind blanks and an ampersand, if it has one. -/
def skipAmpersand (cs : List Char) : List Char :=
  match cs.dropWhile Text.isBlank with
  | '&' :: rest => rest
  | _ => cs

/-- The tag in double braces that a text starts with: its name and the rest. -/
def double? (cs : List Char) : Option (List Char × List Char) := do
  let inner ← after? ['\x7b', '\x7b'] cs
  let (name, rest) ← nameBefore? ['\x7d', '\x7d'] (skipAmpersand inner)
  if marks.contains (name.head?.getD '#') then none else some (name, rest)

/-- The tag that a text starts with: its name and the rest. -/
def at? (cs : List Char) : Option (List Char × List Char) := (triple? cs).orElse fun _ => double? cs

end Tag

/-- A piece of a template. -/
inductive Segment
  | text (content : List Char)
  | tag (name : List Char)
  deriving DecidableEq, Repr

/-- Cuts a template at its tags, the leftmost first; `before` is the text before the present place, in reverse. -/
def cutFrom : Nat → List Char → List Char → List Segment
  | 0, before, cs => [.text (before.reverse ++ cs)]
  | _ + 1, before, [] => [.text before.reverse]
  | fuel + 1, before, c :: cs =>
    match Tag.at? (c :: cs) with
    | some (name, rest) => .text before.reverse :: .tag name :: cutFrom fuel [] rest
    | none => cutFrom fuel (c :: before) cs

/-- The pieces of a template: texts, with a tag between one text and the next. -/
def cut (source : List Char) : List Segment := cutFrom (source.length + 1) [] source

/-- An output of the language. -/
def outputOf (content : List Char) : List Char := ['\x7b', '\x7b', ' '] ++ content ++ [' ', '\x7d', '\x7d']

/-- The look-up of a key path. -/
def lookupOf (name : List Char) : List Char :=
  outputOf (lookupName.toList ++ '(' :: (Text.asciiJsonString (String.ofList name)).toList ++ [')'])

/-- A text before a tag. The braces at its end would be read as part of the tag, so they are put out as a text. -/
def guarded (content : List Char) : List Char :=
  let plain := Text.dropTrailingList (· == '\x7b') content
  if plain.length < content.length then
    plain ++ outputOf (Text.asciiJsonString (String.ofList (content.drop plain.length))).toList
  else content

/-- The pieces of a template with every tag written out. -/
def writeOut : List Segment → List Char
  | [] => []
  | .text content :: .tag name :: rest => guarded content ++ lookupOf name ++ writeOut rest
  | .text content :: rest => content ++ writeOut rest
  | .tag name :: rest => lookupOf name ++ writeOut rest

/-- The template with every tag written out as a look-up. -/
def expand (source : String) : String := String.ofList (writeOut (cut source.toList))

end Courier.Template
