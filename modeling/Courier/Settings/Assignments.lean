import Courier.Settings
import Courier.Text.Search

/-!
Files of assignments to variables, one to a line: a name, an equals sign and a value that may be quoted. A quoted value
can go on over lines. A line that is no assignment is passed over. Values can name variables in braces behind a dollar
sign, with a default behind a colon and a dash.
-/

namespace Courier.Settings.Assignments

/-- A blank inside a line. -/
def isLineBlank (c : Char) : Bool := Text.isBlank c && c != '\n' && c != '\r'

/-- The end of a line. -/
def isLineEnd (c : Char) : Bool := c == '\n' || c == '\r'

/-- The rest of a text behind its first line. -/
def nextLine (cs : List Char) : List Char := (cs.dropWhile fun c => !isLineEnd c).drop 1

/-- The character that an escape in double quotes stands for. -/
def escaped? : Char → Option Char
  | '\\' => some '\\'
  | '\'' => some '\''
  | '"' => some '"'
  | 'a' => some '\x07'
  | 'b' => some '\x08'
  | 'f' => some '\x0c'
  | 'n' => some '\n'
  | 'r' => some '\r'
  | 't' => some '\t'
  | 'v' => some '\x0b'
  | _ => none

/-- The character that an escape in single quotes stands for. -/
def escapedInSingle? : Char → Option Char
  | '\\' => some '\\'
  | '\'' => some '\''
  | _ => none

/-- A text with its escapes read. An escape of any other character stays as it is. -/
def unescape (meaning : Char → Option Char) : List Char → List Char
  | [] => []
  | ['\\'] => ['\\']
  | '\\' :: c :: rest => match meaning c with
    | some d => d :: unescape meaning rest
    | none => '\\' :: unescape meaning (c :: rest)
  | c :: rest => c :: unescape meaning rest

/-- The number of characters before the quote that ends a quoted value. A backslash takes the next character of the
same line with it, so that a quote behind it ends nothing. -/
def closing? (quote : Char) : List Char → Option Nat
  | [] => none
  | '\\' :: '\n' :: _ | ['\\'] => none
  | '\\' :: _ :: rest => (closing? quote rest).map (· + 2)
  | c :: rest => if c == quote then some 0 else (closing? quote rest).map (· + 1)

/-- A quoted value and the rest of the text behind it. -/
def quoted? (quote : Char) (meaning : Char → Option Char) (cs : List Char) : Option (List Char × List Char) :=
  (closing? quote cs).map fun n => (unescape meaning (cs.take n), cs.drop (n + 1))

/-- A value without quotes up to the blanks in front of a comment. -/
def beforeComment : List Char → List Char
  | [] => []
  | c :: rest =>
    if Text.isBlank c && (rest.dropWhile Text.isBlank).head? == some '#' then [] else c :: beforeComment rest

/-- The value behind an equals sign, and the rest of the text. -/
def value? (cs : List Char) : Option (List Char × List Char) :=
  match cs with
  | '\'' :: rest => quoted? '\'' escapedInSingle? rest
  | '"' :: rest => quoted? '"' escaped? rest
  | cs =>
    some (Text.dropTrailingList Text.isBlank (beforeComment (cs.takeWhile fun c => !isLineEnd c)),
      cs.dropWhile fun c => !isLineEnd c)

/-- The text behind the word `export`, if it starts with that word. -/
def afterExport (cs : List Char) : List Char :=
  if "export".toList.isPrefixOf cs && ((cs.drop 6).head?.any isLineBlank) then (cs.drop 6).dropWhile isLineBlank else cs

/-- The name in front of an equals sign, if there is one, and the rest of the text. The start of a comment has no
name; nothing is read where a name is missing. -/
def name? (cs : List Char) : Option (Option (List Char) × List Char) :=
  match cs with
  | '#' :: _ => some (none, cs)
  | '\'' :: rest =>
    let name := rest.takeWhile (· != '\'')
    match rest.dropWhile (· != '\'') with
    | _ :: after => if name.isEmpty then none else some (some name, after)
    | [] => none
  | cs =>
    let isNameChar (c : Char) : Bool := c != '=' && c != '#' && !Text.isBlank c
    let name := cs.takeWhile isNameChar
    if name.isEmpty then none else some (some name, cs.dropWhile isNameChar)

/-- The rest behind a comment and the end of the line, unless something else stands there. -/
def lineEnd? (cs : List Char) : Option (List Char) :=
  match cs.dropWhile isLineBlank with
  | [] => some []
  | '#' :: rest => some (nextLine rest)
  | c :: rest => if isLineEnd c then some rest else none

/-- A line: the name and the value that it assigns, if there is a value, and the rest of the text. Where a line is no
assignment, the rest starts behind the line on which that was noticed. -/
def line (cs : List Char) : Option (List Char × Option (List Char)) × List Char :=
  match name? (afterExport cs) with
  | none => (none, nextLine cs)
  | some (name, rest) =>
    let rest := rest.dropWhile isLineBlank
    let read := match rest with
      | '=' :: rest => (value? (rest.dropWhile isLineBlank)).map fun (value, rest) => (some value, rest)
      | rest => some (none, rest)
    match read with
    | none => (none, nextLine rest)
    | some (value, rest) => match lineEnd? rest with
      | some after => (name.map fun n => (n, value), after)
      | none => (none, nextLine rest)

/-- The assignments of a text. Every line takes at least one character. -/
def readLines : Nat → List Char → List (String × Option (List Char))
  | 0, _ => []
  | fuel + 1, cs =>
    match cs.dropWhile Text.isBlank with
    | [] => []
    | cs =>
      let (assignment, rest) := line cs
      (assignment.toList.map fun (name, value) => (String.ofList name, value)) ++ readLines fuel rest

/-- A variable in braces at the head of a text, with its default, and the rest. -/
def reference? (cs : List Char) : Option (String × String × List Char) :=
  let name := cs.takeWhile fun c => c != '\x7d' && c != ':'
  match cs.dropWhile fun c => c != '\x7d' && c != ':' with
  | '\x7d' :: rest => some (String.ofList name, "", rest)
  | ':' :: '-' :: rest =>
    match rest.dropWhile (· != '\x7d') with
    | _ :: after => some (String.ofList name, String.ofList (rest.takeWhile (· != '\x7d')), after)
    | [] => none
  | _ => none

/-- A value with the variables that it names put in. A variable without a value is empty, one that is not known has
its default. -/
def fill (known : List (String × Option String)) : Nat → List Char → List Char
  | 0, _ => []
  | _, [] => []
  | fuel + 1, c :: rest =>
    match (if c == '$' && rest.head? == some '\x7b' then reference? (rest.drop 1) else none) with
    | some (name, default, after) =>
      (((entryOf? name known).map fun value => value.getD "").getD default).toList ++ fill known fuel after
    | none => c :: fill known fuel rest

/-- A text without the byte order mark in front of it. -/
def withoutMark : List Char → List Char
  | '\ufeff' :: rest => rest
  | cs => cs

/-- The variables of the environment, and those of a file that it does not have. A value can name the variables of
the environment and those before it. -/
def below (environment : List (String × String)) (text : String) : List (String × String) :=
  let cs := Text.unifyLines (withoutMark text.toList)
  let given := environment.map fun (name, value) => (name, some value)
  let assigned := (readLines (cs.length + 1) cs).foldl (fun before (name, value) =>
    putEntry name (value.map fun v => String.ofList (fill (putEntries given before) (v.length + 1) v)) before) []
  putEntries environment (assigned.filterMap fun (name, value) => value.map fun v => (name, v))

end Courier.Settings.Assignments
