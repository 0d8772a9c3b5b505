import Courier.Json.Reader
import Courier.Language.Token
import Courier.Number.Reading
import Courier.Text.Escaped
import Courier.Text.Quoted
import Courier.Text.Search

/-!
Reading tokens. Outside of tags a template is text up to the next mark of a tag, a comment or a raw section; inside a
tag blanks separate numbers, words, texts in quotes and operators, and brackets have to close before the tag can end. A
minus sign at the edge of a tag takes the blanks next to it away.
-/

namespace Courier.Language

namespace Token

/-- A place in the text that is read. -/
structure Spot where
  position : Nat
  line : Nat
  afterPoint : Bool
  rest : List Char

/-- The place some characters further. -/
def Spot.advance (spot : Spot) (count : Nat) : Spot :=
  let taken := spot.rest.take count
  ⟨spot.position + taken.length, spot.line + taken.count '\n', taken.getLast? == some '.', spot.rest.drop count⟩

/-! ### The tokens inside a tag -/

/-- The length of a run of digits with single underscores between them; zero if there is none. -/
def digitRun (p : Char → Bool) : List Char → Nat
  | c :: '_' :: d :: rest => if p c then (if p d then 2 + digitRun p (d :: rest) else 1) else 0
  | c :: rest => if p c then 1 + digitRun p rest else 0
  | [] => 0

/-- The length of an exponent part; zero if there is none. -/
def exponentLength : List Char → Nat
  | c :: rest =>
    if c == 'e' || c == 'E' then
      let sign := match rest with
        | s :: _ => if s == '+' || s == '-' then 1 else 0
        | [] => 0
      let n := digitRun Text.isDecimal (rest.drop sign)
      if n == 0 then 0 else 1 + sign + n
    else 0
  | [] => 0

/-- The length of a float: digits with a fraction or an exponent. -/
def floatLength (cs : List Char) : Nat :=
  let whole := digitRun Text.isDecimal cs
  if whole == 0 then 0
  else
    let rest := cs.drop whole
    let fraction := match rest with
      | '.' :: tail => match digitRun Text.isDecimal tail with
        | 0 => 0
        | n => n + 1
      | _ => 0
    let exponent := exponentLength (rest.drop fraction)
    if fraction + exponent == 0 then 0 else whole + fraction + exponent

/-- The length of the digits behind the mark of a base; an underscore may come first. -/
def markedLength (p : Char → Bool) (cs : List Char) : Nat :=
  match cs with
  | '_' :: rest => match digitRun p rest with
    | 0 => 0
    | n => n + 1
  | _ => digitRun p cs

/-- The length of an integer in any base. -/
def integerLength (cs : List Char) : Nat :=
  let marked (letter : Char) (p : Char → Bool) : Nat := match cs with
    | '0' :: c :: rest =>
      if c.toLower == letter then
        match markedLength p rest with
        | 0 => 0
        | n => n + 2
      else 0
    | _ => 0
  let isHex (c : Char) : Bool := Text.isDecimal c || (Json.hexValue? c).isSome
  match marked 'b' (fun c => c == '0' || c == '1'), marked 'o' (fun c => '0' ≤ c && c ≤ '7'), marked 'x' isHex with
  | 0, 0, 0 => match cs with
    | '0' :: _ => digitRun (· == '0') cs
    | c :: _ => if '1' ≤ c && c ≤ '9' then digitRun Text.isDecimal cs else 0
    | [] => 0
  | b, o, x => b + o + x

/-- The value of an integer that was read. -/
def integerValue (cs : List Char) : Except Fault Int :=
  let plain := cs.filter (· != '_')
  let inBase (base : Nat) (digits : List Char) : Int :=
    ((digits.foldl (fun n c => base * n + ((Json.hexValue? c).orElse fun _ => Text.decimalValue? c).getD 0) 0 : Nat) :
      Int)
  match plain with
  | '0' :: c :: rest =>
    if c.toLower == 'x' then .ok (inBase 16 rest)
    else if c.toLower == 'o' then .ok (inBase 8 rest)
    else if c.toLower == 'b' then .ok (inBase 2 rest)
    else .ok 0
  | _ =>
    if Number.digitLimit < plain.length then .error (.numeralTooLong plain.length) else .ok (inBase 10 plain)

/-- The value of a float that was read. It must not have digits of other scripts. -/
def floatValue (cs : List Char) : Except Fault Float :=
  let isForeign (c : Char) : Bool := 127 < c.toNat
  match cs.find? isForeign with
  | none => .ok (((Number.unsignedDecimal? false cs).map Number.Decimal.toFloat).getD 0)
  | some c =>
    if cs.head?.any isForeign then
      .error (.foreignDigits ("invalid character '" ++ String.singleton c ++ "' (U+" ++
        String.ofList ((Text.hex (if c.toNat < 0x10000 then 4 else 5) c.toNat).map Char.toUpper) ++ ")"))
    else .error (.foreignDigits "invalid decimal literal")

/-- The length of a text in quotes: up to the next quote that no backslash escapes; zero if there is none. -/
def quotedLength (quote : Char) : Nat → List Char → Nat
  | _, [] => 0
  | n, '\\' :: rest => match rest with
    | _ :: tail => quotedLength quote (n + 2) tail
    | [] => 0
  | n, c :: rest => if c == quote then n + 1 else quotedLength quote (n + 1) rest

/-- The length of a text in quotes, quotes included; zero if there is none. -/
def stringLength (cs : List Char) : Nat :=
  match cs with
  | c :: rest => if c == '\'' || c == '"' then quotedLength c 1 rest else 0
  | [] => 0

/-- A character beyond ASCII as the escape that stands for it. -/
def asEscape (c : Char) : List Char := if c.toNat < 128 then [c] else Text.numericEscape c.toNat

/-- The text between quotes. -/
def stringValue (cs : List Char) : Except Fault String := do
  let inner := (cs.drop 1).dropLast.flatMap asEscape
  return String.ofList (← (Text.Escape.read (inner.length + 1) inner).mapError Fault.malformed)

/-- The operators, longer ones first. -/
def operators : List String :=
  ["//", "**", "==", "!=", ">=", "<=", "+", "-", "/", "*", "%", "~", "[", "]", "(", ")", "\x7b", "\x7d", ">", "<", "=",
    ".", ":", "|", ",", ";"]

/-- The closing bracket of an opening one. -/
def closing? (sign : String) : Option String :=
  if sign == "(" then some ")" else if sign == "[" then some "]" else if sign == "\x7b" then some "\x7d" else none

/-- Closing brackets. -/
def isClosing (sign : String) : Bool := sign == ")" || sign == "]" || sign == "\x7d"

/-- The kinds of tags. -/
inductive TagKind
  | variable
  | block
  deriving DecidableEq, Repr

/-- The length of the end of a tag at the head of a text, with the blanks that it takes away; zero if there is none. -/
def tagEndLength (kind : TagKind) (cs : List Char) : Nat :=
  let mark := match kind with
    | .variable => ['\x7d', '\x7d']
    | .block => ['%', '\x7d']
  if ('-' :: mark).isPrefixOf cs then 3 + ((cs.drop 3).takeWhile Text.isBlank).length
  else if kind == .block && ('+' :: mark).isPrefixOf cs then 3
  else if mark.isPrefixOf cs then 2
  else 0

/-- What stands next inside a tag: blanks, the end of the tag, a token and its length, or a fault. The brackets that are
still open are given and returned. -/
inductive Step
  | blanks (length : Nat)
  | tagEnd (length : Nat)
  | found (token : Token) (length : Nat) (brackets : List String)
  | broken (cause : Fault)

/-- A token, or the fault of its value. -/
def Step.ofValue (r : Except Fault Token) (length : Nat) (brackets : List String) : Step :=
  match r with
  | .ok t => .found t length brackets
  | .error f => .broken f

/-- Reads an operator; a bracket opens or has to close the last one that is open. -/
def readOperator (spot : Spot) (brackets : List String) : Step :=
  match operators.find? fun sign => sign.toList.isPrefixOf spot.rest with
  | none =>
    let c := spot.rest.headD ' '
    .broken (.malformed ("unexpected char " ++ Text.quoted (String.singleton c) ++ " at " ++ toString spot.position))
  | some sign =>
    match closing? sign with
    | some close => .found (.operator sign) sign.length (close :: brackets)
    | none =>
      if isClosing sign then
        match brackets with
        | [] => .broken (.malformed ("unexpected '" ++ sign ++ "'"))
        | expected :: outer =>
          if expected == sign then .found (.operator sign) sign.length outer
          else .broken (.malformed ("unexpected '" ++ sign ++ "', expected '" ++ expected ++ "'"))
      else .found (.operator sign) sign.length brackets

/-- What stands next inside a tag; the text is not at its end. -/
def step (kind : TagKind) (spot : Spot) (brackets : List String) : Step :=
  let cs := spot.rest
  let ending := if brackets.isEmpty then tagEndLength kind cs else 0
  let blanks := (cs.takeWhile Text.isBlank).length
  let float := if spot.afterPoint then 0 else floatLength cs
  let integer := integerLength cs
  let word := (cs.takeWhile Text.isWordChar).length
  let string := stringLength cs
  if ending != 0 then .tagEnd ending
  else if blanks != 0 then .blanks blanks
  else if float != 0 then
    .ofValue ((floatValue (cs.take float)).map .float) float brackets
  else if integer != 0 then .ofValue ((integerValue (cs.take integer)).map .integer) integer brackets
  else if word != 0 then
    let w := String.ofList (cs.take word)
    if Text.isIdentifier w then .found (.name w) word brackets
    else .broken (.malformed "Invalid character in identifier")
  else if string != 0 then .ofValue ((stringValue (cs.take string)).map .string) string brackets
  else readOperator spot brackets

/-! ### The text around the tags -/

/-- What can start in the text of a template. -/
inductive Mark
  | variable
  | block
  | comment
  | raw
  deriving DecidableEq, Repr

/-- A sign that may stand at the edge of a tag. -/
def edgeSign (cs : List Char) : List Char :=
  match cs with
  | c :: _ => if c == '-' || c == '+' then [c] else []
  | [] => []

/-- The length of the word of a raw section and the end of its tag, blanks around the word included; zero if there is
none. -/
def rawWordLength (word : String) (cs : List Char) : Nat :=
  let before := (cs.takeWhile Text.isBlank).length
  let rest := cs.drop before
  if word.toList.isPrefixOf rest then
    let rest := rest.drop word.length
    let after := (rest.takeWhile Text.isBlank).length
    match rest.drop after with
    | '-' :: '%' :: '\x7d' :: tail => before + word.length + after + 3 + (tail.takeWhile Text.isBlank).length
    | '%' :: '\x7d' :: _ => before + word.length + after + 2
    | '+' :: '%' :: '\x7d' :: _ => if word == "endraw" then before + word.length + after + 3 else 0
    | _ => 0
  else 0

/-- The mark at the head of a text: its kind, its length, and whether it takes away the blanks in front of it. -/
def markAt? (cs : List Char) : Option (Mark × Nat × Bool) :=
  match cs with
  | '\x7b' :: c :: rest =>
    let sign := edgeSign rest
    let strips := sign == ['-']
    if c == '\x7b' then some (.variable, 2 + sign.length, strips)
    else if c == '#' then some (.comment, 2 + sign.length, strips)
    else if c == '%' then
      match rawWordLength "raw" (rest.drop sign.length) with
      | 0 => some (.block, 2 + sign.length, strips)
      | n => some (.raw, 2 + sign.length + n, strips)
    else none
  | _ => none

/-- The text up to the next mark, reversed, and the mark. -/
def textUntilMark : List Char → List Char → List Char × Option (Mark × Nat × Bool)
  | taken, [] => (taken, none)
  | taken, c :: rest =>
    match markAt? (c :: rest) with
    | some mark => (taken, some mark)
    | none => textUntilMark (c :: taken) rest

/-- The length of a comment and its end; nothing if it has no end. -/
def commentLength? : Nat → List Char → Option Nat
  | _, [] => none
  | n, '+' :: '#' :: '\x7d' :: _ => some (n + 3)
  | n, '-' :: '#' :: '\x7d' :: rest => some (n + 3 + (rest.takeWhile Text.isBlank).length)
  | n, '#' :: '\x7d' :: _ => some (n + 2)
  | n, _ :: rest => commentLength? (n + 1) rest

/-- The text of a raw section, reversed, whether its end takes away blanks, and the length of the end. -/
def rawSection? : List Char → List Char → Option (List Char × Bool × Nat)
  | _, [] => none
  | taken, '\x7b' :: '%' :: rest =>
    let sign := edgeSign rest
    match rawWordLength "endraw" (rest.drop sign.length) with
    | 0 => rawSection? ('%' :: '\x7b' :: taken) rest
    | n => some (taken, sign == ['-'], 2 + sign.length + n)
  | taken, c :: rest => rawSection? (c :: taken) rest

/-- A text that was collected in reverse, its trailing blanks taken away or not, as a token unless it is empty. -/
def textToken (line : Nat) (strips : Bool) (reversed : List Char) : List PlacedToken :=
  let kept := if strips then reversed.dropWhile Text.isBlank else reversed
  if kept.isEmpty then [] else [⟨.text (String.ofList kept.reverse), line⟩]

/-- Where the reader is: in the text, or in a tag with some brackets open. -/
inductive Mode
  | outside
  | inside (kind : TagKind) (brackets : List String)

/-- Reads all tokens. A fault or the end is the last one. The fuel counts characters. -/
def readFrom : Nat → Mode → Spot → List PlacedToken
  | 0, _, spot => [⟨.ending, spot.line⟩]
  | fuel + 1, mode, spot =>
    if spot.rest.isEmpty then [⟨.ending, spot.line⟩]
    else match mode with
      | .inside kind brackets =>
        match step kind spot brackets with
        | .blanks n => readFrom fuel mode (spot.advance n)
        | .tagEnd n =>
          let token := match kind with
            | .variable => Token.variableEnd
            | .block => Token.blockEnd
          ⟨token, spot.line⟩ :: readFrom fuel .outside (spot.advance n)
        | .found token n brackets => ⟨token, spot.line⟩ :: readFrom fuel (.inside kind brackets) (spot.advance n)
        | .broken cause => [⟨.fault cause, spot.line⟩]
      | .outside =>
        match textUntilMark [] spot.rest with
        | (taken, none) => textToken spot.line false taken ++ [⟨.ending, spot.line + taken.count '\n'⟩]
        | (taken, some (mark, n, strips)) =>
          let here := spot.advance taken.length
          let next := here.advance n
          textToken spot.line strips taken ++
          match mark with
          | .variable => ⟨.variableBegin, here.line⟩ :: readFrom fuel (.inside .variable []) next
          | .block => ⟨.blockBegin, here.line⟩ :: readFrom fuel (.inside .block []) next
          | .comment =>
            match commentLength? 0 next.rest with
            | some m => readFrom fuel .outside (next.advance m)
            | none =>
              if next.rest.isEmpty then [⟨.ending, next.line⟩]
              else [⟨.fault (.malformed "Missing end of comment tag"), next.line⟩]
          | .raw =>
            match rawSection? [] next.rest with
            | some (raw, rawStrips, m) =>
              textToken next.line rawStrips raw ++ readFrom fuel .outside (next.advance (raw.length + m))
            | none =>
              if next.rest.isEmpty then [⟨.ending, next.line⟩]
              else [⟨.fault (.malformed "Missing end of raw directive"), next.line⟩]

/-- The tokens of a template. -/
def readTemplate (source : String) : List PlacedToken :=
  let cs := Text.unifyLines source.toList
  readFrom (cs.length + 1) .outside ⟨0, 1, false, cs⟩

/-- The tokens of an expression. A line end at the end of the text does not count. -/
def readExpression (source : String) : List PlacedToken :=
  let cs := Text.unifyLines source.toList
  let cs := if cs.getLast? == some '\n' then cs.dropLast else cs
  readFrom (cs.length + 1) (.inside .variable []) ⟨0, 1, false, cs⟩

end Token

end Courier.Language
