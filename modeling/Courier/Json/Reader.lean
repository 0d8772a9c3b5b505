import Courier.Document
import Courier.Number.Reading
import Courier.Text.Surrogate

/-!
Reading JSON text. The reader accepts the numbers without digits (`NaN`, `Infinity`, `-Infinity`), integers up to
the digit limit, lists and objects up to the nesting limit, and repeated keys, of which the last value stays at the
first place. A problem is reported with the place where it was noticed.
-/

namespace Courier.Json

/-- What is wrong with a text that is not JSON. -/
inductive Problem
  | byteOrderMark
  | expectingValue
  | expectingKey
  | expectingColon
  | expectingComma
  | extraData
  | unterminatedString
  | controlCharacter
  | badEscape
  | badUnicodeEscape
  deriving DecidableEq, Repr

/-- The wording of a problem, without its place. -/
def Problem.wording : Problem → String
  | byteOrderMark => "Unexpected UTF-8 BOM (decode using utf-8-sig)"
  | expectingValue => "Expecting value"
  | expectingKey => "Expecting property name enclosed in double quotes"
  | expectingColon => "Expecting ':' delimiter"
  | expectingComma => "Expecting ',' delimiter"
  | extraData => "Extra data"
  | unterminatedString => "Unterminated string starting at"
  | controlCharacter => "Invalid control character at"
  | badEscape => "Invalid \\escape"
  | badUnicodeEscape => "Invalid \\uXXXX escape"

/-- The values that hold values. -/
inductive Container
  | list
  | object
  deriving DecidableEq, Repr

/-- The name of a container in messages. -/
def Container.name : Container → String
  | list => "array"
  | object => "object"

/-- How many containers may hold one another. -/
def nestingLimit : Nat := 985

/-- Why a text could not be read: it is not JSON, or it holds an integer beyond the digit limit or a container beyond
the nesting limit. -/
inductive Fault
  | syntaxProblem (problem : Problem) (line column position : Nat)
  | integerTooLong (digits : Nat)
  | tooDeep (container : Container)
  deriving DecidableEq, Repr

/-- The wording of the digit limit for an integer that is read. -/
def tooManyDigits (digits : Nat) : String :=
  "Exceeds the limit (" ++ toString Number.digitLimit ++ " digits) for integer string conversion: value has " ++
    toString digits ++ " digits; use sys.set_int_max_str_digits() to increase the limit"

/-- The full wording of a fault. -/
def Fault.message : Fault → String
  | syntaxProblem problem line column position =>
    problem.wording ++ ": line " ++ toString line ++ " column " ++ toString column ++ " (char " ++
      toString position ++ ")"
  | integerTooLong digits => tooManyDigits digits
  | tooDeep container =>
    "maximum recursion depth exceeded while decoding a JSON " ++ container.name ++ " from a unicode string"

/-- Whether a fault says that a text is not JSON, or that one of its numbers cannot be read. A text that goes beyond the
nesting limit is given up before either is known. -/
def Fault.isUnreadable : Fault → Bool
  | tooDeep _ => false
  | _ => true

/-- A fault before its line and column are known. -/
inductive Stop
  | problem (what : Problem) (position : Nat)
  | integerTooLong (digits : Nat)
  | tooDeep (container : Container)

/-- A place in the text: how many characters were read, and those that follow. -/
structure Cursor where
  position : Nat
  rest : List Char

/-- The cursor some characters further. -/
def Cursor.advance (c : Cursor) (count : Nat) : Cursor := ⟨c.position + count, c.rest.drop count⟩

/-- JSON knows four blanks. -/
def isSpace (c : Char) : Bool := c == ' ' || c == '\t' || c == '\n' || c == '\r'

/-- Skips blanks. -/
def skipFrom : Nat → List Char → Cursor
  | position, [] => ⟨position, []⟩
  | position, c :: rest => if isSpace c then skipFrom (position + 1) rest else ⟨position, c :: rest⟩

/-- Skips blanks. -/
def Cursor.skip (c : Cursor) : Cursor := skipFrom c.position c.rest

/-- The value of a hexadecimal digit. -/
def hexValue? (c : Char) : Option Nat :=
  if '0' ≤ c && c ≤ '9' then some (c.toNat - 48)
  else if 'a' ≤ c && c ≤ 'f' then some (c.toNat - 87)
  else if 'A' ≤ c && c ≤ 'F' then some (c.toNat - 55)
  else none

/-- Four hexadecimal digits at the head of a text. -/
def fourHex? : List Char → Option Nat
  | a :: b :: c :: d :: _ => do
    let w ← hexValue? a
    let x ← hexValue? b
    let y ← hexValue? c
    let z ← hexValue? d
    return ((w * 16 + x) * 16 + y) * 16 + z
  | _ => none

/-- The character of an escape of one letter. -/
def simpleEscape? (c : Char) : Option Char :=
  if c == '"' || c == '\\' || c == '/' then some c
  else if c == 'b' then some '\x08'
  else if c == 'f' then some '\x0c'
  else if c == 'n' then some '\n'
  else if c == 'r' then some '\r'
  else if c == 't' then some '\t'
  else none

/-- The escape of four hexadecimal digits that follows `\u`, with the second half of a surrogate pair if there is
one: the character and how many characters were read. A string may not end right after the digits. -/
def unicodeEscape (position : Nat) (rest : List Char) : Except Stop (Char × Nat) :=
  if (rest.drop 4).isEmpty then .error (.problem .badUnicodeEscape position)
  else match fourHex? rest with
    | none => .error (.problem .badUnicodeEscape position)
    | some high =>
      if 0xD800 ≤ high && high < 0xDC00 then
        match rest.drop 4 with
        | '\\' :: 'u' :: tail =>
          if (tail.drop 4).isEmpty then .ok (Text.charOfEscape high, 4)
          else match fourHex? tail with
            | none => .error (.problem .badUnicodeEscape (position + 6))
            | some low =>
              if 0xDC00 ≤ low && low < 0xE000 then .ok (Text.joinSurrogates high low, 10)
              else .ok (Text.charOfEscape high, 4)
        | _ => .ok (Text.charOfEscape high, 4)
      else .ok (Text.charOfEscape high, 4)

/-- The characters of a string up to its closing quote. The fuel counts characters of the text. -/
def readString (start : Nat) : Nat → Cursor → List Char → Except Stop (String × Cursor)
  | 0, _, _ => .error (.problem .unterminatedString start)
  | fuel + 1, ⟨position, cs⟩, acc =>
    match cs with
    | [] => .error (.problem .unterminatedString start)
    | '"' :: rest => .ok (String.ofList acc.reverse, ⟨position + 1, rest⟩)
    | '\\' :: [] => .error (.problem .unterminatedString start)
    | '\\' :: 'u' :: rest =>
      match unicodeEscape (position + 1) rest with
      | .error stop => .error stop
      | .ok (c, count) => readString start fuel ⟨position + 2 + count, rest.drop count⟩ (c :: acc)
    | '\\' :: e :: rest =>
      match simpleEscape? e with
      | some c => readString start fuel ⟨position + 2, rest⟩ (c :: acc)
      | none => .error (.problem .badEscape position)
    | c :: rest =>
      if c.toNat < 32 then .error (.problem .controlCharacter position)
      else readString start fuel ⟨position + 1, rest⟩ (c :: acc)

/-- The ASCII digits at the head of a text, as values, and the rest. -/
def takeDigits : List Char → List Nat × List Char
  | [] => ([], [])
  | c :: rest =>
    if Text.isAsciiDigit c then let (ds, tail) := takeDigits rest; ((c.toNat - 48) :: ds, tail)
    else ([], c :: rest)

/-- The whole part of a number: one zero, or digits that do not start with a zero. -/
def wholePart? : List Char → Option (List Nat × List Char)
  | '0' :: rest => some ([0], rest)
  | cs => match takeDigits cs with
    | ([], _) => none
    | result => some result

/-- A fraction part, if there is one. -/
def fractionPart (cs : List Char) : Option (List Nat) × List Char :=
  match cs with
  | '.' :: rest => match takeDigits rest with
    | ([], _) => (none, cs)
    | (ds, tail) => (some ds, tail)
  | _ => (none, cs)

/-- An exponent part, if there is one: its value and its length. -/
def exponentPart (cs : List Char) : Option (Int × Nat) × List Char :=
  match cs with
  | c :: rest =>
    if c == 'e' || c == 'E' then
      let (negative, after) := Number.signed rest
      match takeDigits after with
      | ([], _) => (none, cs)
      | (ds, tail) =>
        let n : Int := Number.natOfDigits ds
        (some (if negative then -n else n, 1 + (rest.length - after.length) + ds.length), tail)
    else (none, cs)
  | [] => (none, cs)

/-- A number: an integer, or a float when it has a fraction or an exponent. -/
def readNumber (cursor : Cursor) : Except Stop (Document × Cursor) :=
  let (negative, cs) := match cursor.rest with
    | '-' :: rest => (true, rest)
    | cs => (false, cs)
  match wholePart? cs with
  | none => .error (.problem .expectingValue cursor.position)
  | some (whole, rest) =>
    let (fraction, rest) := fractionPart rest
    let (exponent, rest) := exponentPart rest
    let length := (if negative then 1 else 0) + whole.length + fraction.elim 0 (·.length + 1) + exponent.elim 0 (·.2)
    let next : Cursor := ⟨cursor.position + length, rest⟩
    if fraction.isNone && exponent.isNone then
      if Number.digitLimit < whole.length then .error (.integerTooLong whole.length)
      else
        let n : Int := Number.natOfDigits whole
        .ok (.int (if negative then -n else n), next)
    else
      let d := Number.assemble negative whole (fraction.getD []) (exponent.elim 0 (·.1))
      .ok (.float d.toFloat, next)

/-- The words that stand for values. -/
def words : List (List Char × Document) :=
  [("null".toList, .null), ("true".toList, .bool true), ("false".toList, .bool false),
    ("NaN".toList, .float Number.undefinedNumber), ("Infinity".toList, .float Number.infinity),
    ("-Infinity".toList, .float (-Number.infinity))]

mutual

/-- Any value. The fuel counts characters of the text, and the room the containers that may still be opened. -/
def readValue : Nat → Nat → Cursor → Except Stop (Document × Cursor)
  | 0, _, cursor => .error (.problem .expectingValue cursor.position)
  | fuel + 1, room, cursor =>
    match cursor.rest with
    | [] => .error (.problem .expectingValue cursor.position)
    | '"' :: rest =>
      match readString cursor.position fuel ⟨cursor.position + 1, rest⟩ [] with
      | .error stop => .error stop
      | .ok (s, next) => .ok (.text s, next)
    | '[' :: rest =>
      match room with
      | 0 => .error (.tooDeep .list)
      | room + 1 =>
        let inner := skipFrom (cursor.position + 1) rest
        match inner.rest with
        | ']' :: _ => .ok (.list [], inner.advance 1)
        | _ =>
          match readItems fuel room inner with
          | .error stop => .error stop
          | .ok (items, next) => .ok (.list items, next)
    | '{' :: rest =>
      match room with
      | 0 => .error (.tooDeep .object)
      | room + 1 =>
        let inner := skipFrom (cursor.position + 1) rest
        match inner.rest with
        | '}' :: _ => .ok (.object [], inner.advance 1)
        | _ =>
          match readEntries fuel room inner with
          | .error stop => .error stop
          | .ok (pairs, next) => .ok (.object (putEntries pairs []), next)
    | cs =>
      match words.find? fun (word, _) => word.isPrefixOf cs with
      | some (word, value) => .ok (value, cursor.advance word.length)
      | none => readNumber cursor

/-- The items of a list after its opening bracket, of which there is at least one. -/
def readItems : Nat → Nat → Cursor → Except Stop (List Document × Cursor)
  | 0, _, cursor => .error (.problem .expectingValue cursor.position)
  | fuel + 1, room, cursor =>
    match readValue fuel room cursor with
    | .error stop => .error stop
    | .ok (item, next) =>
      let next := next.skip
      match next.rest with
      | ']' :: _ => .ok ([item], next.advance 1)
      | ',' :: _ =>
        match readItems fuel room (next.advance 1).skip with
        | .error stop => .error stop
        | .ok (items, last) => .ok (item :: items, last)
      | _ => .error (.problem .expectingComma next.position)

/-- The entries of an object after its opening brace, of which there is at least one. -/
def readEntries : Nat → Nat → Cursor → Except Stop (List (String × Document) × Cursor)
  | 0, _, cursor => .error (.problem .expectingKey cursor.position)
  | fuel + 1, room, cursor =>
    match cursor.rest with
    | '"' :: rest =>
      match readString cursor.position fuel ⟨cursor.position + 1, rest⟩ [] with
      | .error stop => .error stop
      | .ok (key, next) =>
        let colon := next.skip
        match colon.rest with
        | ':' :: _ =>
          match readValue fuel room (colon.advance 1).skip with
          | .error stop => .error stop
          | .ok (value, next) =>
            let next := next.skip
            match next.rest with
            | '}' :: _ => .ok ([(key, value)], next.advance 1)
            | ',' :: _ =>
              match readEntries fuel room (next.advance 1).skip with
              | .error stop => .error stop
              | .ok (pairs, last) => .ok ((key, value) :: pairs, last)
            | _ => .error (.problem .expectingComma next.position)
        | _ => .error (.problem .expectingColon colon.position)
    | _ => .error (.problem .expectingKey cursor.position)

end

/-- The line and the column of a position, both counted from one. -/
def place (cs : List Char) (position : Nat) : Nat × Nat :=
  let before := cs.take position
  (before.count '\n' + 1, (before.reverse.takeWhile (· != '\n')).length + 1)

/-- Adds line and column to a fault. -/
def Stop.toFault (cs : List Char) : Stop → Fault
  | .problem what position => let (line, column) := place cs position; .syntaxProblem what line column position
  | .integerTooLong digits => .integerTooLong digits
  | .tooDeep container => .tooDeep container

/-- Reads a value that makes up the whole text, blanks around it aside. -/
def readAll (cs : List Char) : Except Stop Document :=
  match cs with
  | '\ufeff' :: _ => .error (.problem .byteOrderMark 0)
  | _ =>
    match readValue (2 * cs.length + 2) nestingLimit (skipFrom 0 cs) with
    | .error stop => .error stop
    | .ok (value, next) =>
      let next := next.skip
      if next.rest.isEmpty then .ok value else .error (.problem .extraData next.position)

/-- Reads a JSON text. -/
def read (s : String) : Except Fault Document :=
  (readAll s.toList).mapError (Stop.toFault s.toList)

end Courier.Json
