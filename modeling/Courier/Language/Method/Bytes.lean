import Courier.Language.Method.Text
import Courier.Text.Encoded

/-!
The methods of bytes, and those that make bytes of texts and numbers. Bytes are searched, cut and put together as the
text of the characters of the same numbers, of which only those of ASCII have a case or a class.
-/

namespace Courier.Language

namespace Method

/-- The text of bytes, a character for each. -/
def textOfBytes (v : Value) : Except Fault Value :=
  match v with
  | .bytes b => .ok (.newText (Courier.Text.latin1 b))
  | _ => .error (.notBytes v.typeName)

/-- The bytes of a text whose characters stand for one each. -/
def bytesOfText (cs : List Char) : Value := .bytes (cs.map fun c => UInt8.ofNat c.toNat)

/-- Bytes to look for: some of them, or a single one by its number. -/
def soughtBytes (v : Value) : Except Fault Value :=
  match v, v.int? with
  | .bytes _, _ => textOfBytes v
  | _, some i =>
    if 0 ≤ i && i < 256 then .ok (.newText (String.singleton (Char.ofNat i.toNat)))
    else .error (.wrongValue "byte must be in range(0, 256)")
  | _, none =>
    .error (.wrongType ("argument should be integer or bytes-like object, not " ++ Text.quoted v.typeName))

/-- Bytes at one of the ends, or several of them to choose from. -/
def endBytes (name : String) (v : Value) : Except Fault Value :=
  match v with
  | .bytes _ => textOfBytes v
  | .tuple _ items => do return .newTuple (← items.mapM textOfBytes)
  | _ => .error (.wrongType (name ++ " first arg must be bytes or a tuple of bytes, not " ++ v.typeName))

/-- Arguments with the first one changed. -/
def withFirst (f : Value → Except Fault Value) (a : Arguments) : Except Fault Arguments := do
  match a.positional with
  | v :: rest => return { a with positional := (← f v) :: rest }
  | [] => return a

/-- The blanks of ASCII. -/
def isPlainBlank (c : Char) : Bool := c == ' ' || (9 ≤ c.toNat && c.toNat ≤ 13)

/-- Whether a character is a letter of ASCII or has another number. -/
def isPlain (p : Char → Bool) (c : Char) : Bool := c.toNat < 128 && p c

/-- A change of the letters of ASCII alone. -/
def plainly (f : Char → Char) (c : Char) : Char := if c.toNat < 128 then f c else c

/-- Letters of ASCII in title case. -/
def titled : Bool → List Char → List Char
  | _, [] => []
  | inWord, c :: rest => (if inWord then c.toLower else c.toUpper) :: titled c.isAlpha rest

/-- Whether letters of ASCII are in title case, and there are some. -/
def isTitled : Bool → Bool → List Char → Bool
  | _, some', [] => some'
  | inWord, some', c :: rest =>
    if c.isUpper then !inWord && isTitled true true rest
    else if c.isLower then inWord && isTitled true true rest
    else isTitled false some' rest

/-- Whether the letters of ASCII among characters are all of one case, and there are some. -/
def isOfCase (same other : Char → Bool) (cs : List Char) : Bool := cs.any same && !cs.any other

/-- Bytes without those of an argument at their ends, or without blanks. -/
def strippedBytes (cs : List Char) (name : String) (left right : Bool) (a : Arguments) : Except Fault (List Char) := do
  let vs ← between "bytes" name 0 1 a
  let p ← match vs with
    | [] | [.none] => pure isPlainBlank
    | v :: _ => do
      let held := ((← textOfBytes v).text?.getD "").toList
      pure fun c => held.contains c
  let cs := if left then cs.dropWhile p else cs
  return if right then Courier.Text.dropTrailingList p cs else cs

/-- Bytes split at others or at blanks. -/
def splitBytes (cs : List Char) (name : String) (fromBack : Bool) (a : Arguments) :
    Except Fault (List (List Char)) := do
  let vs ← flexible name ["sep", "maxsplit"] a
  let most ← match vs[1]?.getD none with
    | some v => sizeArgument v
    | none => pure (-1)
  let limit := if most < 0 then cs.length else most.toNat
  let cs := if fromBack then cs.reverse else cs
  let pieces ← match (vs[0]?.getD none).getD .none with
    | .none => pure (words isPlainBlank (cs.length + 1) limit cs)
    | v => do
      let separator := ((← textOfBytes v).text?.getD "").toList
      if separator.isEmpty then throw (Fault.wrongValue "empty separator")
      pure (Courier.Text.pieces (if fromBack then separator.reverse else separator) limit cs)
  return if fromBack then turned pieces else pieces

/-- Joins items, which have to be bytes. -/
def joinBytes (separator : Courier.Text.Bytes) (v : Value) : Except Fault Value := do
  let items ← match v.items with
    | .ok items => pure items
    | .error (.notIterable _) => throw (Fault.wrongType "can only join an iterable")
    | .error f => throw f
  let parts ← items.zipIdx.mapM fun (item, position) => match item with
    | .bytes b => pure b
    | w => throw (Fault.wrongType ("sequence item " ++ toString position ++ ": expected a bytes-like object, " ++
        w.typeName ++ " found"))
  return .bytes (parts.intersperse separator).flatten

/-- The lines of bytes, with their ends or without. -/
def lineBytes (keepEnds : Bool) : List Char → List Char → List (List Char)
  | [], [] => []
  | piece, [] => [piece.reverse]
  | piece, '\r' :: '\n' :: rest =>
    ((if keepEnds then '\n' :: '\r' :: piece else piece).reverse) :: lineBytes keepEnds [] rest
  | piece, c :: rest =>
    if c == '\r' || c == '\n' then ((if keepEnds then c :: piece else piece).reverse) :: lineBytes keepEnds [] rest
    else lineBytes keepEnds (c :: piece) rest

/-! ### Digits -/

/-- The digits of bytes in groups of a size, counted from the end, or from the start if the size is negative. -/
def hexGroups (size : Int) (separator : List Char) (bytes : Courier.Text.Bytes) : List Char :=
  let digits := bytes.map fun b => Courier.Text.hex 2 b.toNat
  let n := digits.length
  let k := size.natAbs
  if size == 0 then digits.flatten
  else (digits.zipIdx.map fun (d, i) =>
    let place := if size < 0 then i else n - i
    if i != 0 && place % k == 0 then separator ++ d else d).flatten

/-- Bytes in digits. -/
def hexOfBytes (bytes : Courier.Text.Bytes) (a : Arguments) : Except Fault Value := do
  let vs ← flexible "hex" ["sep", "bytes_per_sep"] a
  let size ← match vs[1]?.getD none with
    | some v => flagArgument v
    | none => pure 1
  let given : Option Value := vs[0]?.getD none
  let separator ← match given with
    | none => pure []
    | some (.bytes b) => pure (Courier.Text.latin1 b).toList
    | some v => match v.text? with
      | some s => pure s.toList
      | none => do
        let _ ← match v.length with
          | .ok n => if n != 1 then throw (Fault.wrongValue "sep must be length 1.") else pure ()
          | .error f => throw f
        throw (Fault.wrongType "sep must be str or bytes.")
  if given.isSome && separator.length != 1 then throw (Fault.wrongValue "sep must be length 1.")
  if separator.any fun c => 128 ≤ c.toNat then throw (Fault.wrongValue "sep must be ASCII.")
  return .newText (String.ofList (hexGroups (if separator.isEmpty then 0 else size) separator bytes))

/-- The bytes that digits in pairs stand for, with blanks between the pairs. -/
def bytesOfHex : Nat → List Char → Except Fault Courier.Text.Bytes
  | _, [] => .ok []
  | position, [c] =>
    if isPlainBlank c then .ok []
    else .error (.wrongValue ("non-hexadecimal number found in fromhex() arg at position " ++
      toString (if (Courier.Text.hexDigit? c).isSome then position + 1 else position)))
  | position, c :: d :: rest =>
    let wrong (n : Nat) : Except Fault Courier.Text.Bytes :=
      .error (.wrongValue ("non-hexadecimal number found in fromhex() arg at position " ++ toString n))
    if isPlainBlank c then bytesOfHex (position + 1) (d :: rest)
    else match Courier.Text.hexDigit? c, Courier.Text.hexDigit? d with
      | none, _ => wrong position
      | some _, none => wrong (position + 1)
      | some m, some n => do return UInt8.ofNat (16 * m + n) :: (← bytesOfHex (position + 2) rest)

/-! ### Texts -/

/-- A fault of an encoding as one of the language. -/
def recoding {α : Type} (r : Except Courier.Text.RecodingFault α) : Except Fault α :=
  r.mapError fun f => .wrongValue f.message

/-- The encoding and the leniency that a method is given. -/
def recodingArguments (name : String) (a : Arguments) : Except Fault (String × Courier.Text.Leniency) := do
  let vs ← flexible name ["encoding", "errors"] a
  let encoding ← match vs[0]?.getD none with
    | some v => textAt (name ++ "() argument 'encoding'") v
    | none => pure "utf-8"
  let leniency ← match vs[1]?.getD none with
    | some v => textAt (name ++ "() argument 'errors'") v
    | none => pure "strict"
  return (encoding, .ofName leniency)

/-- A text as bytes. -/
def encode (s : String) (a : Arguments) : Except Fault Value := do
  let (name, leniency) ← recodingArguments "encode" a
  let charset ← recoding (Courier.Text.Charset.named "encode" name)
  if !charset.isWritable then recoding (.error (.encoding name))
  return .bytes (← recoding (charset.write leniency s))

/-- Bytes as a text. No bytes are a text in any encoding. -/
def decode (b : Courier.Text.Bytes) (a : Arguments) : Except Fault Value := do
  let (name, leniency) ← recodingArguments "decode" a
  if b.isEmpty then return .newText ""
  let charset ← recoding (Courier.Text.Charset.named "decode" name)
  return .newText (← recoding (charset.decode leniency b))

/-- The name of an argument's type in messages. -/
def argumentType : Value → String
  | .none => "None"
  | v => v.typeName

/-! ### Methods -/

/-- The methods of bytes. -/
def onBytes (b : Courier.Text.Bytes) (name : String) (a : Arguments) : Except Fault Value := do
  let s := Courier.Text.latin1 b
  let cs := s.toList
  let changed (f : List Char → List Char) : Except Fault Value := do
    noArguments "bytes" name a
    return bytesOfText (f cs)
  let test (r : Bool) : Except Fault Value := do
    noArguments "bytes" name a
    return .bool r
  let bounded : Except Fault Unit := do let _ ← window cs (← searchArguments "bytes" name a).tail
  match name with
  | "decode" => decode b a
  | "hex" => hexOfBytes b a
  | "fromhex" => do
    match ← oneArgument "bytes" name a with
    | .text _ s | .safeText s => return .bytes (← bytesOfHex 0 s.toList)
    | v => throw (Fault.wrongType ("fromhex() argument must be str, not " ++ v.typeName))
  | "upper" => changed (List.map (plainly Char.toUpper))
  | "lower" => changed (List.map (plainly Char.toLower))
  | "swapcase" => changed (List.map (plainly fun c => if c.isUpper then c.toLower else c.toUpper))
  | "title" => changed (titled false)
  | "capitalize" => changed fun
    | [] => []
    | c :: rest => plainly Char.toUpper c :: rest.map (plainly Char.toLower)
  | "isalnum" => test (all Char.isAlphanum cs)
  | "isalpha" => test (all Char.isAlpha cs)
  | "isdigit" => test (all Char.isDigit cs)
  | "isspace" => test (all isPlainBlank cs)
  | "isascii" => test (cs.all fun c => c.toNat < 128)
  | "isupper" => test (isOfCase Char.isUpper Char.isLower cs)
  | "islower" => test (isOfCase Char.isLower Char.isUpper cs)
  | "istitle" => test (isTitled false false cs)
  | "find" | "rfind" | "index" | "rindex" | "count" => do
    bounded
    match onText .apart s name (← withFirst soughtBytes a) with
    | .error (.wrongValue "substring not found") => throw (Fault.wrongValue "subsection not found")
    | r => r
  | "startswith" | "endswith" => do
    bounded
    onText .apart s name (← withFirst (endBytes name) a)
  | "strip" => return bytesOfText (← strippedBytes cs name true true a)
  | "lstrip" => return bytesOfText (← strippedBytes cs name true false a)
  | "rstrip" => return bytesOfText (← strippedBytes cs name false true a)
  | "split" => return .newList ((← splitBytes cs name false a).map bytesOfText)
  | "rsplit" => return .newList ((← splitBytes cs name true a).map bytesOfText)
  | "splitlines" => do
    let keep ← match (← flexible name ["keepends"] a)[0]?.getD none with
      | some v => flagArgument v
      | none => pure 0
    return .newList ((lineBytes (keep != 0) [] cs).map bytesOfText)
  | "join" => joinBytes b (← oneArgument "bytes" name a)
  | "replace" => do
    let vs ← between "bytes" name 2 3 a
    let parts ← (vs.take 2).mapM textOfBytes
    return bytesOfText (← replaced cs ⟨parts ++ vs.drop 2, []⟩)
  | "partition" | "rpartition" => do
    let ps ← partitioned cs (name == "rpartition") (← textOfBytes (← oneArgument "bytes" name a))
    return .newTuple (ps.map bytesOfText)
  | "removeprefix" | "removesuffix" => do
    let part := ((← textOfBytes (← oneArgument "bytes" name a)).text?.getD "").toList
    return bytesOfText (
      if name == "removeprefix" then (if part.isPrefixOf cs then cs.drop part.length else cs)
      else if part.isSuffixOf cs then cs.take (cs.length - part.length) else cs)
  | "center" | "ljust" | "rjust" => do
    let vs ← between "bytes" name 1 2 a
    let fill ← vs.tail.mapM fun
      | .bytes [c] => pure (Value.newText (Courier.Text.latin1 [c]))
      | v => throw (Fault.wrongType
          (name ++ "() argument 2 must be a byte string of length 1, not " ++ argumentType v))
    return bytesOfText (← padded cs name ⟨vs.take 1 ++ fill, []⟩)
  | "zfill" => return bytesOfText (← zeroPadded cs (← oneArgument "bytes" name a))
  | "expandtabs" => do
    let width ← match (← flexible name ["tabsize"] a)[0]?.getD none with
      | some v => flagArgument v
      | none => pure 8
    return bytesOfText (expandTabs width.toNat 0 cs)
  | _ => throw (Fault.noAttribute "bytes" name)

end Method

end Courier.Language
