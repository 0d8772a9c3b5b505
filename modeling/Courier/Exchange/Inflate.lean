import Courier.Text.Encoding

/-!
Reading compressed data: blocks of literal bytes and of copies of earlier bytes, in codes that the blocks themselves may
describe. The data stand bare, or in one of two envelopes with a header and a check sum. Where the data end too early,
what they told so far counts; only data that contradict the format are refused.
-/

namespace Courier.Exchange.Inflate

/-- How data contradict the format. -/
inductive Fault
  | header
  | method
  | headerFlags
  | headerCheck
  | windowSize
  | presetNeeded
  | blockType
  | storedLengths
  | tooManySymbols
  | codeLengths
  | lengthRepeat
  | missingEnd
  | literalCodes
  | distanceCodes
  | literalCode
  | distanceCode
  | distanceTooFar
  | dataCheck
  | lengthCheck
  deriving DecidableEq, Repr

/-- The wording of a fault. -/
def Fault.message : Fault → String
  | presetNeeded => "Error 2 while decompressing data"
  | fault => "Error -3 while decompressing data: " ++ match fault with
    | header => "incorrect header check"
    | method => "unknown compression method"
    | headerFlags => "unknown header flags set"
    | headerCheck => "header crc mismatch"
    | windowSize => "invalid window size"
    | blockType => "invalid block type"
    | storedLengths => "invalid stored block lengths"
    | tooManySymbols => "too many length or distance symbols"
    | codeLengths => "invalid code lengths set"
    | lengthRepeat => "invalid bit length repeat"
    | missingEnd => "invalid code -- missing end-of-block"
    | literalCodes => "invalid literal/lengths set"
    | distanceCodes => "invalid distances set"
    | literalCode => "invalid literal/length code"
    | distanceCode => "invalid distance code"
    | distanceTooFar => "invalid distance too far back"
    | dataCheck => "incorrect data check"
    | _ => "incorrect length check"

/-- Why reading stops before the end of the format. -/
inductive Stop
  | outOfData
  | fault (cause : Fault)
  deriving DecidableEq, Repr

/-- What is left to be read, and what was told so far: the bits of the byte that was begun, the lowest first, and the
bytes behind it. -/
structure Progress where
  begun : List Bool
  bytes : Text.Bytes
  output : Array UInt8

/-- A step of reading. -/
abbrev Reading := ExceptT Stop (StateM Progress)

/-- The bits of a byte, the lowest first. -/
def bitsOf (b : UInt8) : List Bool := (List.range 8).map fun i => b.toNat.testBit i

/-- The next bit. -/
def bit : Reading Bool := do
  let p ← get
  match p.begun, p.bytes with
  | b :: rest, _ => set { p with begun := rest }; return b
  | [], byte :: bytes =>
    set { p with begun := (bitsOf byte).tail, bytes }
    return byte.toNat.testBit 0
  | [], [] => throw .outOfData

/-- A number of so many bits, the lowest first. -/
def bits : Nat → Reading Nat
  | 0 => return 0
  | n + 1 => do
    let b ← bit
    return b.toNat + 2 * (← bits n)

/-- Goes on to the next whole byte. -/
def align : Reading Unit := modify fun p => { p with begun := [] }

/-- Adds a byte to the output. -/
def put (b : UInt8) : Reading Unit := modify fun p => { p with output := p.output.push b }

/-- Refuses the data. -/
def refuse {α : Type} (cause : Fault) : Reading α := throw (.fault cause)

/-! ### Codes -/

/-- A code in which shorter words come first, and words of one length are in the order of their symbols: how many words
each length has, from one bit on, and the symbols in that order. -/
structure Code where
  counts : List Nat
  symbols : Array Nat

/-- The greatest length of a word. -/
def maxLength : Nat := 15

/-- The code in which each symbol has a word of the given length; no length means no word. -/
def Code.ofLengths (lengths : List Nat) : Code where
  counts := (List.range maxLength).map fun n => lengths.count (n + 1)
  symbols := ((List.range maxLength).flatMap fun n =>
    lengths.zipIdx.filterMap fun (length, symbol) => if length == n + 1 then some symbol else none).toArray

namespace Code

/-- How many words of the greatest length are left over, below zero if there are too many words. -/
def room (c : Code) : Int := c.counts.foldl (fun (left : Int) (count : Nat) => 2 * left - count) 1

/-- The length of the longest word. -/
def longest (c : Code) : Nat :=
  ((List.range maxLength).filter fun n => c.counts.getD n 0 != 0).getLast?.elim 0 (· + 1)

/-- Reads a word. `code` is what was read of it, `first` the first word of its length and `index` how many words are
shorter. There is none among the words of the lengths that are left. -/
def readFrom (c : Code) : Nat → List Nat → Nat → Nat → Nat → Reading (Option Nat)
  | fuel + 1, count :: counts, code, first, index => do
    let code := 2 * code + (← bit).toNat
    let first := 2 * first
    if code < first + count then return c.symbols[index + (code - first)]?
    else c.readFrom fuel counts code (first + count) (index + count)
  | _, _, _, _, _ => return none

/-- Reads a symbol, if the next word is one of the code. A code without words takes one bit. -/
def read (c : Code) : Reading (Option Nat) := c.readFrom (max c.longest 1) c.counts 0 0 0

end Code

/-- The code of literals and lengths that needs no description. -/
def fixedLiterals : Code :=
  .ofLengths (List.replicate 144 8 ++ List.replicate 112 9 ++ List.replicate 24 7 ++ List.replicate 8 8)

/-- The code of distances that needs no description. -/
def fixedDistances : Code := .ofLengths (List.replicate 32 5)

/-! ### Blocks -/

/-- The bits behind a length symbol, and the least length that it stands for. -/
def lengthSymbol? (n : Nat) : Option (Nat × Nat) :=
  if n < 8 then some (0, n + 3)
  else if n < 28 then some (n / 4 - 1, (4 + n % 4) * Nat.pow 2 (n / 4 - 1) + 3)
  else if n == 28 then some (0, 258)
  else none

/-- The bits behind a distance symbol, and the least distance that it stands for. -/
def distanceSymbol? (n : Nat) : Option (Nat × Nat) :=
  if n < 4 then some (0, n + 1)
  else if n < 30 then some (n / 2 - 1, (2 + n % 2) * Nat.pow 2 (n / 2 - 1) + 1)
  else none

/-- Copies bytes from so far back. -/
def copy (distance : Nat) : Nat → Reading Unit
  | 0 => return ()
  | n + 1 => do
    let p ← get
    put (p.output[p.output.size - distance]?.getD 0)
    copy distance n

/-- The copy behind a length symbol. -/
def readCopy (distances : Code) (symbol : Nat) : Reading Unit := do
  match lengthSymbol? symbol with
  | none => refuse .literalCode
  | some (extra, least) => do
    let length := least + (← bits extra)
    match (← distances.read).bind distanceSymbol? with
    | none => refuse .distanceCode
    | some (extra, least) => do
      let distance := least + (← bits extra)
      if (← get).output.size < distance then refuse .distanceTooFar
      copy distance length

/-- The symbols of a block. Each of them takes a bit at least. -/
def symbols (literals distances : Code) : Nat → Reading Unit
  | 0 => return ()
  | fuel + 1 => do
    match ← literals.read with
    | none => refuse .literalCode
    | some symbol =>
      if symbol < 256 then
        put (UInt8.ofNat symbol)
        symbols literals distances fuel
      else if symbol == 256 then return ()
      else
        readCopy distances (symbol - 257)
        symbols literals distances fuel

/-- So many bytes as they are. -/
def literally : Nat → Reading Unit
  | 0 => return ()
  | n + 1 => do
    put (UInt8.ofNat (← bits 8))
    literally n

/-- A block of bytes as they are. -/
def stored : Reading Unit := do
  align
  let length ← bits 16
  if length + (← bits 16) != 65535 then refuse .storedLengths
  literally length

/-- The order in which the lengths of the code for lengths are told. -/
def lengthOrder : List Nat := [16, 17, 18, 0, 8, 7, 9, 6, 10, 5, 11, 4, 12, 3, 13, 2, 14, 1, 15]

/-- The lengths of words in the order of their symbols, told by a code with repetitions; `told` holds those before, the
last one first. -/
def lengths (code : Code) (count : Nat) : Nat → List Nat → Reading (List Nat)
  | 0, told => return told.reverse
  | fuel + 1, told => do
    if count ≤ told.length then return told.reverse
    let symbol := (← code.read).getD 0
    if symbol < 16 then lengths code count fuel (symbol :: told)
    else
      let (repeated, least, extra) ← match symbol, told with
        | 16, [] => refuse .lengthRepeat
        | 16, last :: _ => pure (last, 3, 2)
        | 17, _ => pure (0, 3, 3)
        | _, _ => pure (0, 11, 7)
      let times := least + (← bits extra)
      if count < told.length + times then refuse .lengthRepeat
      lengths code count fuel (List.replicate times repeated ++ told)

/-- Whether a code has too many words, or too few of them. A single word of one bit is enough. -/
def isFaulty (c : Code) : Bool := c.room < 0 || (0 < c.room && 1 < c.longest)

/-- The codes that a block describes. -/
def described : Reading (Code × Code) := do
  let literalCount := (← bits 5) + 257
  let distanceCount := (← bits 5) + 1
  let orderCount := (← bits 4) + 4
  if 286 < literalCount || 30 < distanceCount then refuse .tooManySymbols
  let told ← (lengthOrder.take orderCount).mapM fun symbol => do return (symbol, ← bits 3)
  let code := Code.ofLengths ((List.range 19).map fun symbol => (told.find? (·.1 == symbol)).elim 0 (·.2))
  if code.room != 0 && code.longest != 0 then refuse .codeLengths
  let all ← lengths code (literalCount + distanceCount) (literalCount + distanceCount) []
  if all.getD 256 0 == 0 then refuse .missingEnd
  let literals := Code.ofLengths (all.take literalCount)
  let distances := Code.ofLengths (all.drop literalCount)
  if isFaulty literals then refuse .literalCodes
  if isFaulty distances then refuse .distanceCodes
  return (literals, distances)

/-- The blocks up to the last one. Each of them takes three bits at least. -/
def blocks (size : Nat) : Nat → Reading Unit
  | 0 => return ()
  | fuel + 1 => do
    let isLast ← bit
    match ← bits 2 with
    | 0 => stored
    | 1 => symbols fixedLiterals fixedDistances size
    | 2 => do
      let (literals, distances) ← described
      symbols literals distances size
    | _ => refuse .blockType
    if isLast then return () else blocks size fuel

/-! ### Check sums -/

/-- The check sum of two running sums. -/
def sumsOf (bytes : List UInt8) : Nat :=
  let (a, b) := bytes.foldl (fun (a, b) byte => let a := (a + byte.toNat) % 65521; (a, (b + a) % 65521)) (1, 0)
  b * 65536 + a

/-- The remainder after one more bit. -/
def remainderStep (n : Nat) : Nat := if n % 2 == 1 then (n / 2) ^^^ 0xEDB88320 else n / 2

/-- The check sum of a remainder of polynomials. -/
def remainderOf (bytes : List UInt8) : Nat :=
  let remainder := bytes.foldl (fun n byte =>
    (List.range 8).foldl (fun n _ => remainderStep n) (n ^^^ byte.toNat)) 0xFFFFFFFF
  remainder ^^^ 0xFFFFFFFF

/-! ### Envelopes -/

/-- What stands around the blocks. -/
inductive Envelope
  | bare
  | summed
  | file
  deriving DecidableEq, Repr

/-- A number of bytes, the highest first. -/
def highFirst (n : Nat) : Reading Nat := n.fold (fun _ _ acc => do return 256 * (← acc) + (← bits 8)) (return 0)

/-- Blocks between a header of two bytes and a check sum. -/
def summed (size : Nat) : Reading Unit := do
  let first ← bits 8
  let second ← bits 8
  if (256 * first + second) % 31 != 0 then refuse .header
  if first % 16 != 8 then refuse .method
  if 7 < first / 16 then refuse .windowSize
  if second / 32 % 2 == 1 then
    let _ ← bits 32
    refuse .presetNeeded
  blocks size size
  align
  if (← highFirst 4) != sumsOf (← get).output.toList then refuse .dataCheck

/-- Skips a text that ends with a zero. -/
def skipText : Nat → Reading Unit
  | 0 => return ()
  | fuel + 1 => do if (← bits 8) != 0 then skipText fuel

/-- The optional parts of the header of a file. -/
def fileParts (flags size : Nat) : Reading Unit := do
  if flags.testBit 2 then
    let length ← bits 16
    for _ in List.range length do
      let _ ← bits 8
  if flags.testBit 3 then skipText size
  if flags.testBit 4 then skipText size

/-- Blocks in the form of a file: behind a header that may name it, and before a check sum and their length. -/
def file (all : Text.Bytes) : Reading Unit := do
  let size := 8 * all.length + 1
  if (← bits 16) != 0x8B1F then refuse .header
  let method ← bits 8
  let flags ← bits 8
  if method != 8 then refuse .method
  if 0x20 ≤ flags then refuse .headerFlags
  let _ ← bits 48
  fileParts flags size
  if flags.testBit 1 then
    let header := all.take (all.length - (← get).bytes.length)
    if (← bits 16) != remainderOf header % 65536 then refuse .headerCheck
  blocks size size
  align
  let told ← bits 32
  if told != remainderOf (← get).output.toList then refuse .dataCheck
  if (← bits 32) != (← get).output.size % 4294967296 then refuse .lengthCheck

/-- What data in an envelope tell. -/
def read (envelope : Envelope) (bytes : Text.Bytes) : Except Fault Text.Bytes :=
  let size := 8 * bytes.length + 1
  let reading := match envelope with
    | .bare => blocks size size
    | .summed => summed size
    | .file => file bytes
  let (result, p) := reading.run.run ⟨[], bytes, #[]⟩
  match result with
  | .error (.fault cause) => .error cause
  | _ => .ok p.output.toList

end Courier.Exchange.Inflate
