import Courier.Text.NameTables
import Courier.Text.Percent
import Courier.Text.Quoted

/-!
Characters by their names. Most names are in a table. Ideographs are named by their code points, the syllables of
Hangul by their letters, and selectors of variants by their numbers.
-/

namespace Courier.Text.Named

/-- The number of hexadecimal digits. -/
def hexNumber (digits : List Char) : Nat := digits.foldl (fun n c => 16 * n + (hexDigit? c).getD 0) 0

/-- The entries of a table. -/
def entries (table : String) : List String := (table.splitOn "\n").flatMap fun line => line.splitOn ";"

/-- The code point of a name among entries that share words with the one before. `code` is the code point of the next
entry, unless it has its own. -/
def codeIn? (name : List String) : Nat → List String → List String → Option Nat
  | _, _, [] => none
  | code, before, entry :: rest =>
    let (code, entry) := match entry.splitOn ":" with
      | [own, entry] => (hexNumber own.toList, entry)
      | _ => (code, entry)
    let cs := entry.toList
    let shared := (cs.head?.map fun c => c.toNat - 48).getD 0
    let words := before.take shared ++ (String.ofList cs.tail).splitOn " "
    if words == name then some code else codeIn? name (code + 1) words rest

/-- The code point of another name of a character. -/
def otherCode? (name : String) : Option Nat :=
  (entries NameTables.others).findSome? fun entry =>
    match entry.splitOn ":" with
    | [code, other] => if other == name then some (hexNumber code.toList) else none
    | _ => none

/-- What is behind the start of a name. -/
def behind? (start name : String) : Option (List Char) :=
  if start.toList.isPrefixOf name.toList then some (name.toList.drop start.length) else none

/-! ### Names by rule -/

/-- Ranges of ideographs. -/
def ideographs : List (Nat × Nat) :=
  [(0x3400, 0x4DBF), (0x4E00, 0x9FFF), (0x20000, 0x2A6DF), (0x2A700, 0x2B738), (0x2B740, 0x2B81D), (0x2B820, 0x2CEA1),
    (0x2CEB0, 0x2EBE0), (0x30000, 0x3134A)]

/-- Ranges of other characters that are named by their code points. -/
def numbered : List (String × Nat × Nat) :=
  [("CJK COMPATIBILITY IDEOGRAPH-", 0xF900, 0xFA6D), ("CJK COMPATIBILITY IDEOGRAPH-", 0xFA70, 0xFAD9),
    ("CJK COMPATIBILITY IDEOGRAPH-", 0x2F800, 0x2FA1D), ("KHITAN SMALL SCRIPT CHARACTER-", 0x18B00, 0x18CD5),
    ("NUSHU CHARACTER-", 0x1B170, 0x1B2FB)]

/-- Whether digits are hexadecimal ones in capitals. -/
def areCapitalDigits (digits : List Char) : Bool :=
  digits.all fun c => isAsciiDigit c || ('A' ≤ c && c ≤ 'F')

/-- The ideograph of a code point of four or five digits. -/
def ideograph? (digits : List Char) : Option Nat :=
  let code := hexNumber digits
  if (digits.length == 4 || digits.length == 5) && areCapitalDigits digits &&
      ideographs.any fun (first, last) => first ≤ code && code ≤ last
  then some code else none

/-- The character of a range whose name ends with its code point. -/
def numberedCode? (name : String) : Option Nat :=
  numbered.findSome? fun (start, first, last) => do
    let digits ← behind? start name
    let code := hexNumber digits
    if areCapitalDigits digits && digits.head? != some '0' && first ≤ code && code ≤ last then some code else none

/-- The names of the letters that a syllable starts with. -/
def initials : List String :=
  ["G", "GG", "N", "D", "DD", "R", "M", "B", "BB", "S", "SS", "", "J", "JJ", "C", "K", "T", "P", "H"]

/-- The names of the vowels of syllables. -/
def vowels : List String :=
  ["A", "AE", "YA", "YAE", "EO", "E", "YEO", "YE", "O", "WA", "WAE", "OE", "YO", "U", "WEO", "WE", "WI", "YU", "EU",
    "YI", "I"]

/-- The names of the letters that a syllable ends with. -/
def finals : List String :=
  ["", "G", "GG", "GS", "N", "NJ", "NH", "D", "L", "LG", "LM", "LB", "LS", "LT", "LP", "LH", "M", "B", "BS", "S", "SS",
    "NG", "J", "C", "K", "T", "P", "H"]

/-- The longest of some names that a text starts with: its number, and what is behind it. -/
def longest? (names : List String) (cs : List Char) : Option (Nat × List Char) :=
  let fitting := names.zipIdx.filter fun (s, _) => s.toList.isPrefixOf cs
  let best := fitting.foldl (fun best (s, n) => match best with
    | some (t, m) => if t.length < s.length then some (s, n) else some (t, m)
    | none => some (s, n)) (none : Option (String × Nat))
  best.map fun (s, n) => (n, cs.drop s.length)

/-- The syllable of the names of its letters. -/
def syllable? (cs : List Char) : Option Nat := do
  let (initial, rest) ← longest? initials cs
  let (vowel, rest) ← longest? vowels rest
  let (final, rest) ← longest? finals rest
  if rest.isEmpty then some (0xAC00 + (initial * 21 + vowel) * 28 + final) else none

/-- The number that decimal digits without a zero in front stand for. -/
def plainNumber? (digits : List Char) : Option Nat :=
  if digits.isEmpty || digits.head? == some '0' || !digits.all isAsciiDigit then none
  else some (digits.foldl (fun n c => 10 * n + (c.toNat - 48)) 0)

/-- The selector of a variant by its number: those up to 16 stand apart from the others. -/
def selector? (number : Nat) : Option Nat :=
  if number == 0 || 256 < number then none
  else some (if number ≤ 16 then 0xFDFF + number else 0xE00EF + number)

/-- The code point of a name that follows a rule, in capitals. -/
def codeByRule? (name : String) : Option Nat :=
  (numberedCode? name).orElse fun _ =>
    ((behind? "VARIATION SELECTOR-" name).orElse fun _ => behind? "VS" name).bind fun digits =>
      (plainNumber? digits).bind selector?

/-! ### Names -/

/-- The code point of a name. Small letters count as capitals, except in the names of ideographs and syllables. -/
def code? (name : String) : Option Nat :=
  match behind? "CJK UNIFIED IDEOGRAPH-" name, behind? "HANGUL SYLLABLE " name with
  | some digits, _ => ideograph? digits
  | none, some letters => syllable? letters
  | none, none =>
    let name := name.map Char.toUpper
    (codeByRule? name).orElse fun _ =>
      (otherCode? name).orElse fun _ =>
        NameTables.all.findSome? fun table => codeIn? (name.splitOn " ") 0 [] (entries table)

/-- The character of a name. -/
def character? (name : String) : Option Char := (code? name).map Char.ofNat

end Courier.Text.Named
