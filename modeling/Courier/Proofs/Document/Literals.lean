import Courier.Proofs.Document.Json
import Courier.Proofs.Text.Encoding
import Courier.Proofs.Text.Escapes
import Mathlib.Data.Nat.Digits.Lemmas

/-! Strings and integers that were written are read as they were. A string can be written with escapes for all that is
beyond ASCII, if no half of a surrogate pair stands in it. An integer ends where a comma or the end of a container
follows, so that the reader stops where the writer did. -/

namespace Courier

namespace Json

/-- What can follow a value: the end of the text, a comma, or the end of a container. -/
def Stops (rest : List Char) : Prop := ∀ c ∈ rest.head?, c = ',' ∨ c = ']' ∨ c = '\x7d'

theorem stops_nil : Stops [] := nofun

theorem stops_cons {c : Char} (h : c = ',' ∨ c = ']' ∨ c = '\x7d') (rest : List Char) : Stops (c :: rest) := by
  rintro _ ⟨⟩
  exact h

/-! ### Strings -/

theorem hexValue?_hexDigit {n : Nat} (h : n < 16) : hexValue? (Text.hexDigit n) = some n := by
  have all : ∀ i : Fin 16, hexValue? (Text.hexDigit i) = some i.val := by decide
  exact all ⟨n, h⟩

theorem fourHex?_hex {n : Nat} (h : n < 0x10000) (rest : List Char) : fourHex? (Text.hex 4 n ++ rest) = some n := by
  have digit (k : Nat) : hexValue? (Text.hexDigit (k % 16)) = some (k % 16) :=
    hexValue?_hexDigit (Nat.mod_lt _ (by decide))
  have hsum : ((n / 4096 % 16 * 16 + n / 256 % 16) * 16 + n / 16 % 16) * 16 + n % 16 = n := by omega
  rw [Text.hex_four]
  simp only [List.cons_append, List.nil_append, fourHex?, digit, Option.bind_eq_bind, Option.bind_some, hsum]
  rfl

/-- The escape of a code unit that starts no pair is read as its character. -/
theorem unicodeEscape_hex {n : Nat} (h : n < 0x10000) (hstart : ¬(0xD800 ≤ n ∧ n < 0xDC00)) (position : Nat)
    {rest : List Char} (hrest : rest ≠ []) :
    unicodeEscape position (Text.hex 4 n ++ rest) = .ok (Text.charOfEscape n, 4) := by
  have hdrop : (Text.hex 4 n ++ rest).drop 4 = rest := List.drop_left' (Text.length_hex 4 n)
  rw [unicodeEscape, hdrop, fourHex?_hex h, if_neg (by simpa using hrest)]
  simp only
  rw [if_neg (by simpa using hstart)]

/-- The escapes of the halves of a pair are read as its character. -/
theorem unicodeEscape_pair {high low : Nat} (hhigh : 0xD800 ≤ high ∧ high < 0xDC00) (hlow : 0xDC00 ≤ low ∧ low < 0xE000)
    (position : Nat) {rest : List Char} (hrest : rest ≠ []) :
    unicodeEscape position (Text.hex 4 high ++ (Text.unitEscape low ++ rest)) =
      .ok (Text.joinSurrogates high low, 10) := by
  have hfirst : (Text.hex 4 high ++ (Text.unitEscape low ++ rest)).drop 4 = '\\' :: 'u' :: (Text.hex 4 low ++ rest) :=
    List.drop_left' (Text.length_hex 4 high)
  have hsecond : (Text.hex 4 low ++ rest).drop 4 = rest := List.drop_left' (Text.length_hex 4 low)
  rw [unicodeEscape, hfirst, fourHex?_hex (by omega), if_neg (by simp)]
  simp only
  rw [if_pos (by simpa using hhigh), hsecond, fourHex?_hex (by omega), if_neg (by simpa using hrest)]
  simp only
  rw [if_pos (by simpa using hlow)]

/-- An escape of one letter is read as its character. -/
theorem readString_letter (start fuel position : Nat) {letter c : Char} (hletter : letter ≠ 'u')
    (h : simpleEscape? letter = some c) (rest acc : List Char) :
    readString start (fuel + 1) ⟨position, '\\' :: letter :: rest⟩ acc =
      readString start fuel ⟨position + 2, rest⟩ (c :: acc) := by
  rw [readString]
  · rw [h]
  · exact hletter

theorem readString_unit (start fuel position : Nat) {n : Nat} (h : n < 0x10000) (hstart : ¬(0xD800 ≤ n ∧ n < 0xDC00))
    {rest acc : List Char} (hrest : rest ≠ []) :
    readString start (fuel + 1) ⟨position, Text.unitEscape n ++ rest⟩ acc =
      readString start fuel ⟨position + 6, rest⟩ (Text.charOfEscape n :: acc) := by
  show readString start (fuel + 1) ⟨position, '\\' :: 'u' :: (Text.hex 4 n ++ rest)⟩ acc = _
  rw [readString, unicodeEscape_hex h hstart _ hrest]
  simp only
  rw [List.drop_left' (Text.length_hex 4 n)]

theorem readString_pair (start fuel position : Nat) {high low : Nat} (hhigh : 0xD800 ≤ high ∧ high < 0xDC00)
    (hlow : 0xDC00 ≤ low ∧ low < 0xE000) {rest acc : List Char} (hrest : rest ≠ []) :
    readString start (fuel + 1) ⟨position, Text.unitEscape high ++ (Text.unitEscape low ++ rest)⟩ acc =
      readString start fuel ⟨position + 12, rest⟩ (Text.joinSurrogates high low :: acc) := by
  have hdrop : (Text.hex 4 high ++ (Text.unitEscape low ++ rest)).drop 10 = rest := by
    rw [← List.append_assoc]
    exact List.drop_left' (by simp [Text.unitEscape, Text.length_hex])
  show readString start (fuel + 1) ⟨position, '\\' :: 'u' :: (Text.hex 4 high ++ (Text.unitEscape low ++ rest))⟩ acc = _
  rw [readString, unicodeEscape_pair hhigh hlow _ hrest]
  simp only
  rw [hdrop]

theorem readString_plain (start fuel position : Nat) {c : Char} (hquote : c ≠ '"') (hslash : c ≠ '\\')
    (h : ¬c.toNat < 32) (rest acc : List Char) :
    readString start (fuel + 1) ⟨position, c :: rest⟩ acc = readString start fuel ⟨position + 1, rest⟩ (c :: acc) := by
  rw [readString]
  · rw [if_neg h]
  all_goals simp [hquote, hslash]

/-- A character of a string in which characters beyond ASCII stand for themselves is read as it was written. -/
theorem exists_readString_jsonChar (start fuel position : Nat) (c : Char) {rest acc : List Char} (h : rest ≠ []) :
    ∃ next, readString start (fuel + 1) ⟨position, Text.jsonChar c ++ rest⟩ acc =
      readString start fuel ⟨next, rest⟩ (c :: acc) := by
  have hletter {letter : Char} (hc : simpleEscape? letter = some c) (hu : letter ≠ 'u')
      (hwritten : Text.jsonChar c = ['\\', letter]) :
      ∃ next, readString start (fuel + 1) ⟨position, Text.jsonChar c ++ rest⟩ acc =
        readString start fuel ⟨next, rest⟩ (c :: acc) := by
    rw [hwritten]
    exact ⟨position + 2, readString_letter start fuel position hu hc rest acc⟩
  unfold Text.jsonChar Text.jsonEscape? at hletter ⊢
  split_ifs at hletter ⊢ with hquote hslash hline hreturn htab hback hform hcontrol
  · exact hletter (by rw [beq_iff_eq.1 hquote]; rfl) (by decide) rfl
  · exact hletter (by rw [beq_iff_eq.1 hslash]; rfl) (by decide) rfl
  · exact hletter (by rw [beq_iff_eq.1 hline]; rfl) (by decide) rfl
  · exact hletter (by rw [beq_iff_eq.1 hreturn]; rfl) (by decide) rfl
  · exact hletter (by rw [beq_iff_eq.1 htab]; rfl) (by decide) rfl
  · exact hletter (by rw [beq_iff_eq.1 hback]; rfl) (by decide) rfl
  · exact hletter (by rw [beq_iff_eq.1 hform]; rfl) (by decide) rfl
  · have hchar : Text.charOfEscape c.toNat = c := by
      rw [← Text.codePoint_of_lt (show c.toNat < 128 by omega), Text.charOfEscape_codePoint]
    refine ⟨position + 6, ?_⟩
    rw [Option.getD_some, readString_unit start fuel position (by omega) (by omega) h, hchar]
  · refine ⟨position + 1, ?_⟩
    exact readString_plain start fuel position (by simpa using hquote) (by simpa using hslash) hcontrol rest acc

/-- A character beyond U+FFFF is the join of its halves. -/
theorem joinSurrogates_splitSurrogates {c : Char} (h : 0x10000 ≤ c.toNat) :
    (0xD800 ≤ (Text.splitSurrogates c).1 ∧ (Text.splitSurrogates c).1 < 0xDC00) ∧
      (0xDC00 ≤ (Text.splitSurrogates c).2 ∧ (Text.splitSurrogates c).2 < 0xE000) ∧
      Text.joinSurrogates (Text.splitSurrogates c).1 (Text.splitSurrogates c).2 = c := by
  have hlt : c.toNat < 0x110000 := by
    rcases c.valid with hvalid | hvalid
    · exact Nat.lt_trans hvalid (by decide)
    · exact hvalid.2
  have hhigh : (c.toNat - 0x10000) / 0x400 < 0x400 := by omega
  have hlow : (c.toNat - 0x10000) % 0x400 < 0x400 := Nat.mod_lt _ (by decide)
  have hsum : 0x10000 + (0xD800 + (c.toNat - 0x10000) / 0x400 - 0xD800) * 0x400 +
      (0xDC00 + (c.toNat - 0x10000) % 0x400 - 0xDC00) = c.toNat := by omega
  refine ⟨⟨Nat.le_add_right _ _, ?_⟩, ⟨Nat.le_add_right _ _, ?_⟩, ?_⟩
  · exact Nat.add_lt_add_left hhigh 0xD800
  · exact Nat.add_lt_add_left hlow 0xDC00
  · rw [Text.joinSurrogates, Text.splitSurrogates, hsum, Char.ofNat_toNat]

/-- A character of a string of ASCII is read as it was written, unless it is the half of a pair. -/
theorem exists_readString_asciiJsonChar (start fuel position : Nat) {c : Char} (hc : Text.isScalar c)
    {rest acc : List Char} (h : rest ≠ []) :
    ∃ next, readString start (fuel + 1) ⟨position, Text.asciiJsonChar c ++ rest⟩ acc =
      readString start fuel ⟨next, rest⟩ (c :: acc) := by
  have hscalar : Text.surrogateOf? c = none := Option.isNone_iff_eq_none.1 hc
  have hplain (hwritten : Text.asciiJsonChar c = Text.jsonChar c) :
      ∃ next, readString start (fuel + 1) ⟨position, Text.asciiJsonChar c ++ rest⟩ acc =
        readString start fuel ⟨next, rest⟩ (c :: acc) := by
    rw [hwritten]
    exact exists_readString_jsonChar start fuel position c h
  cases hescape : Text.jsonEscape? c with
  | some escape => exact hplain (by simp only [Text.asciiJsonChar, Text.jsonChar, hescape, Option.getD_some])
  | none =>
      by_cases hascii : c.toNat < 127
      · exact hplain (by simp only [Text.asciiJsonChar, Text.jsonChar, hescape, if_pos hascii, Option.getD_none])
      by_cases hwide : c.toNat < 0x10000
      · have hwritten : Text.asciiJsonChar c = Text.unitEscape c.toNat := by
          simp only [Text.asciiJsonChar, hescape, if_neg hascii, hscalar, if_pos hwide]
        have hcode : Text.codePoint c = c.toNat := by rw [Text.codePoint, hscalar, Option.getD_none]
        have hchar : Text.charOfEscape c.toNat = c := by rw [← hcode, Text.charOfEscape_codePoint]
        have hstart : ¬(0xD800 ≤ c.toNat ∧ c.toNat < 0xDC00) := by
          have hvalid : c.toNat < 0xD800 ∨ 0xDFFF < c.toNat ∧ c.toNat < 0x110000 := c.valid
          omega
        refine ⟨position + 6, ?_⟩
        rw [hwritten, readString_unit start fuel position hwide hstart h, hchar]
      · have hwritten : Text.asciiJsonChar c =
            Text.unitEscape (Text.splitSurrogates c).1 ++ Text.unitEscape (Text.splitSurrogates c).2 := by
          simp only [Text.asciiJsonChar, hescape, if_neg hascii, hscalar, if_neg hwide]
        obtain ⟨hhigh, hlow, hjoin⟩ := joinSurrogates_splitSurrogates (c := c) (by omega)
        refine ⟨position + 12, ?_⟩
        rw [hwritten, List.append_assoc, readString_pair start fuel position hhigh hlow h, hjoin]

/-- A character of a string, with characters beyond ASCII escaped or not. -/
def lineChar (ascii : Bool) (c : Char) : List Char := if ascii then Text.asciiJsonChar c else Text.jsonChar c

theorem exists_readString_lineChar (start fuel position : Nat) {ascii : Bool} {c : Char}
    (hc : ascii → Text.isScalar c) {rest acc : List Char} (h : rest ≠ []) :
    ∃ next, readString start (fuel + 1) ⟨position, lineChar ascii c ++ rest⟩ acc =
      readString start fuel ⟨next, rest⟩ (c :: acc) := by
  cases ascii with
  | true => exact exists_readString_asciiJsonChar start fuel position (hc rfl) h
  | false => exact exists_readString_jsonChar start fuel position c h

theorem jsonEscape?_ne_nil {c : Char} {escape : List Char} (h : Text.jsonEscape? c = some escape) : escape ≠ [] := by
  unfold Text.jsonEscape? at h
  split_ifs at h <;> cases h <;> exact List.cons_ne_nil _ _

theorem lineChar_ne_nil (ascii : Bool) (c : Char) : lineChar ascii c ≠ [] := by
  unfold lineChar Text.asciiJsonChar Text.jsonChar
  cases hescape : Text.jsonEscape? c with
  | some escape => cases ascii <;> exact jsonEscape?_ne_nil hescape
  | none =>
      cases ascii with
      | false => exact List.cons_ne_nil _ _
      | true =>
          simp only [if_true]
          split
          · exact List.cons_ne_nil _ _
          · split
            · exact List.cons_ne_nil _ _
            · split <;> exact List.cons_ne_nil _ _

/-- A string is read as it was written. -/
theorem exists_readString (start fuel position : Nat) {ascii : Bool} {cs : List Char}
    (hcs : ascii → ∀ c ∈ cs, Text.isScalar c) (rest acc : List Char) (hfuel : cs.length < fuel) :
    ∃ next, readString start fuel ⟨position, cs.flatMap (lineChar ascii) ++ '"' :: rest⟩ acc =
      .ok (String.ofList (acc.reverse ++ cs), ⟨next, rest⟩) := by
  induction cs generalizing fuel position acc with
  | nil =>
      obtain ⟨fuel, rfl⟩ := Nat.exists_eq_succ_of_ne_zero (Nat.ne_of_gt hfuel)
      refine ⟨position + 1, ?_⟩
      rw [List.append_nil]
      rfl
  | cons c cs ih =>
      obtain ⟨fuel, rfl⟩ := Nat.exists_eq_succ_of_ne_zero (Nat.ne_of_gt (Nat.zero_lt_of_lt hfuel))
      have hrest : cs.flatMap (lineChar ascii) ++ '"' :: rest ≠ [] := by simp
      obtain ⟨middle, hc⟩ := exists_readString_lineChar start fuel position
        (fun hascii => hcs hascii c List.mem_cons_self) hrest
      obtain ⟨next, hnext⟩ := ih fuel middle (fun hascii d hd => hcs hascii d (List.mem_cons_of_mem _ hd)) (c :: acc)
        (Nat.lt_of_succ_lt_succ hfuel)
      refine ⟨next, ?_⟩
      rw [List.flatMap_cons, List.append_assoc, hc, hnext, List.reverse_cons, List.append_assoc]
      rfl

/-! ### Integers -/

theorem isAsciiDigit_of_mem_toDigits {n : Nat} {c : Char} (h : c ∈ Nat.toDigits 10 n) : Text.isAsciiDigit c :=
  Nat.isDigit_of_mem_toDigits (by decide) (by decide) h

/-- Digits are taken up to the first character that is none. -/
theorem takeDigits_append {digits rest : List Char} (h : ∀ c ∈ digits, Text.isAsciiDigit c)
    (hrest : ∀ c ∈ rest.head?, Text.isAsciiDigit c = false) :
    takeDigits (digits ++ rest) = (digits.map fun c => c.toNat - 48, rest) := by
  induction digits with
  | nil =>
      cases rest with
      | nil => rfl
      | cons c rest => rw [List.nil_append, takeDigits, if_neg (by simp [hrest c rfl])]; rfl
  | cons c digits ih =>
      rw [List.cons_append, takeDigits, if_pos (h c List.mem_cons_self),
        ih fun d hd => h d (List.mem_cons_of_mem _ hd)]
      rfl

theorem exists_toDigits (n : Nat) : ∃ c cs, Nat.toDigits 10 n = c :: cs ∧ Text.isAsciiDigit c := by
  cases hdigits : Nat.toDigits 10 n with
  | nil => exact absurd hdigits Nat.toDigits_ne_nil
  | cons c cs =>
      refine ⟨c, cs, rfl, isAsciiDigit_of_mem_toDigits (n := n) ?_⟩
      rw [hdigits]
      exact List.mem_cons_self

theorem natOfDigits_toDigits (n : Nat) :
    Number.natOfDigits ((Nat.toDigits 10 n).map fun c => c.toNat - 48) = n := by
  rw [Number.natOfDigits, List.foldl_map]
  exact Nat.ofDigitChars_ten_toDigits

/-- Only the number without any other digit starts with a zero. -/
theorem toDigits_ne_zero_cons {n : Nat} (h : n ≠ 0) (rest : List Char) : Nat.toDigits 10 n ≠ '0' :: rest := by
  induction n using Nat.strong_induction_on generalizing rest with
  | _ n ih =>
      rw [Nat.toDigits_eq_if (by decide)]
      split
      · rename_i hlt
        have all : ∀ i : Fin 10, i.val ≠ 0 → Nat.digitChar i.val ≠ '0' := by decide
        exact fun heq => all ⟨n, hlt⟩ h (List.cons.inj heq).1
      · rename_i hlt
        have htens : n / 10 ≠ 0 := by omega
        intro heq
        obtain ⟨c, front, hfront, -⟩ := exists_toDigits (n / 10)
        rw [hfront, List.cons_append] at heq
        exact ih (n / 10) (by omega) htens front (by rw [hfront, (List.cons.inj heq).1])

/-- The digits of a number. -/
def digitsOf (n : Nat) : List Nat := (Nat.toDigits 10 n).map fun c => c.toNat - 48

theorem wholePart?_toDigits (n : Nat) {rest : List Char} (hrest : ∀ c ∈ rest.head?, Text.isAsciiDigit c = false) :
    wholePart? (Nat.toDigits 10 n ++ rest) = some (digitsOf n, rest) := by
  by_cases hn : n = 0
  · subst hn
    rfl
  · have htake := takeDigits_append (fun c => isAsciiDigit_of_mem_toDigits (n := n)) hrest
    unfold wholePart?
    split
    · rename_i heq
      obtain ⟨c, digits, hdigits, -⟩ := exists_toDigits n
      rw [hdigits, List.cons_append] at heq
      exact absurd (by rw [hdigits, (List.cons.inj heq).1]) (toDigits_ne_zero_cons hn digits)
    · rw [htake]
      split
      · rename_i heq
        have hnil := (Prod.mk.inj heq).1
        exact absurd (List.map_eq_nil_iff.1 hnil) Nat.toDigits_ne_nil
      · rfl

theorem not_digit_of_stops {rest : List Char} (h : Stops rest) : ∀ c ∈ rest.head?, Text.isAsciiDigit c = false := by
  intro c hc
  rcases h c hc with rfl | rfl | rfl <;> rfl

theorem fractionPart_of_stops {rest : List Char} (h : Stops rest) : fractionPart rest = (none, rest) := by
  cases rest with
  | nil => rfl
  | cons c rest => rcases h c rfl with rfl | rfl | rfl <;> rfl

theorem exponentPart_of_stops {rest : List Char} (h : Stops rest) : exponentPart rest = (none, rest) := by
  cases rest with
  | nil => rfl
  | cons c rest => rcases h c rfl with rfl | rfl | rfl <;> rfl

/-- The text of an integer. -/
theorem toList_writeInt (i : Int) : (Number.writeInt i).toList =
    if i < 0 then '-' :: Nat.toDigits 10 i.natAbs else Nat.toDigits 10 i.natAbs := by
  unfold Number.writeInt
  split
  · rw [Nat.repr_eq_ofList_toDigits]
    simp
  · rw [Nat.repr_eq_ofList_toDigits, String.toList_ofList]

theorem length_digitsOf {i : Int} (h : Number.writeInt? i = some (Number.writeInt i)) :
    (digitsOf i.natAbs).length ≤ Number.digitLimit := by
  unfold Number.writeInt? at h
  simp only at h
  split at h
  · cases h
  · rename_i hlength
    rw [Nat.repr_eq_ofList_toDigits, String.length_ofList] at hlength
    rw [digitsOf, List.length_map]
    omega

/-- An integer that is short enough is read as it was written. -/
theorem exists_readNumber {i : Int} (h : Number.writeInt? i = some (Number.writeInt i)) (position : Nat)
    {rest : List Char} (hrest : Stops rest) :
    ∃ next, readNumber ⟨position, (Number.writeInt i).toList ++ rest⟩ = .ok (.int i, ⟨next, rest⟩) := by
  have hwhole := wholePart?_toDigits i.natAbs (not_digit_of_stops hrest)
  have hlength : ¬Number.digitLimit < (digitsOf i.natAbs).length := Nat.not_lt.2 (length_digitsOf h)
  have hvalue : Number.natOfDigits (digitsOf i.natAbs) = i.natAbs := natOfDigits_toDigits i.natAbs
  rw [toList_writeInt]
  by_cases hi : i < 0
  · have habs : -(i.natAbs : Int) = i := by omega
    rw [if_pos hi, List.cons_append]
    unfold readNumber
    simp only [hwhole, fractionPart_of_stops hrest, exponentPart_of_stops hrest, if_neg hlength, hvalue,
      Option.isNone_none, Bool.and_self, if_true, habs]
    exact ⟨_, rfl⟩
  · have habs : (i.natAbs : Int) = i := by omega
    rw [if_neg hi]
    have hsign : ∀ cs, Nat.toDigits 10 i.natAbs ++ rest = '-' :: cs → False := by
      intro cs heq
      obtain ⟨c, digits, hdigits, hc⟩ := exists_toDigits i.natAbs
      rw [hdigits, List.cons_append] at heq
      obtain rfl : c = '-' := (List.cons.inj heq).1
      cases hc
    -- the sign is told from the digits by `hsign`
    unfold readNumber
    simp only [hwhole, fractionPart_of_stops hrest, exponentPart_of_stops hrest, if_neg hlength, hvalue,
      Option.isNone_none, Bool.and_self, if_true, Bool.false_eq_true, if_false, habs]
    exact ⟨_, rfl⟩

end Json

end Courier
