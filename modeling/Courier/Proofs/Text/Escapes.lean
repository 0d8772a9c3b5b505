import Mathlib.Data.List.TakeWhile
import Courier.Language.Token.Reader

/-! Texts in quotes that are read as texts of the language. In a text that is written as a JSON string of ASCII, every
character that is one code unit is read back as itself: the quotes of the written form are found where they stand, and
each escape in it stands for the character it was made of. A text without quotes and backslashes may stand between
quotes as it is. -/

namespace Courier.Text

/-- The code point of a character, which may be a half of a surrogate pair. -/
def codePoint (c : Char) : Nat := (surrogateOf? c).getD c.toNat

/-- No character is a half of a surrogate pair by its own number. -/
theorem charOfEscape_toNat (c : Char) : charOfEscape c.toNat = c := by
  have hrange : c.toNat < 0xD800 ∨ 0xDFFF < c.toNat := by
    rcases c.valid with h | h
    · exact Or.inl h
    · exact Or.inr h.1
  unfold charOfEscape
  rw [if_neg (by simp; omega)]
  exact Char.ofNat_toNat c

theorem charOfEscape_codePoint (c : Char) : charOfEscape (codePoint c) = c := by
  by_cases h : surrogateBase ≤ c.toNat ∧ c.toNat < surrogateBase + 0x800
  · have hcode : codePoint c = 0xD800 + (c.toNat - surrogateBase) := by
      unfold codePoint surrogateOf?
      rw [if_pos (by simpa using h), Option.getD_some]
    unfold charOfEscape
    rw [hcode, if_pos (by simp; omega)]
    rw [show surrogateBase + (0xD800 + (c.toNat - surrogateBase) - 0xD800) = c.toNat by omega]
    exact Char.ofNat_toNat c
  · have hcode : codePoint c = c.toNat := by
      unfold codePoint surrogateOf?
      rw [if_neg (by simpa using h), Option.getD_none]
    rw [hcode, charOfEscape_toNat]

/-! ### Hexadecimal digits -/

theorem hexDigit?_hexDigit {n : Nat} (h : n < 16) : hexDigit? (hexDigit n) = some n := by
  have all : ∀ i : Fin 16, hexDigit? (hexDigit i) = some i.val := by decide
  exact all ⟨n, h⟩

theorem hexDigit_toNat_lt {n : Nat} (h : n < 16) : (hexDigit n).toNat < 128 := by
  have all : ∀ i : Fin 16, (hexDigit i).toNat < 128 := by decide
  exact all ⟨n, h⟩

theorem hexDigit_not_mark {n : Nat} (h : n < 16) :
    hexDigit n ≠ '"' ∧ hexDigit n ≠ '\\' ∧ hexDigit n ≠ '\r' := by
  have all : ∀ i : Fin 16, hexDigit i ≠ '"' ∧ hexDigit i ≠ '\\' ∧ hexDigit i ≠ '\r' := by decide
  exact all ⟨n, h⟩

theorem hex_four (n : Nat) :
    hex 4 n = [hexDigit (n / 4096 % 16), hexDigit (n / 256 % 16), hexDigit (n / 16 % 16), hexDigit (n % 16)] := by
  simp [hex, Nat.div_div_eq_div_mul]

theorem length_hex (width n : Nat) : (hex width n).length = width := by
  induction width generalizing n with
  | zero => rfl
  | succ width ih => rw [hex, List.length_append, ih, List.length_singleton]

theorem exists_of_mem_hex {width n : Nat} {c : Char} (h : c ∈ hex width n) : ∃ d < 16, c = hexDigit d := by
  induction width generalizing n with
  | zero => cases h
  | succ width ih =>
      rcases List.mem_append.1 h with h | h
      · exact ih h
      · exact ⟨n % 16, Nat.mod_lt n (by decide), List.mem_singleton.1 h⟩

theorem isSome_of_mem_hex {width n : Nat} {c : Char} (h : c ∈ hex width n) : (hexDigit? c).isSome := by
  obtain ⟨d, hd, rfl⟩ := exists_of_mem_hex h
  rw [hexDigit?_hexDigit hd]
  rfl

/-- Digits are read as the number that they were made of, as far as they hold it. -/
theorem foldl_hex (width n before : Nat) :
    ((hex width n).filterMap hexDigit?).foldl (fun n d => 16 * n + d) before =
      Nat.pow 16 width * before + n % Nat.pow 16 width := by
  induction width generalizing n with
  | zero => simp [hex, Nat.mod_one]
  | succ width ih =>
      have hlast : [hexDigit (n % 16)].filterMap hexDigit? = [n % 16] := by
        rw [List.filterMap_cons, hexDigit?_hexDigit (Nat.mod_lt n (by decide))]
        rfl
      have hpow : Nat.pow 16 (width + 1) = 16 * Nat.pow 16 width := Nat.mul_comm _ _
      rw [hex, List.filterMap_append, List.foldl_append, ih, hlast, hpow, Nat.mod_mul]
      show 16 * (Nat.pow 16 width * before + n / 16 % Nat.pow 16 width) + n % 16 = _
      rw [Nat.mul_add, Nat.mul_assoc, Nat.add_assoc, Nat.add_comm (n % 16)]

/-- Digits behind the letter of their width are read as the code point that they were made of. -/
theorem hexadecimal_hex {width n : Nat} (hwidth : n < Nat.pow 16 width) (hmax : n ≤ 0x10FFFF) (wording : String)
    (rest : List Char) :
    Escape.hexadecimal width wording (hex width n ++ rest) = ⟨.ok [charOfEscape n], width + 1⟩ := by
  have htake : (hex width n ++ rest).take width = hex width n := List.take_left' (length_hex width n)
  have hall : (hex width n).takeWhile (fun c => (hexDigit? c).isSome) = hex width n :=
    List.takeWhile_eq_self_iff.2 fun c hc => isSome_of_mem_hex hc
  have hlength : ((hex width n).filterMap hexDigit?).length = width := by
    rw [List.length_filterMap_eq_countP, List.countP_eq_length.2 fun c hc => isSome_of_mem_hex hc, length_hex]
  have hcode := foldl_hex width n 0
  rw [Nat.mul_zero, Nat.zero_add, Nat.mod_eq_of_lt hwidth] at hcode
  simp only [Escape.hexadecimal, htake, hall, hlength, hcode]
  rw [if_neg (Nat.lt_irrefl width), if_neg (Nat.not_lt.2 hmax)]

/-- A character that is no backslash is read as itself. -/
theorem read_plain {c : Char} (h : c ≠ '\\') (fuel : Nat) (rest : List Char) :
    Escape.read (fuel + 1) (c :: rest) = (Escape.read fuel rest).map (c :: ·) := by
  rw [Escape.read.eq_def]
  split
  · simp_all
  · simp_all
  · simp_all
  · simp_all only [List.cons.injEq]
    cases Escape.read fuel rest <;> simp_all [bind, Except.bind, pure, Except.pure, Except.map]

/-- An escape that is followed by other characters is read as what it means. -/
theorem read_escape {c : Char} {tail rest : List Char}
    (h : Escape.ofTail (tail ++ rest) = ⟨.ok [c], tail.length⟩) (fuel : Nat) :
    Escape.read (fuel + 1) ('\\' :: tail ++ rest) = (Escape.read fuel rest).map (c :: ·) := by
  have hdrop : (tail ++ rest).drop tail.length = rest := List.drop_left
  rw [List.cons_append, Escape.read]
  simp only [h, hdrop]
  cases Escape.read fuel rest <;> rfl

/-! ### The written form of a character -/

/-- What a character is written as: itself, a letter behind a backslash, or four digits behind a backslash and a
`u`. -/
inductive Written (c : Char) : List Char → Prop
  | plain (h : c ≠ '"' ∧ c ≠ '\\' ∧ c ≠ '\r' ∧ c.toNat < 128) : Written c [c]
  | letter (l : Char) (hl : Escape.ofLetter? l = some [c]) (h : l ≠ '\r' ∧ l.toNat < 128) : Written c ['\\', l]
  | digits (h : codePoint c < 0x10000) : Written c ('\\' :: 'u' :: hex 4 (codePoint c))

theorem codePoint_of_lt {c : Char} (h : c.toNat < 128) : codePoint c = c.toNat := by
  unfold codePoint surrogateOf? surrogateBase
  rw [if_neg (by simp; omega), Option.getD_none]

theorem written_asciiJsonChar {c : Char} (h : codePoint c < 0x10000) : Written c (asciiJsonChar c) := by
  unfold asciiJsonChar jsonEscape?
  by_cases hquote : c = '"'
  · subst hquote
    exact .letter '"' (by decide) (by decide)
  by_cases hback : c = '\\'
  · subst hback
    exact .letter '\\' (by decide) (by decide)
  by_cases hn : c = '\n'
  · subst hn
    exact .letter 'n' (by decide) (by decide)
  by_cases hr : c = '\r'
  · subst hr
    exact .letter 'r' (by decide) (by decide)
  by_cases ht : c = '\t'
  · subst ht
    exact .letter 't' (by decide) (by decide)
  by_cases hb : c = '\x08'
  · subst hb
    exact .letter 'b' (by decide) (by decide)
  by_cases hf : c = '\x0c'
  · subst hf
    exact .letter 'f' (by decide) (by decide)
  simp only [hquote, hback, hn, hr, ht, hb, hf, beq_iff_eq, if_false]
  by_cases hcontrol : c.toNat < 32
  · rw [if_pos hcontrol]
    have := Written.digits h
    rw [codePoint_of_lt (by omega)] at this
    exact this
  rw [if_neg hcontrol]
  by_cases hascii : c.toNat < 127
  · simp only [if_pos hascii]
    exact .plain ⟨hquote, hback, hr, by omega⟩
  simp only [if_neg hascii]
  have hdigits := Written.digits h
  unfold codePoint at h hdigits
  cases hs : surrogateOf? c with
  | some code =>
      rw [hs] at hdigits
      exact hdigits
  | none =>
      rw [hs] at h hdigits
      simp only [Option.getD_none] at h hdigits
      simp only [if_pos h]
      exact hdigits

theorem written_ne_nil {c : Char} {w : List Char} (h : Written c w) : 0 < w.length := by
  cases h <;> simp

theorem written_ascii {c : Char} {w : List Char} (h : Written c w) : ∀ x ∈ w, x ≠ '\r' ∧ x.toNat < 128 := by
  cases h with
  | plain h => simpa using ⟨h.2.2.1, h.2.2.2⟩
  | letter l _ h => simpa using h
  | digits h =>
      intro x hx
      rcases List.mem_cons.1 hx with rfl | hx
      · decide
      rcases List.mem_cons.1 hx with rfl | hx
      · decide
      obtain ⟨d, hd, rfl⟩ := exists_of_mem_hex hx
      exact ⟨(hexDigit_not_mark hd).2.2, hexDigit_toNat_lt hd⟩

/-- A character that is neither a quote nor a backslash is part of the text. -/
theorem quotedLength_cons {c : Char} (hquote : c ≠ '"') (hback : c ≠ '\\') (n : Nat) (rest : List Char) :
    Language.Token.quotedLength '"' n (c :: rest) = Language.Token.quotedLength '"' (n + 1) rest := by
  rw [Language.Token.quotedLength.eq_def]
  split
  · simp_all
  · simp_all
  · simp_all

theorem quotedLength_append {cs : List Char} (h : ∀ c ∈ cs, c ≠ '"' ∧ c ≠ '\\') (n : Nat) (rest : List Char) :
    Language.Token.quotedLength '"' n (cs ++ rest) = Language.Token.quotedLength '"' (n + cs.length) rest := by
  induction cs generalizing n with
  | nil => rfl
  | cons c cs ih =>
      obtain ⟨⟨hquote, hback⟩, hcs⟩ := List.forall_mem_cons.1 h
      rw [List.cons_append, quotedLength_cons hquote hback, ih hcs, List.length_cons]
      congr 1
      omega

theorem quotedLength_quote (n : Nat) (rest : List Char) :
    Language.Token.quotedLength '"' n ('"' :: rest) = n + 1 := by
  simp [Language.Token.quotedLength]

/-- The quote that ends a text is not found in the written form of a character. -/
theorem quotedLength_written {c : Char} {w : List Char} (h : Written c w) (n : Nat) (rest : List Char) :
    Language.Token.quotedLength '"' n (w ++ rest) = Language.Token.quotedLength '"' (n + w.length) rest := by
  cases h with
  | plain h => exact quotedLength_cons h.1 h.2.1 n rest
  | letter l hl h => simp [Language.Token.quotedLength]
  | digits h =>
      have hdigits : ∀ x ∈ hex 4 (codePoint c), x ≠ '"' ∧ x ≠ '\\' := by
        intro x hx
        obtain ⟨d, hd, rfl⟩ := exists_of_mem_hex hx
        exact ⟨(hexDigit_not_mark hd).1, (hexDigit_not_mark hd).2.1⟩
      have hskip := quotedLength_append hdigits (n + 2) rest
      rw [List.cons_append, List.cons_append, Language.Token.quotedLength, hskip, List.length_cons, List.length_cons]
      congr 1

/-- An escape is read as the character that it was made of. -/
theorem read_written {c : Char} {w : List Char} (h : Written c w) (fuel : Nat) (rest : List Char) :
    Escape.read (fuel + 1) (w ++ rest) = (Escape.read fuel rest).map (c :: ·) := by
  cases h with
  | plain h => exact read_plain h.2.1 fuel rest
  | letter l hl h =>
      have htail : Escape.ofTail ([l] ++ rest) = ⟨.ok [c], [l].length⟩ := by
        simp only [List.cons_append, List.nil_append, Escape.ofTail, hl]
        rfl
      exact read_escape htail fuel
  | digits h =>
      have htail : Escape.ofTail ('u' :: hex 4 (codePoint c) ++ rest) =
          ⟨.ok [c], ('u' :: hex 4 (codePoint c)).length⟩ := by
        have hletter : Escape.ofLetter? 'u' = none := by decide
        rw [List.length_cons, length_hex, List.cons_append]
        simp only [Escape.ofTail, hletter]
        rw [if_neg (by decide), if_neg (by decide), if_pos (by decide), hexadecimal_hex h (by omega),
          charOfEscape_codePoint]
      exact read_escape htail fuel

/-! ### The written form of a text -/

/-- What stands between the quotes. -/
def asciiJsonBody (cs : List Char) : List Char := cs.flatMap asciiJsonChar

theorem toList_asciiJsonString (s : String) :
    (asciiJsonString s).toList = '"' :: (asciiJsonBody s.toList ++ ['"']) := by
  simp [asciiJsonString, asciiJsonBody]

variable {cs : List Char} (h : ∀ c ∈ cs, codePoint c < 0x10000)

include h in
theorem asciiJsonBody_ascii : ∀ x ∈ asciiJsonBody cs, x ≠ '\r' ∧ x.toNat < 128 := by
  intro x hx
  obtain ⟨c, hc, hxc⟩ := List.mem_flatMap.1 hx
  exact written_ascii (written_asciiJsonChar (h c hc)) x hxc

include h in
theorem quotedLength_asciiJsonBody (n : Nat) (rest : List Char) :
    Language.Token.quotedLength '"' n (asciiJsonBody cs ++ '"' :: rest) = n + (asciiJsonBody cs).length + 1 := by
  induction cs generalizing n with
  | nil => exact quotedLength_quote n rest
  | cons c cs ih =>
      have hc := written_asciiJsonChar (h c List.mem_cons_self)
      have hbody : asciiJsonBody (c :: cs) = asciiJsonChar c ++ asciiJsonBody cs := rfl
      rw [hbody, List.append_assoc, quotedLength_written hc, ih (fun x hx => h x (List.mem_cons_of_mem _ hx)),
        List.length_append]
      omega

include h in
theorem read_asciiJsonBody (fuel : Nat) (hfuel : (asciiJsonBody cs).length < fuel) :
    Escape.read fuel (asciiJsonBody cs) = .ok cs := by
  induction cs generalizing fuel with
  | nil =>
      obtain ⟨fuel, rfl⟩ := Nat.exists_eq_succ_of_ne_zero (Nat.ne_of_gt (Nat.zero_lt_of_lt hfuel))
      rfl
  | cons c cs ih =>
      have hc := written_asciiJsonChar (h c List.mem_cons_self)
      have hbody : asciiJsonBody (c :: cs) = asciiJsonChar c ++ asciiJsonBody cs := rfl
      have hpos := written_ne_nil hc
      rw [hbody, List.length_append] at hfuel
      obtain ⟨fuel, rfl⟩ := Nat.exists_eq_succ_of_ne_zero (Nat.ne_of_gt (Nat.zero_lt_of_lt hfuel))
      rw [hbody, read_written hc, ih (fun x hx => h x (List.mem_cons_of_mem _ hx)) fuel (by omega)]
      rfl

/-! ### A text that needs no escapes -/

/-- The escape of a code point stands for the code point. -/
theorem exists_numericEscape {code : Nat} (h : code ≤ 0x10FFFF) :
    ∃ tail, numericEscape code = '\\' :: tail ∧
      ∀ rest, Escape.ofTail (tail ++ rest) = ⟨.ok [charOfEscape code], tail.length⟩ := by
  have hx : Escape.ofLetter? 'x' = none := by decide
  have hu : Escape.ofLetter? 'u' = none := by decide
  have hU : Escape.ofLetter? 'U' = none := by decide
  unfold numericEscape
  by_cases htwo : code < 256
  · refine ⟨_, if_pos htwo, fun rest => ?_⟩
    rw [List.length_cons, length_hex, List.cons_append]
    simp only [Escape.ofTail, hx]
    rw [if_neg (by decide), if_pos (by decide), hexadecimal_hex htwo h]
  rw [if_neg htwo]
  by_cases hfour : code < 0x10000
  · refine ⟨_, if_pos hfour, fun rest => ?_⟩
    rw [List.length_cons, length_hex, List.cons_append]
    simp only [Escape.ofTail, hu]
    rw [if_neg (by decide), if_neg (by decide), if_pos (by decide), hexadecimal_hex hfour h]
  · refine ⟨_, if_neg hfour, fun rest => ?_⟩
    rw [List.length_cons, length_hex, List.cons_append]
    simp only [Escape.ofTail, hU]
    rw [if_neg (by decide), if_neg (by decide), if_neg (by decide), if_pos (by decide),
      hexadecimal_hex (Nat.lt_of_le_of_lt h (by decide)) h]

/-- A character that is no backslash is read as itself, whether it is escaped first or not. -/
theorem read_asEscape {c : Char} (h : c ≠ '\\') (fuel : Nat) (rest : List Char) :
    Escape.read (fuel + 1) (Language.Token.asEscape c ++ rest) = (Escape.read fuel rest).map (c :: ·) := by
  unfold Language.Token.asEscape
  split
  · exact read_plain h fuel rest
  · have hmax : c.toNat ≤ 0x10FFFF := by
      rcases c.valid with h | h
      · exact Nat.le_of_lt (Nat.lt_trans h (by decide))
      · exact Nat.le_of_lt_succ h.2
    obtain ⟨tail, hescape, htail⟩ := exists_numericEscape hmax
    have hread := htail rest
    rw [charOfEscape_toNat] at hread
    rw [hescape]
    exact read_escape hread fuel

theorem length_asEscape_pos (c : Char) : 0 < (Language.Token.asEscape c).length := by
  unfold Language.Token.asEscape numericEscape
  split
  · exact Nat.one_pos
  · split
    · exact Nat.succ_pos _
    · split <;> exact Nat.succ_pos _

theorem read_flatMap_asEscape {cs : List Char} (h : ∀ c ∈ cs, c ≠ '\\') {fuel : Nat}
    (hfuel : (cs.flatMap Language.Token.asEscape).length < fuel) :
    Escape.read fuel (cs.flatMap Language.Token.asEscape) = .ok cs := by
  induction cs generalizing fuel with
  | nil =>
      obtain ⟨fuel, rfl⟩ := Nat.exists_eq_succ_of_ne_zero (Nat.ne_of_gt (Nat.zero_lt_of_lt hfuel))
      rfl
  | cons c cs ih =>
      obtain ⟨hc, hcs⟩ := List.forall_mem_cons.1 h
      have hpos := length_asEscape_pos c
      rw [List.flatMap_cons, List.length_append] at hfuel
      obtain ⟨fuel, rfl⟩ := Nat.exists_eq_succ_of_ne_zero (Nat.ne_of_gt (Nat.zero_lt_of_lt hfuel))
      rw [List.flatMap_cons, read_asEscape hc, ih hcs (by omega)]
      rfl

end Courier.Text

namespace Courier.Language.Token

open Courier.Text

section

variable {cs : List Char} (h : ∀ c ∈ cs, c ≠ '"' ∧ c ≠ '\\')

include h

/-- A text without quotes and backslashes is found up to its closing quote. -/
theorem stringLength_plain (rest : List Char) :
    stringLength ('"' :: (cs ++ '"' :: rest)) = cs.length + 2 := by
  have hskip := quotedLength_append h 1 ('"' :: rest)
  simp only [stringLength]
  rw [if_pos (by decide), hskip, quotedLength_quote]
  omega

/-- A text without quotes and backslashes is the value between the quotes. -/
theorem stringValue_plain : stringValue ('"' :: (cs ++ ['"'])) = .ok (String.ofList cs) := by
  simp only [stringValue, List.drop_succ_cons, List.drop_zero, List.dropLast_concat]
  rw [read_flatMap_asEscape (fun c hc => (h c hc).2) (Nat.lt_succ_self _)]
  rfl

end

variable {cs : List Char} (h : ∀ c ∈ cs, codePoint c < 0x10000)

include h in
/-- A written text is found up to its closing quote. -/
theorem stringLength_written (rest : List Char) :
    stringLength ('"' :: (asciiJsonBody cs ++ '"' :: rest)) = (asciiJsonBody cs).length + 2 := by
  have hlength := quotedLength_asciiJsonBody h 1 rest
  simp only [stringLength]
  rw [if_pos (by decide), hlength]
  omega

include h in
/-- A written text has the value that it was made of. -/
theorem stringValue_written : stringValue ('"' :: (asciiJsonBody cs ++ ['"'])) = .ok (String.ofList cs) := by
  have hascii : (asciiJsonBody cs).flatMap asEscape = asciiJsonBody cs := by
    have hone : ∀ x ∈ asciiJsonBody cs, asEscape x = [x] := by
      intro x hx
      exact if_pos (asciiJsonBody_ascii h x hx).2
    rw [List.flatMap_def, List.map_congr_left hone]
    exact List.flatMap_singleton' _
  simp only [stringValue, List.drop_succ_cons, List.drop_zero, List.dropLast_concat, hascii]
  rw [read_asciiJsonBody h _ (Nat.lt_succ_self _)]
  rfl

end Courier.Language.Token
