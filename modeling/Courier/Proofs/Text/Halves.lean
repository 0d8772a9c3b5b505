import Mathlib
import Courier.Proofs.Text.Escapes

/-! Texts in quotes with any characters. A character beyond U+FFFF is written as two escapes, one for each half of its
surrogate pair, and each escape is read for itself. Such a text is written like the text of the halves, and the halves
are what is read back. -/

namespace Courier.Text

/-- What a character is read back as: itself, or the halves of its surrogate pair. -/
def halves (c : Char) : List Char :=
  if codePoint c < 0x10000 then [c]
  else [charOfEscape (splitSurrogates c).1, charOfEscape (splitSurrogates c).2]

/-- What a text is read back as. -/
def halved (cs : List Char) : List Char := cs.flatMap halves

theorem halved_of_lt {cs : List Char} (h : ∀ c ∈ cs, codePoint c < 0x10000) : halved cs = cs := by
  have hone : ∀ c ∈ cs, halves c = [c] := fun c hc => if_pos (h c hc)
  rw [halved, List.flatMap_def, List.map_congr_left hone]
  exact List.flatMap_singleton' cs

/-- The characters that stand for halves. -/
theorem surrogateOf?_eq (c : Char) : surrogateOf? c =
    if surrogateBase ≤ c.toNat ∧ c.toNat < surrogateBase + 0x800 then some (0xD800 + (c.toNat - surrogateBase))
    else none := by
  unfold surrogateOf?
  simp only [Bool.and_eq_true, decide_eq_true_eq]

theorem surrogateBase_eq : surrogateBase = 1103872 := rfl

/-- No character of ASCII is a half. -/
theorem surrogateOf?_of_lt {c : Char} (h : c.toNat < 128) : surrogateOf? c = none := by
  have hbase := surrogateBase_eq
  rw [surrogateOf?_eq, if_neg (by omega)]

theorem toNat_ofNat_of_isValidChar {n : Nat} (h : n.isValidChar) : (Char.ofNat n).toNat = n := by
  rw [Char.toNat_ofNat, if_pos h]

/-- A character of two code units is no half, and its number is its code point. -/
theorem toNat_of_codePoint {c : Char} (h : ¬ codePoint c < 0x10000) :
    surrogateOf? c = none ∧ 0x10000 ≤ c.toNat ∧ c.toNat < 0x110000 := by
  have hlt : c.toNat < 0x110000 := by
    have hvalid := c.valid
    simp only [UInt32.isValidChar, Nat.isValidChar] at hvalid
    show c.val.toNat < _
    omega
  by_cases hc : surrogateBase ≤ c.toNat ∧ c.toNat < surrogateBase + 0x800
  · have hhalf := surrogateOf?_eq c
    rw [if_pos hc] at hhalf
    rw [codePoint, hhalf, Option.getD_some] at h
    omega
  · have hnone := surrogateOf?_eq c
    rw [if_neg hc] at hnone
    rw [codePoint, hnone, Option.getD_none] at h
    exact ⟨hnone, Nat.le_of_not_lt h, hlt⟩

/-- The character of a half. -/
theorem toNat_charOfEscape {code : Nat} (h : 0xD800 ≤ code) (h' : code < 0xE000) :
    (charOfEscape code).toNat = surrogateBase + (code - 0xD800) := by
  have hvalid : (surrogateBase + (code - 0xD800)).isValidChar := by
    have hbase := surrogateBase_eq
    exact Or.inr ⟨by omega, by omega⟩
  have hchar : charOfEscape code = Char.ofNat (surrogateBase + (code - 0xD800)) := by
    simp only [charOfEscape, h, h', decide_true, Bool.and_self, if_true]
  rw [hchar]
  exact toNat_ofNat_of_isValidChar hvalid

theorem surrogateOf?_charOfEscape {code : Nat} (h : 0xD800 ≤ code) (h' : code < 0xE000) :
    surrogateOf? (charOfEscape code) = some code := by
  have hcode : 0xD800 + (surrogateBase + (code - 0xD800) - surrogateBase) = code := by omega
  rw [surrogateOf?_eq, toNat_charOfEscape h h', if_pos (by omega), hcode]

theorem codePoint_charOfEscape {code : Nat} (h : 0xD800 ≤ code) (h' : code < 0xE000) :
    codePoint (charOfEscape code) = code := by
  unfold codePoint
  rw [surrogateOf?_charOfEscape h h']
  rfl

/-- Nothing beyond ASCII has an escape of its own. -/
theorem jsonEscape?_of_le {c : Char} (h : 127 ≤ c.toNat) : jsonEscape? c = none := by
  have hne {d : Char} (hd : d.toNat < 127) : c ≠ d := by
    intro heq
    rw [heq] at h
    omega
  unfold jsonEscape?
  simp only [beq_iff_eq, hne (d := '"') (by decide), hne (d := '\\') (by decide), hne (d := '\n') (by decide),
    hne (d := '\r') (by decide), hne (d := '\t') (by decide), hne (d := '\x08') (by decide),
    hne (d := '\x0c') (by decide), if_false]
  rw [if_neg (by omega)]

/-- Halves are written as the escapes of their code points. -/
theorem asciiJsonChar_charOfEscape {code : Nat} (h : 0xD800 ≤ code) (h' : code < 0xE000) :
    asciiJsonChar (charOfEscape code) = unitEscape code := by
  have hlarge : 127 ≤ (charOfEscape code).toNat := by
    rw [toNat_charOfEscape h h', surrogateBase_eq]
    omega
  simp only [asciiJsonChar, jsonEscape?_of_le hlarge, surrogateOf?_charOfEscape h h']
  rw [if_neg (by omega)]

/-- The halves of a character of two code units, each of them a code unit of its own. -/
theorem splitSurrogates_range {c : Char} (h : ¬ codePoint c < 0x10000) :
    (0xD800 ≤ (splitSurrogates c).1 ∧ (splitSurrogates c).1 < 0xE000) ∧
      0xD800 ≤ (splitSurrogates c).2 ∧ (splitSurrogates c).2 < 0xE000 := by
  obtain ⟨-, hlow, hhigh⟩ := toNat_of_codePoint h
  simp only [splitSurrogates]
  omega

theorem codePoint_of_mem_halves {c d : Char} (h : d ∈ halves c) : codePoint d < 0x10000 := by
  unfold halves at h
  split at h
  · rwa [List.mem_singleton.1 h]
  · rename_i hc
    obtain ⟨⟨hlow, hhigh⟩, hlow', hhigh'⟩ := splitSurrogates_range hc
    have hfirst := codePoint_charOfEscape hlow hhigh
    have hsecond := codePoint_charOfEscape hlow' hhigh'
    rcases List.mem_pair.1 h with hd | hd
    · rw [hd]
      omega
    · rw [hd]
      omega

theorem codePoint_of_mem_halved {cs : List Char} : ∀ c ∈ halved cs, codePoint c < 0x10000 := by
  intro c hc
  obtain ⟨d, -, hd⟩ := List.mem_flatMap.1 hc
  exact codePoint_of_mem_halves hd

/-- A character that is no code unit leaves halves behind. -/
theorem exists_mem_halved {c : Char} {cs : List Char} (hc : c ∈ cs) (h : ¬ codePoint c < 0x10000) :
    ∃ half ∈ halved cs, (surrogateOf? half).isSome := by
  obtain ⟨⟨hlow, hhigh⟩, -⟩ := splitSurrogates_range h
  refine ⟨charOfEscape (splitSurrogates c).1, List.mem_flatMap.2 ⟨c, hc, ?_⟩, ?_⟩
  · rw [halves, if_neg h]
    exact List.mem_cons_self
  · rw [surrogateOf?_charOfEscape hlow hhigh]
    rfl

/-- A character and its halves are written alike. -/
theorem asciiJsonBody_halves (c : Char) : asciiJsonBody (halves c) = asciiJsonChar c := by
  unfold halves
  split
  · exact List.flatMap_singleton asciiJsonChar c
  · rename_i hc
    obtain ⟨hnone, hlow, -⟩ := toNat_of_codePoint hc
    obtain ⟨⟨hfirst, hfirst'⟩, hsecond, hsecond'⟩ := splitSurrogates_range hc
    have hwide : asciiJsonChar c = unitEscape (splitSurrogates c).1 ++ unitEscape (splitSurrogates c).2 := by
      simp only [asciiJsonChar, jsonEscape?_of_le (c := c) (by omega), hnone]
      rw [if_neg (by omega), if_neg (by omega)]
    rw [hwide, asciiJsonBody, List.flatMap_cons, List.flatMap_singleton, asciiJsonChar_charOfEscape hfirst hfirst',
      asciiJsonChar_charOfEscape hsecond hsecond']

/-- A text and what it is read back as are written alike. -/
theorem asciiJsonBody_halved (cs : List Char) : asciiJsonBody (halved cs) = asciiJsonBody cs := by
  induction cs with
  | nil => rfl
  | cons c cs ih =>
      have hcons : halved (c :: cs) = halves c ++ halved cs := rfl
      have hbody : asciiJsonBody (halves c ++ halved cs) = asciiJsonBody (halves c) ++ asciiJsonBody (halved cs) :=
        List.flatMap_append
      rw [hcons, hbody, asciiJsonBody_halves, ih]
      rfl

end Courier.Text
