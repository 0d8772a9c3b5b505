import Courier.Text.Encoding
import Courier.Text.Property
import Mathlib.Data.List.TakeWhile

/-! The UTF-8 form of a text is read as that text: the first byte of a character tells how many bytes follow, and the
bytes that follow lie within the limits that it sets. A text has such a form exactly if all of its characters are
characters of their own. -/

namespace Courier.Text

/-- What holds of all ASCII characters is checked one by one. -/
theorem of_forall_ascii {P : Char → Prop} (h : ∀ n : Fin 128, P (Char.ofNat n)) {c : Char} (hc : c.toNat < 128) :
    P c := by
  have hn := h ⟨c.toNat, hc⟩
  rwa [Char.ofNat_toNat] at hn

theorem toNat_lt_of_isAsciiLetter {c : Char} (h : isAsciiLetter c) : c.toNat < 128 := by
  simp only [isAsciiLetter, Bool.or_eq_true, Bool.and_eq_true, decide_eq_true_eq] at h
  rcases h with ⟨-, h⟩ | ⟨-, h⟩
  · exact Nat.lt_of_le_of_lt h (by decide)
  · exact Nat.lt_of_le_of_lt h (by decide)

theorem toNat_lt_of_isAsciiDigit {c : Char} (h : isAsciiDigit c) : c.toNat < 128 := by
  simp only [isAsciiDigit, Bool.and_eq_true, decide_eq_true_eq] at h
  exact Nat.lt_of_le_of_lt h.2 (by decide)

theorem continuation_toNat (n shift : Nat) : (continuation n shift).toNat = 0x80 + n / Nat.pow 2 shift % 64 := by
  have hbits : n / Nat.pow 2 shift % 64 < 64 := Nat.mod_lt _ (by decide)
  rw [continuation, UInt8.toNat_ofNat', Nat.mod_eq_of_lt (by omega)]

/-- A byte within the limits is taken, and its six bits go behind those that were read. -/
theorem continue?_continuation {low high n shift : Nat} (hlow : low ≤ 0x80 + n / Nat.pow 2 shift % 64)
    (hhigh : 0x80 + n / Nat.pow 2 shift % 64 ≤ high) (count code : Nat) (rest : Bytes) :
    continue? (count + 1) code low high (continuation n shift :: rest) =
      continue? count (code * 64 + n / Nat.pow 2 shift % 64) 0x80 0xBF rest := by
  rw [continue?, continuation_toNat]
  generalize n / Nat.pow 2 shift % 64 = bits at hlow hhigh ⊢
  rw [if_pos (by simp only [Bool.and_eq_true, decide_eq_true_eq]; omega), Nat.add_sub_cancel_left]

/-- The bytes behind the first of those that continue a sequence have no limits of their own. -/
theorem continue?_later (count code n shift : Nat) (rest : Bytes) :
    continue? (count + 1) code 0x80 0xBF (continuation n shift :: rest) =
      continue? count (code * 64 + n / Nat.pow 2 shift % 64) 0x80 0xBF rest := by
  have hbits : n / Nat.pow 2 shift % 64 < 64 := Nat.mod_lt _ (by decide)
  exact continue?_continuation (by omega) (by omega) count code rest

theorem lead?_two {n : Nat} (hlow : 0x80 ≤ n) (hhigh : n < 0x800) :
    lead? (UInt8.ofNat (0xC0 + n / 64)) = some (1, n / 64, 0x80, 0xBF) := by
  have hbyte : (UInt8.ofNat (0xC0 + n / 64)).toNat = 0xC0 + n / 64 := by
    rw [UInt8.toNat_ofNat']
    omega
  unfold lead?
  rw [hbyte, if_pos (by simp; omega), Nat.add_sub_cancel_left]

theorem lead?_three {n : Nat} (hlow : 0x800 ≤ n) (hhigh : n < 0x10000) (hscalar : n < 0xD800 ∨ 0xDFFF < n) :
    ∃ low high, lead? (UInt8.ofNat (0xE0 + n / 4096)) = some (2, n / 4096, low, high) ∧
      low ≤ 0x80 + n / Nat.pow 2 6 % 64 ∧ 0x80 + n / Nat.pow 2 6 % 64 ≤ high := by
  have hbyte : (UInt8.ofNat (0xE0 + n / 4096)).toNat = 0xE0 + n / 4096 := by
    rw [UInt8.toNat_ofNat']
    omega
  have hpow : Nat.pow 2 6 = 64 := rfl
  unfold lead?
  rw [hbyte, hpow, if_neg (by simp)]
  by_cases hfirst : n / 4096 = 0
  · refine ⟨0xA0, 0xBF, ?_, by omega, by omega⟩
    rw [hfirst, if_pos (by rfl)]
  · rw [if_neg (by simp; omega)]
    by_cases hgap : n / 4096 = 13
    · refine ⟨0x80, 0x9F, ?_, by omega, by omega⟩
      rw [hgap, if_pos (by rfl)]
    · refine ⟨0x80, 0xBF, ?_, by omega, by omega⟩
      rw [if_neg (by simp; omega), if_pos (by simp; omega), Nat.add_sub_cancel_left]

theorem lead?_four {n : Nat} (hlow : 0x10000 ≤ n) (hhigh : n < 0x110000) :
    ∃ low high, lead? (UInt8.ofNat (0xF0 + n / 262144)) = some (3, n / 262144, low, high) ∧
      low ≤ 0x80 + n / Nat.pow 2 12 % 64 ∧ 0x80 + n / Nat.pow 2 12 % 64 ≤ high := by
  have hbyte : (UInt8.ofNat (0xF0 + n / 262144)).toNat = 0xF0 + n / 262144 := by
    rw [UInt8.toNat_ofNat']
    omega
  have hpow : Nat.pow 2 12 = 4096 := rfl
  unfold lead?
  rw [hbyte, hpow, if_neg (by simp; omega), if_neg (by simp; omega), if_neg (by simp; omega), if_neg (by simp)]
  by_cases hfirst : n / 262144 = 0
  · refine ⟨0x90, 0xBF, ?_, by omega, by omega⟩
    rw [hfirst, if_pos (by rfl)]
  · rw [if_neg (by simp; omega)]
    by_cases hlast : n / 262144 = 4
    · refine ⟨0x80, 0x8F, ?_, by omega, by omega⟩
      rw [hlast, if_neg (by decide), if_pos (by rfl)]
    · refine ⟨0x80, 0xBF, ?_, by omega, by omega⟩
      rw [if_pos (by simp; omega), Nat.add_sub_cancel_left]

/-! ### Reading what was written -/

theorem utf8Chars_ascii {b : UInt8} (h : b.toNat < 0x80) (fuel : Nat) (rest : Bytes) :
    utf8Chars (fuel + 1) (b :: rest) = some (Char.ofNat b.toNat) :: utf8Chars fuel rest := by
  rw [utf8Chars, if_pos h]

theorem utf8Chars_lead {b : UInt8} {count code low high : Nat} (hlead : lead? b = some (count, code, low, high))
    {read : Option Nat} {bytes rest : Bytes} (hread : continue? count code low high bytes = (read, rest)) (fuel : Nat) :
    utf8Chars (fuel + 1) (b :: bytes) = read.map Char.ofNat :: utf8Chars fuel rest := by
  have hbyte : ¬b.toNat < 0x80 := by
    intro hlt
    have hnone : lead? b = none := by
      unfold lead?
      simp only [Bool.and_eq_true, decide_eq_true_eq, beq_iff_eq]
      repeat rw [if_neg (by omega)]
    rw [hnone] at hlead
    cases hlead
  rw [utf8Chars, if_neg hbyte, hlead]
  simp only [hread]

/-- The bytes of a character are read as that character. -/
theorem utf8Chars_utf8Char (c : Char) (fuel : Nat) (rest : Bytes) :
    utf8Chars (fuel + 1) (utf8Char c ++ rest) = some c :: utf8Chars fuel rest := by
  have hscalar : c.toNat < 0xD800 ∨ 0xDFFF < c.toNat ∧ c.toNat < 0x110000 := c.valid
  have hchar : Option.map Char.ofNat (some c.toNat) = some c := congrArg some (Char.ofNat_toNat c)
  generalize hn : c.toNat = n at hscalar hchar
  unfold utf8Char
  rw [hn]
  by_cases hone : n < 0x80
  · have hbyte : (UInt8.ofNat n).toNat = n := by
      rw [UInt8.toNat_ofNat']
      omega
    rw [if_pos hone, List.singleton_append, utf8Chars_ascii (by omega), hbyte, ← hchar]
    rfl
  rw [if_neg hone]
  by_cases htwo : n < 0x800
  · simp only [if_pos htwo, List.cons_append, List.nil_append]
    rw [← hchar]
    refine utf8Chars_lead (lead?_two (by omega) htwo) ?_ fuel
    rw [continue?_later, continue?]
    have hsum : n / 64 * 64 + n / Nat.pow 2 0 % 64 = n := by simp; omega
    rw [hsum]
  rw [if_neg htwo]
  by_cases hthree : n < 0x10000
  · obtain ⟨low, high, hlead, hlow, hhigh⟩ := lead?_three (by omega) hthree (by omega)
    simp only [if_pos hthree, List.cons_append, List.nil_append]
    rw [← hchar]
    refine utf8Chars_lead hlead ?_ fuel
    rw [continue?_continuation hlow hhigh, continue?_later, continue?]
    have hsum : (n / 4096 * 64 + n / Nat.pow 2 6 % 64) * 64 + n / Nat.pow 2 0 % 64 = n := by simp; omega
    rw [hsum]
  · obtain ⟨low, high, hlead, hlow, hhigh⟩ := lead?_four (n := n) (by omega) (by omega)
    simp only [if_neg hthree, List.cons_append, List.nil_append]
    rw [← hchar]
    refine utf8Chars_lead hlead ?_ fuel
    rw [continue?_continuation hlow hhigh, continue?_later, continue?_later, continue?]
    have hsum : ((n / 262144 * 64 + n / Nat.pow 2 12 % 64) * 64 + n / Nat.pow 2 6 % 64) * 64 +
        n / Nat.pow 2 0 % 64 = n := by simp; omega
    rw [hsum]

theorem utf8Char_ne_nil (c : Char) : utf8Char c ≠ [] := by
  unfold utf8Char
  simp only
  split
  · exact List.cons_ne_nil _ _
  split
  · exact List.cons_ne_nil _ _
  split
  · exact List.cons_ne_nil _ _
  · exact List.cons_ne_nil _ _

theorem length_le_length_utf8Bytes (cs : List Char) : cs.length ≤ (utf8Bytes cs).length := by
  induction cs with
  | nil => exact Nat.le_refl _
  | cons c cs ih =>
      have hc := List.length_pos_iff.2 (utf8Char_ne_nil c)
      simp only [utf8Bytes, List.flatMap_cons, List.length_append, List.length_cons] at ih ⊢
      omega

theorem utf8Chars_utf8Bytes {cs : List Char} {fuel : Nat} (h : cs.length ≤ fuel) :
    utf8Chars fuel (utf8Bytes cs) = cs.map some := by
  induction cs generalizing fuel with
  | nil => cases fuel <;> rfl
  | cons c cs ih =>
      cases fuel with
      | zero => exact absurd h (Nat.not_succ_le_zero _)
      | succ fuel =>
          have hrest := ih (Nat.le_of_succ_le_succ h)
          rw [show utf8Bytes (c :: cs) = utf8Char c ++ utf8Bytes cs from rfl, utf8Chars_utf8Char, hrest, List.map_cons]

/-- The UTF-8 form of characters is read as those characters. -/
theorem ofUtf8_utf8Bytes (cs : List Char) : ofUtf8 (utf8Bytes cs) = String.ofList cs := by
  rw [ofUtf8, utf8Chars_utf8Bytes (length_le_length_utf8Bytes cs), List.map_map]
  congr 1
  exact List.map_id' cs

/-! ### Texts with a UTF-8 form -/

theorem isScalar_of_lt {c : Char} (h : c.toNat < 128) : isScalar c := by
  have hnone : surrogateOf? c = none := by
    unfold surrogateOf?
    rw [if_neg]
    have hbase : ¬surrogateBase ≤ c.toNat := Nat.not_le_of_lt (Nat.lt_trans h (by decide))
    simp [hbase]
  rw [isScalar, hnone]
  rfl

theorem firstFault?_eq_none {codec reason : String} {fits : Char → Bool} {cs : List Char} :
    firstFault? codec reason fits cs = none ↔ ∀ c ∈ cs, fits c := by
  rw [← List.dropWhile_eq_nil_iff]
  unfold firstFault?
  cases cs.dropWhile fits with
  | nil => simp
  | cons c rest => simp

theorem utf8_eq_ok {s : String} (h : ∀ c ∈ s.toList, isScalar c) : utf8 s = .ok (utf8Bytes s.toList) := by
  unfold utf8
  rw [firstFault?_eq_none.2 h]

theorem isScalar_of_utf8 {s : String} {bytes : Bytes} (h : utf8 s = .ok bytes) : ∀ c ∈ s.toList, isScalar c := by
  unfold utf8 at h
  cases hfault : firstFault? "utf-8" "surrogates not allowed" isScalar s.toList with
  | none => exact firstFault?_eq_none.1 hfault
  | some f =>
      rw [hfault] at h
      cases h

end Courier.Text
