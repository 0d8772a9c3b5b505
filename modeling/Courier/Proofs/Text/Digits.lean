import Courier.Number.Reading
import Courier.Proofs.Text.Encoding
import Mathlib.Data.List.DropRight

/-! Digits of any script, and the numbers that texts of digits are read as. A table of change points stands for ranges of
code points, so that two classes of characters are compared range by range. Of a text of digits the decimal ones at the
start are read: if others follow it is no numeral, and too many of them are an error of their own. -/

namespace Courier

namespace Text

/-! ### Ranges of code points -/

/-- The ranges of code points that a table of change points stands for: from one of them up to the next. -/
def ranges : List Nat → List (Nat × Nat)
  | first :: next :: table => (first, next) :: ranges table
  | _ => []

theorem inTable_cons_cons (first next : Nat) (table : List Nat) (code : Nat) :
    inTable (first :: next :: table) code =
      if code < first then false else if code < next then true else inTable table code := by
  unfold inTable
  by_cases hfirst : code < first
  · rw [if_pos hfirst, List.takeWhile_cons_of_neg (by simpa using hfirst)]
    rfl
  · rw [if_neg hfirst, List.takeWhile_cons_of_pos (by simpa using hfirst)]
    by_cases hnext : code < next
    · rw [if_pos hnext, List.takeWhile_cons_of_neg (by simpa using hnext)]
      rfl
    · rw [if_neg hnext, List.takeWhile_cons_of_pos (by simpa using hnext), List.length_cons, List.length_cons,
        Nat.add_assoc, Nat.add_mod_right]

theorem mem_of_mem_ranges {table : List Nat} {r : Nat × Nat} (h : r ∈ ranges table) : r.1 ∈ table := by
  induction table using ranges.induct with
  | case1 first next table ih =>
      rcases List.mem_cons.1 h with rfl | h
      · exact List.mem_cons_self
      · exact List.mem_cons_of_mem _ (List.mem_cons_of_mem _ (ih h))
  | case2 table hshort =>
      rw [ranges.eq_2 table hshort] at h
      exact absurd h List.not_mem_nil

/-- A code point belongs to a table in order exactly if it is in one of its ranges. -/
theorem inTable_iff {table : List Nat} {code : Nat} (heven : table.length % 2 = 0) (horder : table.Pairwise (· ≤ ·)) :
    inTable table code = true ↔ ∃ r ∈ ranges table, r.1 ≤ code ∧ code < r.2 := by
  induction table using ranges.induct with
  | case1 first next table ih =>
      rw [List.length_cons, List.length_cons, Nat.add_assoc, Nat.add_mod_right] at heven
      obtain ⟨hfirst, hrest⟩ := List.pairwise_cons.1 horder
      obtain ⟨hnext, horder⟩ := List.pairwise_cons.1 hrest
      have hlater (h : inTable table code = true) : next ≤ code := by
        obtain ⟨r, hr, hle, -⟩ := (ih heven horder).1 h
        exact (hnext r.1 (mem_of_mem_ranges hr)).trans hle
      have hle : first ≤ next := hfirst next List.mem_cons_self
      rw [inTable_cons_cons, ranges, List.exists_mem_cons_iff, ← ih heven horder]
      split
      · refine iff_of_false Bool.false_ne_true ?_
        rintro (h | h)
        · omega
        · have := hlater h
          omega
      · split
        · exact iff_of_true rfl (Or.inl ⟨by omega, by omega⟩)
        · exact ⟨Or.inr, fun h => h.resolve_left (by omega)⟩
  | case2 table hshort =>
      match table with
      | [] => simp [inTable, ranges]
      | [_] => cases heven
      | first :: next :: table => exact absurd rfl (hshort first next table)

/-! ### Digits -/

theorem inTable_digit {code : Nat} :
    inTable Tables.digit code = true ↔ ∃ r ∈ ranges Tables.digit, r.1 ≤ code ∧ code < r.2 :=
  inTable_iff (by decide +kernel) (List.isChain_iff_pairwise.1 (by decide +kernel))

/-- Every decimal digit is a digit. -/
theorem isDigit_of_isDecimal {c : Char} (h : isDecimal c = true) : isDigit c = true := by
  unfold isDecimal decimalValue? at h
  unfold isDigit
  split
  · rename_i hlt
    rw [if_pos hlt] at h
    by_contra hdigit
    rw [if_neg hdigit] at h
    cases h
  · rename_i hlt
    rw [if_neg hlt, Option.isSome_map, List.find?_isSome] at h
    obtain ⟨start, hstart, hrange⟩ := h
    rw [Bool.and_eq_true, decide_eq_true_eq, decide_eq_true_eq] at hrange
    have hinside : ∀ start ∈ Tables.zeros, ∃ r ∈ ranges Tables.digit, r.1 ≤ start ∧ start + 9 < r.2 := by decide +kernel
    obtain ⟨r, hr, hfirst, hlast⟩ := hinside start hstart
    exact inTable_digit.2 ⟨r, hr, hfirst.trans hrange.1, hrange.2.trans_lt hlast⟩

/-- No digit is a blank. -/
theorem isBlank_of_isDigit {c : Char} (h : isDigit c = true) : isBlank c = false := by
  by_cases hlt : c.val < 128
  · refine of_forall_ascii (P := fun c => isDigit c = true → isBlank c = false) (by decide) ?_ h
    exact hlt
  · rw [isDigit, if_neg hlt, inTable_digit] at h
    rw [isBlank, if_neg hlt, Bool.eq_false_iff, Ne, inTable_iff (by decide) (by decide)]
    rintro ⟨q, hq, hqrange⟩
    obtain ⟨r, hr, hrange⟩ := h
    have hapart : ∀ q ∈ ranges Tables.blank, ∀ r ∈ ranges Tables.digit, q.2 ≤ r.1 ∨ r.2 ≤ q.1 := by decide +kernel
    have := hapart q hq r hr
    omega

/-- A text has the decimal digits at its start apart from the rest. -/
theorem exists_decimals (cs : List Char) : ∃ front rest, cs = front ++ rest ∧ (∀ c ∈ front, isDecimal c = true) ∧
    ∀ c ∈ rest.head?, isDecimal c = false := by
  refine ⟨cs.takeWhile isDecimal, cs.dropWhile isDecimal, List.takeWhile_append_dropWhile.symm,
    fun c hc => List.mem_takeWhile_imp hc, fun c hc => ?_⟩
  have hnot := List.head?_dropWhile_not isDecimal cs
  rwa [Option.mem_def.1 hc] at hnot

/-- The values of decimal digits. -/
theorem exists_values {cs : List Char} (h : ∀ c ∈ cs, isDecimal c = true) :
    ∃ values : List Nat, cs.map decimalValue? = values.map some := by
  induction cs with
  | nil => exact ⟨[], rfl⟩
  | cons c cs ih =>
      obtain ⟨values, hvalues⟩ := ih fun d hd => h d (List.mem_cons_of_mem _ hd)
      obtain ⟨value, hvalue⟩ := Option.isSome_iff_exists.1 (h c List.mem_cons_self)
      exact ⟨value :: values, by rw [List.map_cons, List.map_cons, hvalue, hvalues]⟩

end Text

/-! ### Numerals -/

namespace Number

open Courier.Text

variable {front rest : List Char} {values : List Nat}

theorem digitRun_cons {c : Char} {value : Nat} (h : decimalValue? c = some value) (cs : List Char) :
    digitRun (c :: cs) = (value :: (digitRun cs).1, (digitRun cs).2) := by
  have hsign : c ≠ '_' := by
    rintro rfl
    have hnone : decimalValue? '_' = none := by decide
    rw [hnone] at h
    cases h
  rw [digitRun.eq_3 _ _ (fun _ _ hc _ => hsign hc), h]

theorem digitRun_of_stop (hunderscore : '_' ∉ rest) (hstop : ∀ c ∈ rest.head?, isDecimal c = false) :
    digitRun rest = ([], rest) := by
  cases rest with
  | nil => rfl
  | cons c cs =>
      have hsign : c ≠ '_' := fun hc => hunderscore (hc ▸ List.mem_cons_self)
      have hnone : decimalValue? c = none := Option.isNone_iff_eq_none.1 (by simpa [isDecimal] using hstop c rfl)
      rw [digitRun.eq_3 _ _ (fun _ _ hc _ => hsign hc), hnone]

/-- The decimal digits at the start of a text make up its run of digits. -/
theorem digitRun_append (hvalues : front.map decimalValue? = values.map some) (hunderscore : '_' ∉ rest)
    (hstop : ∀ c ∈ rest.head?, isDecimal c = false) : digitRun (front ++ rest) = (values, rest) := by
  induction front generalizing values with
  | nil =>
      obtain rfl : values = [] := by simpa using hvalues
      exact digitRun_of_stop hunderscore hstop
  | cons c front ih =>
      obtain ⟨value, values, rfl⟩ : ∃ value others, values = value :: others :=
        List.exists_cons_of_ne_nil (by rintro rfl; simp at hvalues)
      obtain ⟨hvalue, hvalues⟩ := List.cons.inj hvalues
      rw [List.cons_append, digitRun_cons hvalue, ih hvalues]

/-- How a text of digits is read: as a number, if all of them are decimal and they are not too many. -/
theorem readInt_of_digits (hvalues : front.map decimalValue? = values.map some)
    (hstop : ∀ c ∈ rest.head?, isDecimal c = false) (hdigits : ∀ c ∈ front ++ rest, isDigit c = true)
    (hne : front ++ rest ≠ []) :
    readInt (String.ofList (front ++ rest)) =
      if digitLimit < values.length then .error (.tooLong values.length)
      else if rest.isEmpty then .ok (natOfDigits values) else .error .malformed := by
  have hnot {c : Char} (hc : isDigit c = false) : c ∉ front ++ rest := fun hin => by
    rw [hdigits c hin] at hc
    cases hc
  have hhead {c : Char} {tail : List Char} (hc : isDigit c = false) : front ++ rest ≠ c :: tail := fun heq =>
    hnot hc (heq ▸ List.mem_cons_self)
  have hblank : ∀ c ∈ front ++ rest, isOuterBlank c = false := fun c hc => by
    rw [isOuterBlank, isBlank_of_isDigit (hdigits c hc), Bool.false_and]
  have hkeep {cs : List Char} (h : ∀ c ∈ cs, isOuterBlank c = false) : cs.dropWhile isOuterBlank = cs :=
    List.dropWhile_eq_self_iff.2 fun hlength => by simp [h _ (List.getElem_mem hlength)]
  have hwhole : withoutBlanks (String.ofList (front ++ rest)) = front ++ rest := by
    rw [withoutBlanks, String.toList_ofList, hkeep hblank, dropTrailingList,
      hkeep fun c hc => hblank c (List.mem_reverse.1 hc), List.reverse_reverse]
  have hsign : signed (front ++ rest) = (false, front ++ rest) :=
    signed.eq_3 _ (fun _ => hhead (by decide)) fun _ => hhead (by decide)
  have hrun : digits (front ++ rest) = (values, rest) := by
    rw [digits.eq_2 _ fun _ => hhead (by decide)]
    exact digitRun_append hvalues (fun hin => hnot (by decide) (List.mem_append_right _ hin)) hstop
  have hrest (tail : List Char) : rest ≠ '_' :: tail := fun heq =>
    hnot (by decide) (List.mem_append_right _ (heq ▸ List.mem_cons_self : '_' ∈ rest))
  unfold readInt
  rw [hwhole, hsign]
  simp only
  rw [hrun]
  cases values with
  | nil =>
      obtain rfl : front = [] := by simpa using hvalues
      have hempty : rest.isEmpty = false := by simpa using hne
      rw [hempty]
      rfl
  | cons value values =>
      split
      · rename_i heq
        cases heq
      · rename_i heq
        cases heq
        exact absurd rfl (hrest _)
      · rename_i heq
        cases heq
        rfl

end Number

end Courier
