import Courier.Text.Property
import Courier.Text.Search
import Mathlib.Data.List.DropRight
import Mathlib.Data.List.Infix

/-! Texts in texts, and texts without the blanks at their ends. A pattern without blanks is found in a text exactly if it
is found in what trimming leaves of it, and what starts and ends with characters that are no blanks is left as it is. -/

namespace Courier.Text

/-! ### Texts in texts -/

theorem isSome_findFrom (pattern : List Char) (position : Nat) (cs : List Char) :
    (findFrom pattern position cs).isSome = true ↔ pattern <:+: cs := by
  induction cs generalizing position with
  | nil =>
      rw [findFrom, List.infix_nil, ← List.isEmpty_iff]
      cases pattern.isEmpty <;> simp
  | cons c cs ih =>
      rw [findFrom, List.infix_cons_iff]
      split
      · rename_i hprefix
        exact iff_of_true rfl (.inl (List.isPrefixOf_iff_prefix.1 hprefix))
      · rename_i hprefix
        rw [ih]
        exact ⟨.inr, fun h => h.resolve_left fun hin => hprefix (List.isPrefixOf_iff_prefix.2 hin)⟩

theorem contains_iff (s pattern : String) : contains s pattern = true ↔ pattern.toList <:+: s.toList :=
  isSome_findFrom pattern.toList 0 s.toList

/-- A pattern behind characters among which its first one is not is behind all of them. -/
theorem infix_of_append_of_not_mem {c : Char} {pattern front cs : List Char} (h : c ∉ front)
    (hin : c :: pattern <:+: front ++ cs) : c :: pattern <:+: cs := by
  induction front with
  | nil => exact hin
  | cons d front ih =>
      simp only [List.mem_cons, not_or] at h
      rw [List.cons_append, List.infix_cons_iff] at hin
      exact ih h.2 (hin.resolve_left fun hprefix => h.1 (List.cons_prefix_cons.1 hprefix).1)

/-- A pattern behind characters that it does not have is behind all of them. -/
theorem infix_of_append {pattern front cs : List Char} (hne : pattern ≠ []) (hfront : ∀ c ∈ front, c ∉ pattern)
    (h : pattern <:+: front ++ cs) : pattern <:+: cs := by
  obtain ⟨c, rest, rfl⟩ := List.exists_cons_of_ne_nil hne
  exact infix_of_append_of_not_mem (fun hin => hfront c hin List.mem_cons_self) h

/-- A pattern between characters that it does not have is between all of them. -/
theorem infix_of_append_append {pattern front cs back : List Char} (hne : pattern ≠ [])
    (hfront : ∀ c ∈ front, c ∉ pattern) (hback : ∀ c ∈ back, c ∉ pattern) (h : pattern <:+: front ++ cs ++ back) :
    pattern <:+: cs := by
  have hrest : pattern <:+: cs ++ back := by
    rw [List.append_assoc] at h
    exact infix_of_append hne hfront h
  have hreverse : pattern.reverse <:+: back.reverse ++ cs.reverse := by
    rw [← List.reverse_append]
    exact List.reverse_infix.2 hrest
  refine List.reverse_infix.1 (infix_of_append (by simpa using hne) (fun c hc hin => ?_) hreverse)
  exact hback c (List.mem_reverse.1 hc) (List.mem_reverse.1 hin)

theorem anyTail_iff {p : List Char → Bool} {cs : List Char} :
    anyTail p cs = true ↔ ∃ tail, tail <:+ cs ∧ p tail = true := by
  induction cs with
  | nil => simp [anyTail]
  | cons c cs ih => simp [anyTail, ih, List.suffix_cons_iff, or_and_right, exists_or]

/-! ### Trimming -/

theorem toList_trim (s : String) : (trim s).toList = dropTrailingList isBlank (s.toList.dropWhile isBlank) := by
  simp [trim, dropTrailing, dropLeading]

/-- Blanks around a text make no difference to what trimming leaves of it. -/
theorem trim_between {front back : List Char} (hfront : ∀ c ∈ front, isBlank c) (hback : ∀ c ∈ back, isBlank c)
    (cs : List Char) : trim (String.ofList (front ++ cs ++ back)) = trim (String.ofList cs) := by
  have hdrop : dropTrailingList isBlank ((cs ++ back).dropWhile isBlank) =
      dropTrailingList isBlank (cs.dropWhile isBlank) := by
    rw [List.dropWhile_append]
    split
    · rename_i hcs
      rw [List.isEmpty_iff.1 hcs, List.dropWhile_eq_nil_iff.2 hback]
    · exact dropTrailingList_append_of_all (List.all_eq_true.2 hback) _
  rw [← String.toList_inj, toList_trim, toList_trim, String.toList_ofList, String.toList_ofList, List.append_assoc,
    List.dropWhile_append_of_pos hfront, hdrop]

/-- Blanks stand around what is left of a text that is trimmed. -/
theorem exists_trim (s : String) : ∃ front back, s.toList = front ++ (trim s).toList ++ back ∧
    (∀ c ∈ front, isBlank c = true) ∧ ∀ c ∈ back, isBlank c = true := by
  refine ⟨s.toList.takeWhile isBlank, (s.toList.dropWhile isBlank).rtakeWhile isBlank, ?_, ?_, ?_⟩
  · rw [toList_trim, List.append_assoc]
    show _ = _ ++ ((s.toList.dropWhile isBlank).rdropWhile isBlank ++ (s.toList.dropWhile isBlank).rtakeWhile isBlank)
    rw [List.rdropWhile_append_rtakeWhile, List.takeWhile_append_dropWhile]
  · exact fun c hc => List.mem_takeWhile_imp hc
  · exact fun c hc => List.mem_rtakeWhile_imp hc

theorem head_dropWhile {p : Char → Bool} {cs : List Char} : ∀ c ∈ (cs.dropWhile p).head?, p c = false := by
  intro c hc
  have hnot := List.head?_dropWhile_not p cs
  rwa [Option.mem_def.1 hc] at hnot

theorem head_trim (s : String) : ∀ c ∈ (trim s).toList.head?, isBlank c = false := by
  intro c hc
  rw [toList_trim] at hc
  obtain ⟨rest, hrest⟩ := List.head?_eq_some_iff.1 hc
  have hprefix : dropTrailingList isBlank (s.toList.dropWhile isBlank) <+: s.toList.dropWhile isBlank :=
    List.rdropWhile_prefix isBlank _
  obtain ⟨back, hback⟩ := hprefix
  have hdrop : ∀ d ∈ (s.toList.dropWhile isBlank).head?, isBlank d = false := head_dropWhile
  refine hdrop c ?_
  rw [← hback, hrest]
  rfl

theorem last_trim (s : String) : ∀ c ∈ (trim s).toList.getLast?, isBlank c = false := by
  intro c hc
  rw [toList_trim, dropTrailingList, List.getLast?_reverse] at hc
  exact head_dropWhile c hc

/-- A pattern without blanks is found between blanks where it is found in what stands there. -/
theorem infix_between_iff {pattern front cs back : List Char} (hne : pattern ≠ [])
    (hpattern : ∀ c ∈ pattern, isBlank c = false) (hfront : ∀ c ∈ front, isBlank c) (hback : ∀ c ∈ back, isBlank c) :
    pattern <:+: front ++ cs ++ back ↔ pattern <:+: cs := by
  have hno {blanks : List Char} (h : ∀ c ∈ blanks, isBlank c = true) : ∀ c ∈ blanks, c ∉ pattern := by
    intro c hc hin
    have hblank := h c hc
    rw [hpattern c hin] at hblank
    cases hblank
  exact ⟨infix_of_append_append hne (hno hfront) (hno hback), fun h => h.trans ⟨front, back, rfl⟩⟩

/-- A pattern without blanks is found in a text where it is found between the blanks at its ends. -/
theorem infix_trim_iff {pattern : List Char} (hne : pattern ≠ []) (hpattern : ∀ c ∈ pattern, isBlank c = false)
    (s : String) : pattern <:+: (trim s).toList ↔ pattern <:+: s.toList := by
  obtain ⟨front, back, hs, hfront, hback⟩ := exists_trim s
  rw [hs, infix_between_iff hne hpattern hfront hback]

/-- A text without blanks at its ends is left as it is. -/
theorem trim_eq_self {s : String} (hhead : ∀ c ∈ s.toList.head?, isBlank c = false)
    (hlast : ∀ c ∈ s.toList.getLast?, isBlank c = false) : trim s = s := by
  have hleading : s.toList.dropWhile isBlank = s.toList := by
    cases hs : s.toList with
    | nil => rfl
    | cons c cs => exact List.dropWhile_cons_of_neg (by simp [hhead c (by rw [hs]; rfl)])
  apply String.toList_injective
  rw [toList_trim, hleading]
  refine List.rdropWhile_eq_self_iff.2 fun hs hblank => ?_
  rw [hlast _ (List.getLast?_eq_some_getLast hs)] at hblank
  cases hblank

theorem trim_of_ends {cs : List Char} (hhead : ∀ c ∈ cs.head?, isBlank c = false)
    (hlast : ∀ c ∈ cs.getLast?, isBlank c = false) : trim (String.ofList cs) = String.ofList cs :=
  trim_eq_self (by rwa [String.toList_ofList]) (by rwa [String.toList_ofList])

/-- Blanks at the ends are trimmed, and nothing else is. -/
theorem trim_blanks {front cs back : List Char} (hfront : ∀ c ∈ front, isBlank c) (hback : ∀ c ∈ back, isBlank c)
    (hhead : ∀ c ∈ cs.head?, isBlank c = false) (hlast : ∀ c ∈ cs.getLast?, isBlank c = false) :
    trim (String.ofList (front ++ cs ++ back)) = String.ofList cs := by
  rw [trim_between hfront hback, trim_of_ends hhead hlast]

end Courier.Text
