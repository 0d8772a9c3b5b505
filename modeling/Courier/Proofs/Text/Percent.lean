import Courier.Proofs.Text.Encoding
import Courier.Text.Percent

/-! A text of a form is read back as it was before it was written: a blank stands as a plus sign, and every other
character stands as itself or as the escapes of its bytes. None of the signs that a query is cut at stands in it. -/

namespace Courier.Text

theorem hexDigit?_upperHexDigit {n : Nat} (h : n < 16) : hexDigit? (upperHexDigit n) = some n := by
  have all : ∀ i : Fin 16, hexDigit? (upperHexDigit i) = some i.val := by decide
  exact all ⟨n, h⟩

/-- The characters that stand in forms. -/
def isFormChar (c : Char) : Bool := isUnreserved c || c == '%' || c == '+'

theorem isUnreserved_upperHexDigit {n : Nat} (h : n < 16) : isUnreserved (upperHexDigit n) := by
  have all : ∀ i : Fin 16, isUnreserved (upperHexDigit i) := by decide
  exact all ⟨n, h⟩

theorem isUnreserved_bounds {c : Char} (h : isUnreserved c) : c.toNat < 128 ∧ c ≠ '%' ∧ c ≠ '+' ∧ c ≠ ' ' := by
  refine ⟨?_, ?_, ?_, ?_⟩
  · simp only [isUnreserved, Bool.or_eq_true, beq_iff_eq] at h
    rcases h with ((((h | h) | rfl) | rfl) | rfl) | rfl
    · exact toNat_lt_of_isAsciiLetter h
    · exact toNat_lt_of_isAsciiDigit h
    · decide
    · decide
    · decide
    · decide
  · rintro rfl
    exact absurd h (by decide)
  · rintro rfl
    exact absurd h (by decide)
  · rintro rfl
    exact absurd h (by decide)

/-- A character stays if it is safe, and is written with percent signs and digits otherwise. -/
theorem of_mem_escapeChar {safe : Char → Bool} {c d : Char} (hd : d ∈ escapeChar safe c) :
    (safe c ∧ d = c) ∨ isUnreserved d ∨ d = '%' := by
  unfold escapeChar at hd
  split at hd
  · rename_i hsafe
    exact Or.inl ⟨hsafe, List.mem_singleton.1 hd⟩
  · obtain ⟨b, -, hb⟩ := List.mem_flatMap.1 hd
    have hbound := b.toNat_lt
    simp only [escapeByte, List.mem_cons, List.not_mem_nil, or_false] at hb
    rcases hb with rfl | rfl | rfl
    · exact Or.inr (Or.inr rfl)
    · exact Or.inr (Or.inl (isUnreserved_upperHexDigit (by omega)))
    · exact Or.inr (Or.inl (isUnreserved_upperHexDigit (by omega)))

theorem isFormChar_of_mem_formChar {c d : Char} (hd : d ∈ formChar c) : isFormChar d := by
  unfold formChar at hd
  split at hd
  · rw [List.mem_singleton.1 hd]
    rfl
  · rcases of_mem_escapeChar hd with ⟨h, rfl⟩ | h | rfl
    · simp [isFormChar, h]
    · simp [isFormChar, h]
    · rfl

theorem toNat_lt_of_isFormChar {c : Char} (h : isFormChar c) : c.toNat < 128 := by
  simp only [isFormChar, Bool.or_eq_true, beq_iff_eq] at h
  rcases h with (h | rfl) | rfl
  · exact (isUnreserved_bounds h).1
  · decide
  · decide

/-! ### Reading escapes -/

theorem unescapeBytes_of_ne {c : Char} (h : c ≠ '%') (rest : List Char) :
    unescapeBytes 0 (c :: rest) = UInt8.ofNat c.toNat :: unescapeBytes 0 rest := by
  rw [unescapeBytes, if_neg (by simpa using h)]

theorem unescapeBytes_escapeByte (b : UInt8) (rest : List Char) :
    unescapeBytes 0 (escapeByte b ++ rest) = b :: unescapeBytes 0 rest := by
  have hbound := b.toNat_lt
  have hescape : escape? (upperHexDigit (b.toNat / 16) :: upperHexDigit (b.toNat % 16) :: rest) = some b := by
    have hsum : b.toNat / 16 * 16 + b.toNat % 16 = b.toNat := by omega
    simp only [escape?, hexDigit?_upperHexDigit (show b.toNat / 16 < 16 by omega),
      hexDigit?_upperHexDigit (show b.toNat % 16 < 16 by omega), Option.bind_eq_bind, Option.bind_some, hsum,
      UInt8.ofNat_toNat]
    rfl
  simp only [escapeByte, List.cons_append, List.nil_append]
  rw [unescapeBytes, if_pos (by rfl), hescape]
  simp only [unescapeBytes]

theorem unescapeBytes_flatMap (bytes : Bytes) (rest : List Char) :
    unescapeBytes 0 (bytes.flatMap escapeByte ++ rest) = bytes ++ unescapeBytes 0 rest := by
  induction bytes with
  | nil => rfl
  | cons b bytes ih => rw [List.flatMap_cons, List.append_assoc, unescapeBytes_escapeByte, ih, List.cons_append]

/-- A character of a form as it is before its escapes are read. -/
def spaced (c : Char) : Char := if c == '+' then ' ' else c

theorem map_spaced_formChar (c : Char) :
    (formChar c).map spaced = if c == ' ' then [' '] else escapeChar isUnreserved c := by
  unfold formChar
  split
  · rfl
  · refine (List.map_congr_left fun d hd => ?_).trans (List.map_id _)
    have hplus : d ≠ '+' := by
      rcases of_mem_escapeChar hd with ⟨h, rfl⟩ | h | rfl
      · exact (isUnreserved_bounds h).2.2.1
      · exact (isUnreserved_bounds h).2.2.1
      · decide
    exact if_neg (by simpa using hplus)

theorem utf8Char_of_lt {c : Char} (h : c.toNat < 128) : utf8Char c = [UInt8.ofNat c.toNat] := by
  unfold utf8Char
  simp only
  rw [if_pos (by omega)]

/-- What stands for a character in a form is read as the bytes of that character. -/
theorem unescapeBytes_formChar (c : Char) (rest : List Char) :
    unescapeBytes 0 ((formChar c).map spaced ++ rest) = utf8Char c ++ unescapeBytes 0 rest := by
  rw [map_spaced_formChar]
  by_cases hblank : c = ' '
  · subst hblank
    exact unescapeBytes_of_ne (by decide) rest
  rw [if_neg (by simpa using hblank), escapeChar]
  split
  · rename_i hsafe
    obtain ⟨hascii, hmark, -⟩ := isUnreserved_bounds hsafe
    rw [List.singleton_append, unescapeBytes_of_ne hmark, utf8Char_of_lt hascii]
    rfl
  · exact unescapeBytes_flatMap _ rest

theorem unescapeBytes_flatMap_formChar (cs : List Char) :
    unescapeBytes 0 ((cs.flatMap formChar).map spaced) = utf8Bytes cs := by
  induction cs with
  | nil => rfl
  | cons c cs ih =>
      rw [List.flatMap_cons, List.map_append, unescapeBytes_formChar, ih]
      rfl

/-- Characters of ASCII are one run. -/
theorem unescapeRuns_of_ascii {cs : List Char} (h : ∀ c ∈ cs, c.toNat < 128) (fuel : Nat) :
    unescapeRuns (fuel + 1) cs = (ofUtf8 (unescapeBytes 0 cs)).toList := by
  cases cs with
  | nil => rfl
  | cons c rest =>
      have htake : (c :: rest).takeWhile (fun c => c.toNat < 128) = c :: rest :=
        List.takeWhile_eq_self_iff.2 fun d hd => decide_eq_true (h d hd)
      have hdrop : (c :: rest).dropWhile (fun c => c.toNat < 128) = [] :=
        List.dropWhile_eq_nil_iff.2 fun d hd => decide_eq_true (h d hd)
      have hend : unescapeRuns fuel [] = [] := by cases fuel <;> rfl
      rw [unescapeRuns]
      simp only [htake, hdrop, hend, List.append_nil]
      rfl

theorem formText_eq {s t : String} (h : formText s = .ok t) : t = String.ofList (s.toList.flatMap formChar) := by
  unfold formText at h
  cases hbytes : utf8 s with
  | error f =>
      rw [hbytes] at h
      cases h
  | ok bytes =>
      rw [hbytes] at h
      cases h
      rfl

/-- A text of a form holds characters of forms alone. -/
theorem isFormChar_of_formText {s t : String} (h : formText s = .ok t) : ∀ c ∈ t.toList, isFormChar c := by
  intro c hc
  rw [formText_eq h, String.toList_ofList] at hc
  obtain ⟨d, -, hc⟩ := List.mem_flatMap.1 hc
  exact isFormChar_of_mem_formChar hc

/-- A text that is written in a form is read back from it. -/
theorem ofFormText_formText {s t : String} (h : formText s = .ok t) : ofFormText t = s := by
  have hspaced : ofFormText t = unescape (String.ofList ((s.toList.flatMap formChar).map spaced)) := by
    rw [formText_eq h, ofFormText, String.toList_ofList]
    rfl
  have hascii : ∀ c ∈ (s.toList.flatMap formChar).map spaced, c.toNat < 128 := by
    intro c hc
    obtain ⟨d, hd, rfl⟩ := List.mem_map.1 hc
    obtain ⟨e, -, hd⟩ := List.mem_flatMap.1 hd
    unfold spaced
    split
    · decide
    · exact toNat_lt_of_isFormChar (isFormChar_of_mem_formChar hd)
  rw [hspaced, unescape, String.toList_ofList, unescapeRuns_of_ascii hascii, unescapeBytes_flatMap_formChar,
    ofUtf8_utf8Bytes, String.toList_ofList, String.ofList_toList]

/-! ### Texts without escapes -/

theorem unescapeBytes_of_not_mem {cs : List Char} (hascii : ∀ c ∈ cs, c.toNat < 128) (h : '%' ∉ cs) :
    unescapeBytes 0 cs = utf8Bytes cs := by
  induction cs with
  | nil => rfl
  | cons c cs ih =>
      have hc : c ≠ '%' := fun heq => h (heq ▸ List.mem_cons_self)
      rw [unescapeBytes_of_ne hc, ih (fun d hd => hascii d (List.mem_cons_of_mem _ hd))
        fun hin => h (List.mem_cons_of_mem _ hin)]
      show _ = utf8Char c ++ utf8Bytes cs
      rw [utf8Char_of_lt (hascii c List.mem_cons_self)]
      rfl

/-- Runs without escapes are read as they stand. -/
theorem unescapeRuns_of_not_mem {cs : List Char} (h : '%' ∉ cs) {fuel : Nat} (hfuel : cs.length < fuel) :
    unescapeRuns fuel cs = cs := by
  induction fuel generalizing cs with
  | zero => exact absurd hfuel (Nat.not_lt_zero _)
  | succ fuel ih =>
      cases cs with
      | nil => rfl
      | cons c rest =>
          obtain ⟨run, after, hrun, hafter⟩ : ∃ run after, (c :: rest).takeWhile (fun c => c.toNat < 128) = run ∧
              (c :: rest).dropWhile (fun c => c.toNat < 128) = after := ⟨_, _, rfl, rfl⟩
          have hcut : run ++ after = c :: rest := by rw [← hrun, ← hafter, List.takeWhile_append_dropWhile]
          have hlength := congrArg List.length hcut
          rw [List.length_append, List.length_cons] at hlength
          rw [List.length_cons] at hfuel
          rw [unescapeRuns, hrun, hafter]
          by_cases hempty : run = []
          · have hrest : '%' ∉ rest := fun hin => h (List.mem_cons_of_mem _ hin)
            rw [if_pos (by rw [hempty]; rfl), ih hrest (by omega)]
          · have hpos : 0 < run.length := List.length_pos_iff.2 hempty
            have hascii : ∀ d ∈ run, d.toNat < 128 := by
              intro d hd
              rw [← hrun] at hd
              simpa using List.mem_takeWhile_imp hd
            rw [← hcut, List.mem_append, not_or] at h
            rw [if_neg (by simpa using hempty), unescapeBytes_of_not_mem hascii h.1, ofUtf8_utf8Bytes,
              String.toList_ofList, ih h.2 (by omega), hcut]

/-- A text of a form without escapes and without blanks stands for itself. -/
theorem ofFormText_of_not_mem {s : String} (h : '%' ∉ s.toList) (hplus : '+' ∉ s.toList) : ofFormText s = s := by
  have hmap : s.toList.map (fun c => if c == '+' then ' ' else c) = s.toList := by
    refine (List.map_congr_left fun c hc => ?_).trans (List.map_id _)
    refine if_neg fun heq => hplus ?_
    rwa [← (beq_iff_eq.1 heq : c = '+')]
  rw [ofFormText, hmap, String.ofList_toList, unescape, unescapeRuns_of_not_mem h, String.ofList_toList]
  rw [String.length_toList]
  exact Nat.lt_succ_self _

end Courier.Text
