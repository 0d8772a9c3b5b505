import Courier.Proofs.Text.Escapes
import Courier.Template.Tag

/-! The tokens of templates that consist of texts and of outputs of a quoted text or of a look-up. A text without the
marks that open tags is one token, whatever stands behind it; an output is read token by token up to its end. Where the
reader is and how much fuel it has left does not matter as long as the fuel exceeds the characters that are left. -/

namespace Courier.Language.Token

open Courier.Text

/-- The signs that open a tag or a comment behind a brace. -/
def openers : List Char := ['\x7b', '%', '#']

/-- A text in which nothing opens a tag or a comment. -/
def IsPlain (cs : List Char) : Prop := ∀ sign ∈ openers, ¬ ['\x7b', sign] <:+: cs

theorem isPlain_of_not_mem {cs : List Char} (h : '\x7b' ∉ cs) : IsPlain cs :=
  fun _ _ hin => h (hin.subset List.mem_cons_self)

theorem IsPlain.tail {c : Char} {cs : List Char} (h : IsPlain (c :: cs)) : IsPlain cs :=
  fun sign hsign hin => h sign hsign (hin.trans (List.suffix_cons c cs).isInfix)

theorem IsPlain.second {c : Char} {cs : List Char} (h : IsPlain ('\x7b' :: c :: cs)) : c ∉ openers :=
  fun hc => h c hc ⟨[], cs, rfl⟩

theorem markAt?_of_ne {c : Char} (h : c ≠ '\x7b') (cs : List Char) : markAt? (c :: cs) = none := by
  unfold markAt?
  split
  · simp_all
  · rfl

theorem markAt?_of_not_opener {c : Char} (h : c ∉ openers) (cs : List Char) :
    markAt? ('\x7b' :: c :: cs) = none := by
  simp only [openers, List.mem_cons, List.not_mem_nil, or_false, not_or] at h
  obtain ⟨hbrace, hpercent, hhash⟩ := h
  simp [markAt?, hbrace, hpercent, hhash]

theorem markAt?_variable (cs : List Char) :
    markAt? ('\x7b' :: '\x7b' :: ' ' :: cs) = some (.variable, 2, false) := rfl

/-- A plain text that does not end in a brace is no part of a mark behind it. -/
theorem textUntilMark_append {plain rest : List Char} (hplain : IsPlain plain)
    (hend : plain.getLast? ≠ some '\x7b' ∨ rest = []) (taken : List Char) :
    textUntilMark taken (plain ++ rest) = textUntilMark (plain.reverse ++ taken) rest := by
  induction plain generalizing taken with
  | nil => rfl
  | cons c plain ih =>
      have hmark : markAt? (c :: (plain ++ rest)) = none := by
        by_cases hc : c = '\x7b'
        · subst hc
          cases plain with
          | nil =>
              rcases hend with hend | rfl
              · exact absurd rfl hend
              · rfl
          | cons d plain => exact markAt?_of_not_opener hplain.second _
        · exact markAt?_of_ne hc _
      have hend' : plain.getLast? ≠ some '\x7b' ∨ rest = [] := by
        rcases hend with hend | hend
        · refine Or.inl fun h => hend ?_
          rw [List.getLast?_cons, h]
          rfl
        · exact Or.inr hend
      rw [List.cons_append, textUntilMark.eq_def]
      simp only [hmark]
      rw [ih hplain.tail hend', List.reverse_cons, List.append_assoc]
      rfl

/-- The token of a text, unless it is empty. -/
def ofText (cs : List Char) : List Token := if cs.isEmpty then [] else [.text (String.ofList cs)]

theorem map_textToken (line : Nat) (cs : List Char) :
    (textToken line false cs.reverse).map (·.token) = ofText cs := by
  unfold textToken ofText
  cases cs with
  | nil => rfl
  | cons c cs => simp

/-! ### The steps inside a tag -/

theorem digitRun_of_not {p : Char → Bool} {c : Char} (h : p c = false) (cs : List Char) :
    digitRun p (c :: cs) = 0 := by
  unfold digitRun
  split <;> simp_all

theorem isDecimal_of_isAsciiDigit {c : Char} (h : isAsciiDigit c = true) : isDecimal c = true := by
  have hlt : c.val < 128 := by
    simp only [isAsciiDigit, Bool.and_eq_true, decide_eq_true_eq] at h
    exact Nat.lt_of_le_of_lt h.2 (by decide)
  simp [isDecimal, decimalValue?, hlt, h]

theorem floatLength_of_not_decimal {c : Char} (h : isDecimal c = false) (cs : List Char) :
    floatLength (c :: cs) = 0 := by
  simp [floatLength, digitRun_of_not h]

theorem integerLength_of_not_decimal {c : Char} (h : isDecimal c = false) (cs : List Char) :
    integerLength (c :: cs) = 0 := by
  have hzero : c ≠ '0' := by
    rintro rfl
    exact absurd h (by decide)
  have hrange : ¬ ('1' ≤ c ∧ c ≤ '9') := by
    intro hc
    have hdigit : isAsciiDigit c = true := by
      simp only [isAsciiDigit, Bool.and_eq_true, decide_eq_true_eq]
      exact ⟨Char.le_trans (by decide) hc.1, hc.2⟩
    rw [isDecimal_of_isAsciiDigit hdigit] at h
    cases h
  simp [integerLength, hzero, hrange]

/-! ### The steps inside an output -/

theorem step_blank (position line : Nat) (afterPoint : Bool) {c : Char} (hc : isBlank c = false) (cs : List Char)
    (brackets : List String) :
    step .variable ⟨position, line, afterPoint, ' ' :: c :: cs⟩ brackets = .blanks 1 := by
  have hblank : isBlank ' ' = true := by decide
  simp [step, tagEndLength, hc, hblank]

theorem step_end (position line : Nat) (afterPoint : Bool) (cs : List Char) :
    step .variable ⟨position, line, afterPoint, '\x7d' :: '\x7d' :: cs⟩ [] = .tagEnd 2 := by
  simp [step, tagEndLength]

/-- A text in quotes that is found up to its closing quote and can be read. -/
theorem step_quoted {inner rest : List Char} {value : String}
    (hlength : stringLength ('"' :: (inner ++ '"' :: rest)) = inner.length + 2)
    (hvalue : stringValue ('"' :: (inner ++ ['"'])) = .ok value) (position line : Nat) (afterPoint : Bool)
    (brackets : List String) :
    step .variable ⟨position, line, afterPoint, '"' :: (inner ++ '"' :: rest)⟩ brackets =
      .found (.string value) (inner.length + 2) brackets := by
  have hblank : isBlank '"' = false := by decide
  have hword : isWordChar '"' = false := by decide
  have hnumber : isDecimal '"' = false := by decide
  have htake : ('"' :: (inner ++ '"' :: rest)).take (inner.length + 2) = '"' :: (inner ++ ['"']) := by
    rw [List.take_succ_cons, List.take_append, List.take_of_length_le (Nat.le_succ _), Nat.add_sub_cancel_left]
    rfl
  simp only [step, tagEndLength, List.takeWhile_cons, hblank, hword, floatLength_of_not_decimal hnumber,
    integerLength_of_not_decimal hnumber, hlength, htake, hvalue]
  simp [Step.ofValue, Except.map]

/-- A word that ends where no character of words follows. -/
theorem step_word (position line : Nat) (afterPoint : Bool) {c : Char} {word : List Char}
    (hword : ∀ x ∈ c :: word, isWordChar x = true) (hblank : isBlank c = false) (hdecimal : isDecimal c = false)
    (hsign : c ≠ '-' ∧ c ≠ '\x7d') (hname : isIdentifier (String.ofList (c :: word)) = true) {rest : List Char}
    (hrest : ∀ x ∈ rest.head?, isWordChar x = false) (brackets : List String) :
    step .variable ⟨position, line, afterPoint, c :: (word ++ rest)⟩ brackets =
      .found (.name (String.ofList (c :: word))) (word.length + 1) brackets := by
  have htake : (c :: (word ++ rest)).takeWhile isWordChar = c :: word := by
    rw [← List.cons_append, List.takeWhile_append_of_pos hword]
    cases rest with
    | nil => simp
    | cons x rest => simp [hrest x rfl]
  have hend : tagEndLength .variable (c :: (word ++ rest)) = 0 := by
    simp [tagEndLength, hsign.1.symm, hsign.2.symm]
  simp only [step, hend, htake, floatLength_of_not_decimal hdecimal, integerLength_of_not_decimal hdecimal]
  simpa [hblank] using hname

/-- A point. No number starts with one. -/
theorem step_point (position line : Nat) (afterPoint : Bool) (rest : List Char) (brackets : List String) :
    step .variable ⟨position, line, afterPoint, '.' :: rest⟩ brackets = .found (.operator ".") 1 brackets := by
  have hblank : isBlank '.' = false := by decide
  have hword : isWordChar '.' = false := by decide
  have hnumber : isDecimal '.' = false := by decide
  simp only [step, tagEndLength, floatLength_of_not_decimal hnumber, integerLength_of_not_decimal hnumber]
  simp [hblank, hword, stringLength, readOperator, operators, closing?, isClosing]
  rfl

theorem step_opening (position line : Nat) (afterPoint : Bool) (rest : List Char) (brackets : List String) :
    step .variable ⟨position, line, afterPoint, '(' :: rest⟩ brackets =
      .found (.operator "(") 1 (")" :: brackets) := by
  have hblank : isBlank '(' = false := by decide
  have hword : isWordChar '(' = false := by decide
  have hnumber : isDecimal '(' = false := by decide
  simp only [step, tagEndLength, floatLength_of_not_decimal hnumber, integerLength_of_not_decimal hnumber]
  simp [hblank, hword, stringLength, readOperator, operators, closing?]
  rfl

theorem step_closing (position line : Nat) (afterPoint : Bool) (rest : List Char) (brackets : List String) :
    step .variable ⟨position, line, afterPoint, ')' :: rest⟩ (")" :: brackets) =
      .found (.operator ")") 1 brackets := by
  have hblank : isBlank ')' = false := by decide
  have hword : isWordChar ')' = false := by decide
  have hnumber : isDecimal ')' = false := by decide
  simp only [step, floatLength_of_not_decimal hnumber, integerLength_of_not_decimal hnumber]
  simp [hblank, hword, stringLength, readOperator, operators, closing?, isClosing]
  rfl

/-! ### Runs of the reader -/

/-- Reading goes on from some characters to others, and these are the tokens between them. -/
def Reads (mode : Mode) (cs : List Char) (tokens : List Token) (nextMode : Mode) (next : List Char) : Prop :=
  ∀ fuel spot, spot.rest = cs → cs.length < fuel →
    ∃ nextFuel nextSpot, nextSpot.rest = next ∧ next.length < nextFuel ∧
      (readFrom fuel mode spot).map (·.token) = tokens ++ (readFrom nextFuel nextMode nextSpot).map (·.token)

theorem Reads.trans {mode mode' mode'' : Mode} {cs cs' cs'' : List Char} {tokens tokens' : List Token}
    (h : Reads mode cs tokens mode' cs') (h' : Reads mode' cs' tokens' mode'' cs'') :
    Reads mode cs (tokens ++ tokens') mode'' cs'' := by
  intro fuel spot hrest hfuel
  obtain ⟨fuel', spot', hrest', hfuel', heq⟩ := h fuel spot hrest hfuel
  obtain ⟨fuel'', spot'', hrest'', hfuel'', heq'⟩ := h' fuel' spot' hrest' hfuel'
  exact ⟨fuel'', spot'', hrest'', hfuel'', by rw [heq, heq', List.append_assoc]⟩

theorem Spot.rest_advance (spot : Spot) (n : Nat) : (spot.advance n).rest = spot.rest.drop n := rfl

theorem length_drop_lt {cs : List Char} {fuel n : Nat} (hpos : 0 < n) (hcs : 0 < cs.length)
    (hfuel : cs.length < fuel + 1) : (cs.drop n).length < fuel := by
  rw [List.length_drop]
  omega

/-- A token that stands at some place, wherever that is in the text. -/
theorem Reads.of_found {c : Char} {cs : List Char} {brackets next : List String} {token : Token} {n : Nat}
    (hpos : 0 < n) (h : ∀ position line afterPoint,
      step .variable ⟨position, line, afterPoint, c :: cs⟩ brackets = .found token n next) :
    Reads (.inside .variable brackets) (c :: cs) [token] (.inside .variable next) ((c :: cs).drop n) := by
  intro fuel spot hrest hfuel
  obtain ⟨fuel, rfl⟩ := Nat.exists_eq_succ_of_ne_zero (Nat.ne_of_gt (Nat.zero_lt_of_lt hfuel))
  obtain ⟨position, line, afterPoint, rest⟩ := spot
  obtain rfl : rest = c :: cs := hrest
  refine ⟨fuel, Spot.advance ⟨position, line, afterPoint, c :: cs⟩ n, rfl,
    length_drop_lt hpos (Nat.succ_pos _) hfuel, ?_⟩
  simp only [readFrom, h, List.isEmpty_cons]
  rfl

theorem Reads.of_blanks {c : Char} {cs : List Char} {brackets : List String} {n : Nat} (hpos : 0 < n)
    (h : ∀ position line afterPoint, step .variable ⟨position, line, afterPoint, c :: cs⟩ brackets = .blanks n) :
    Reads (.inside .variable brackets) (c :: cs) [] (.inside .variable brackets) ((c :: cs).drop n) := by
  intro fuel spot hrest hfuel
  obtain ⟨fuel, rfl⟩ := Nat.exists_eq_succ_of_ne_zero (Nat.ne_of_gt (Nat.zero_lt_of_lt hfuel))
  obtain ⟨position, line, afterPoint, rest⟩ := spot
  obtain rfl : rest = c :: cs := hrest
  refine ⟨fuel, Spot.advance ⟨position, line, afterPoint, c :: cs⟩ n, rfl,
    length_drop_lt hpos (Nat.succ_pos _) hfuel, ?_⟩
  simp only [readFrom, h, List.isEmpty_cons]
  rfl

theorem Reads.blank {c : Char} (hc : isBlank c = false) (cs : List Char) (brackets : List String) :
    Reads (.inside .variable brackets) (' ' :: c :: cs) [] (.inside .variable brackets) (c :: cs) :=
  .of_blanks Nat.one_pos fun _ _ _ => step_blank _ _ _ hc _ _

theorem Reads.quoted {inner rest : List Char} {value : String}
    (hlength : stringLength ('"' :: (inner ++ '"' :: rest)) = inner.length + 2)
    (hvalue : stringValue ('"' :: (inner ++ ['"'])) = .ok value) (brackets : List String) :
    Reads (.inside .variable brackets) ('"' :: (inner ++ '"' :: rest)) [.string value] (.inside .variable brackets)
      rest := by
  have hread := Reads.of_found (Nat.succ_pos _) fun position line afterPoint =>
    step_quoted hlength hvalue position line afterPoint brackets
  have hdrop : ('"' :: (inner ++ '"' :: rest)).drop (inner.length + 2) = rest := by
    rw [List.drop_succ_cons, List.drop_append, List.drop_of_length_le (Nat.le_succ _), Nat.add_sub_cancel_left]
    rfl
  rwa [hdrop] at hread

/-- A text that is written as JSON. -/
theorem Reads.string {cs : List Char} (h : ∀ c ∈ cs, codePoint c < 0x10000) (rest : List Char)
    (brackets : List String) :
    Reads (.inside .variable brackets) ('"' :: (asciiJsonBody cs ++ '"' :: rest)) [.string (String.ofList cs)]
      (.inside .variable brackets) rest :=
  .quoted (stringLength_written h rest) (stringValue_written h) brackets

/-- A text that needs no escapes. -/
theorem Reads.plainString {cs : List Char} (h : ∀ c ∈ cs, c ≠ '"' ∧ c ≠ '\\') (rest : List Char)
    (brackets : List String) :
    Reads (.inside .variable brackets) ('"' :: (cs ++ '"' :: rest)) [.string (String.ofList cs)]
      (.inside .variable brackets) rest :=
  .quoted (stringLength_plain h rest) (stringValue_plain h) brackets

theorem Reads.word {c : Char} {word : List Char} (hword : ∀ x ∈ c :: word, isWordChar x = true)
    (hblank : isBlank c = false) (hdecimal : isDecimal c = false) (hsign : c ≠ '-' ∧ c ≠ '\x7d')
    (hname : isIdentifier (String.ofList (c :: word)) = true) {rest : List Char}
    (hrest : ∀ x ∈ rest.head?, isWordChar x = false) (brackets : List String) :
    Reads (.inside .variable brackets) (c :: (word ++ rest)) [.name (String.ofList (c :: word))]
      (.inside .variable brackets) rest := by
  have hread := Reads.of_found (Nat.succ_pos _) fun position line afterPoint =>
    step_word position line afterPoint hword hblank hdecimal hsign hname hrest brackets
  rwa [List.drop_succ_cons, List.drop_left] at hread

theorem Reads.point (rest : List Char) (brackets : List String) :
    Reads (.inside .variable brackets) ('.' :: rest) [.operator "."] (.inside .variable brackets) rest :=
  .of_found Nat.one_pos fun _ _ _ => step_point _ _ _ _ _

theorem Reads.opening (rest : List Char) (brackets : List String) :
    Reads (.inside .variable brackets) ('(' :: rest) [.operator "("] (.inside .variable (")" :: brackets)) rest :=
  .of_found Nat.one_pos fun _ _ _ => step_opening _ _ _ _ _

theorem Reads.closing (rest : List Char) (brackets : List String) :
    Reads (.inside .variable (")" :: brackets)) (')' :: rest) [.operator ")"] (.inside .variable brackets) rest :=
  .of_found Nat.one_pos fun _ _ _ => step_closing _ _ _ _ _

theorem Reads.ending (rest : List Char) :
    Reads (.inside .variable []) ('\x7d' :: '\x7d' :: rest) [.variableEnd] .outside rest := by
  intro fuel spot hrest hfuel
  obtain ⟨fuel, rfl⟩ := Nat.exists_eq_succ_of_ne_zero (Nat.ne_of_gt (Nat.zero_lt_of_lt hfuel))
  obtain ⟨position, line, afterPoint, text⟩ := spot
  obtain rfl : text = '\x7d' :: '\x7d' :: rest := hrest
  refine ⟨fuel, Spot.advance ⟨position, line, afterPoint, '\x7d' :: '\x7d' :: rest⟩ 2, rfl, ?_, ?_⟩
  · simp only [List.length_cons] at hfuel
    omega
  · simp only [readFrom, step_end, List.isEmpty_cons]
    rfl

/-- A text and the mark of an output behind it. -/
theorem Reads.text {plain : List Char} (hplain : IsPlain plain) (hend : plain.getLast? ≠ some '\x7b')
    (rest : List Char) :
    Reads .outside (plain ++ '\x7b' :: '\x7b' :: ' ' :: rest) (ofText plain ++ [.variableBegin])
      (.inside .variable []) (' ' :: rest) := by
  intro fuel spot hrest hfuel
  obtain ⟨fuel, rfl⟩ := Nat.exists_eq_succ_of_ne_zero (Nat.ne_of_gt (Nat.zero_lt_of_lt hfuel))
  have huntil : textUntilMark [] spot.rest = (plain.reverse, some (.variable, 2, false)) := by
    rw [hrest, textUntilMark_append hplain (Or.inl hend)]
    simp [textUntilMark, markAt?_variable]
  have hnext : ((spot.advance plain.reverse.length).advance 2).rest = ' ' :: rest := by
    rw [Spot.rest_advance, Spot.rest_advance, hrest, List.length_reverse, List.drop_left]
    rfl
  refine ⟨fuel, _, hnext, ?_, ?_⟩
  · rw [List.length_append, List.length_cons, List.length_cons] at hfuel
    omega
  · have hne : spot.rest.isEmpty = false := by
      rw [hrest]
      cases plain <;> rfl
    simp only [readFrom, hne, huntil]
    simp [map_textToken]

/-- A text and an output behind it, whatever is put out. -/
theorem Reads.output {plain : List Char} (hplain : IsPlain plain) (hend : plain.getLast? ≠ some '\x7b') {c : Char}
    (hc : isBlank c = false) {inner rest : List Char} {tokens : List Token}
    (h : Reads (.inside .variable []) (c :: inner) tokens (.inside .variable []) (' ' :: '\x7d' :: '\x7d' :: rest)) :
    Reads .outside (plain ++ '\x7b' :: '\x7b' :: ' ' :: c :: inner)
      (ofText plain ++ (.variableBegin :: tokens ++ [.variableEnd])) .outside rest := by
  have hopen := Reads.text hplain hend (c :: inner)
  have hclose := (Reads.blank (c := '\x7d') (by decide) ('\x7d' :: rest) []).trans (Reads.ending rest)
  have hall := (hopen.trans ((Reads.blank hc inner []).trans (h.trans hclose)))
  simpa using hall

/-- The text behind the last tag. -/
theorem map_readFrom_plain {plain : List Char} (hplain : IsPlain plain) {fuel : Nat} {spot : Spot}
    (hrest : spot.rest = plain) (hfuel : plain.length < fuel) :
    (readFrom fuel .outside spot).map (·.token) = ofText plain ++ [.ending] := by
  obtain ⟨fuel, rfl⟩ := Nat.exists_eq_succ_of_ne_zero (Nat.ne_of_gt (Nat.zero_lt_of_lt hfuel))
  have huntil : textUntilMark [] spot.rest = (plain.reverse, none) := by
    have happend : textUntilMark [] (plain ++ []) = _ := textUntilMark_append hplain (Or.inr rfl) []
    simpa [textUntilMark, hrest] using happend
  cases plain with
  | nil => simp [readFrom, hrest, ofText]
  | cons c plain =>
      have hne : spot.rest.isEmpty = false := by
        rw [hrest]
        rfl
      simp only [readFrom, hne, huntil, Bool.false_eq_true, if_false, List.map_append, map_textToken]
      rfl

end Courier.Language.Token
