import Courier.Proofs.Formula.Reading
import Courier.Proofs.Text.Encoding

/-! Key paths as formulas. The text of a path is read as a name and a point in front of each further name, and its
expression asks for members of members. Nothing in it is known before it runs, and nothing in it is refused. -/

namespace Courier.Formula

open Courier.Language Courier.Language.Grammar Courier.Text

/-! ### Names -/

/-- Characters that a name starts with. -/
def isNameHead (c : Char) : Bool := isAsciiLetter c || c == '_'

/-- Characters that a name goes on with. -/
def isNameTail (c : Char) : Bool := isAsciiLetter c || isAsciiDigit c || c == '_'

/-- A name of ASCII characters. -/
def isName (s : String) : Bool :=
  match s.toList with
  | [] => false
  | c :: rest => isNameHead c && rest.all isNameTail

/-- Names that mean something else at the start of a formula. -/
def meaningful : List String := ["not", "true", "True", "false", "False", "none", "None", "self"]

theorem toNat_lt_of_isNameTail {c : Char} (h : isNameTail c = true) : c.toNat < 128 := by
  simp only [isNameTail, Bool.or_eq_true, beq_iff_eq] at h
  rcases h with (h | h) | rfl
  · exact toNat_lt_of_isAsciiLetter h
  · exact toNat_lt_of_isAsciiDigit h
  · decide

theorem isNameTail_of_isNameHead {c : Char} (h : isNameHead c = true) : isNameTail c = true := by
  simp only [isNameHead, isNameTail, Bool.or_eq_true] at h ⊢
  exact h.imp_left Or.inl

theorem isWordChar_of_isNameTail {c : Char} (h : isNameTail c = true) : isWordChar c = true := by
  have hlt : c.val < 128 := toNat_lt_of_isNameTail h
  rw [isWordChar, if_pos hlt]
  exact h

theorem isBlank_of_isNameTail {c : Char} (h : isNameTail c = true) : isBlank c = false := by
  refine of_forall_ascii (P := fun c => isNameTail c = true → isBlank c = false) ?_ (toNat_lt_of_isNameTail h) h
  decide

/-- A name starts with a character of words that is no digit. -/
theorem isDecimal_of_isNameHead {c : Char} (h : isNameHead c = true) : isDecimal c = false := by
  refine of_forall_ascii (P := fun c => isNameHead c = true → isDecimal c = false) ?_
    (toNat_lt_of_isNameTail (isNameTail_of_isNameHead h)) h
  decide

theorem exists_of_isName {s : String} (h : isName s = true) :
    ∃ c word, s = String.ofList (c :: word) ∧ isNameHead c = true ∧ ∀ x ∈ word, isNameTail x = true := by
  unfold isName at h
  split at h
  · cases h
  · rename_i c word hs
    rw [Bool.and_eq_true, List.all_eq_true] at h
    exact ⟨c, word, by rw [← hs, String.ofList_toList], h.1, h.2⟩

theorem isIdentifier_of_isName {s : String} (h : isName s = true) : isIdentifier s = true := by
  obtain ⟨c, word, rfl, hc, hword⟩ := exists_of_isName h
  have hstart : isNameStart c = true := by
    have hlt : c.val < 128 := toNat_lt_of_isNameTail (isNameTail_of_isNameHead hc)
    rw [isNameStart, if_pos hlt]
    exact hc
  have hrest : word.all isNameRest = true := by
    rw [List.all_eq_true]
    intro x hx
    have hlt : x.val < 128 := toNat_lt_of_isNameTail (hword x hx)
    rw [isNameRest, if_pos hlt]
    exact hword x hx
  rw [isIdentifier, String.toList_ofList]
  simp [hstart, hrest]

/-! ### Paths -/

/-- A key path that a formula consists of: names with points between them, the first of which means nothing else. -/
structure KeyPath where
  first : String
  rest : List String
  isName_first : isName first = true
  isName_rest : ∀ key ∈ rest, isName key = true
  first_free : first ∉ meaningful

namespace KeyPath

/-- The text of a path. -/
def text (p : KeyPath) : String := join "." (p.first :: p.rest)

/-- The expression of a path. -/
def expression (p : KeyPath) : Expression := p.rest.foldl .member (.name p.first)

theorem toList_join (first : String) (rest : List String) :
    (join "." (first :: rest)).toList = first.toList ++ rest.flatMap fun key => '.' :: key.toList := by
  induction rest generalizing first with
  | nil => simp [join]
  | cons key rest ih =>
      have hkey := ih key
      simp only [join, String.toList_intercalate, List.map_cons, List.intercalate] at hkey ⊢
      rw [List.intersperse_cons_cons, List.flatten_cons, List.flatten_cons, hkey]
      simp

theorem toList_text (p : KeyPath) :
    p.text.toList = p.first.toList ++ p.rest.flatMap fun key => '.' :: key.toList :=
  toList_join p.first p.rest

theorem isNameTail_of_mem {s : String} (h : isName s = true) : ∀ c ∈ s.toList, isNameTail c = true := by
  obtain ⟨c, word, rfl, hc, hword⟩ := exists_of_isName h
  rw [String.toList_ofList]
  exact List.forall_mem_cons.2 ⟨isNameTail_of_isNameHead hc, hword⟩

/-- A path of names consists of characters of names and points. -/
theorem isNameTail_or_point_of_join {keys : List String} (h : ∀ key ∈ keys, isName key = true) :
    ∀ c ∈ (join "." keys).toList, isNameTail c = true ∨ c = '.' := by
  intro c hc
  cases keys with
  | nil => cases hc
  | cons first rest =>
      rw [toList_join, List.mem_append, List.mem_flatMap] at hc
      rcases hc with hc | ⟨key, hkey, hc⟩
      · exact Or.inl (isNameTail_of_mem (h first List.mem_cons_self) c hc)
      · rcases List.mem_cons.1 hc with rfl | hc
        · exact Or.inr rfl
        · exact Or.inl (isNameTail_of_mem (h key (List.mem_cons_of_mem _ hkey)) c hc)

theorem isNameTail_or_point (p : KeyPath) : ∀ c ∈ p.text.toList, isNameTail c = true ∨ c = '.' :=
  isNameTail_or_point_of_join (List.forall_mem_cons.2 ⟨p.isName_first, p.isName_rest⟩)

theorem isBlank_of_mem_text (p : KeyPath) {c : Char} (hc : c ∈ p.text.toList) : isBlank c = false := by
  rcases p.isNameTail_or_point c hc with h | rfl
  · exact isBlank_of_isNameTail h
  · decide

/-- A path starts with the first character of its first name. -/
theorem exists_toList_text (p : KeyPath) : ∃ c cs, p.text.toList = c :: cs ∧ isNameHead c = true := by
  obtain ⟨c, word, hfirst, hc, -⟩ := exists_of_isName p.isName_first
  refine ⟨c, word ++ p.rest.flatMap fun key => '.' :: key.toList, ?_, hc⟩
  rw [toList_text, hfirst, String.toList_ofList]
  rfl

/-! ### Reading -/

theorem reads_name {s : String} (h : isName s = true) {rest : List Char}
    (hrest : ∀ x ∈ rest.head?, isWordChar x = false) :
    Token.Reads (.inside .variable []) (s.toList ++ rest) [.name s] (.inside .variable []) rest := by
  have hidentifier := isIdentifier_of_isName h
  obtain ⟨c, word, rfl, hc, hword⟩ := exists_of_isName h
  have hall : ∀ x ∈ c :: word, isWordChar x = true :=
    List.forall_mem_cons.2 ⟨isWordChar_of_isNameTail (isNameTail_of_isNameHead hc),
      fun x hx => isWordChar_of_isNameTail (hword x hx)⟩
  have hsign : c ≠ '-' ∧ c ≠ '\x7d' := by
    constructor
    · rintro rfl
      cases hc
    · rintro rfl
      cases hc
  rw [String.toList_ofList]
  exact Token.Reads.word hall (isBlank_of_isNameTail (isNameTail_of_isNameHead hc)) (isDecimal_of_isNameHead hc) hsign
    hidentifier hrest []

theorem head?_points (keys : List String) :
    ∀ x ∈ (keys.flatMap fun key => '.' :: key.toList).head?, isWordChar x = false := by
  intro x hx
  cases keys with
  | nil => cases hx
  | cons key keys =>
      cases hx
      decide

theorem reads_points {keys : List String} (h : ∀ key ∈ keys, isName key = true) :
    Token.Reads (.inside .variable []) (keys.flatMap fun key => '.' :: key.toList) (pointTokens keys)
      (.inside .variable []) [] := by
  induction keys with
  | nil => exact fun fuel spot hrest hfuel => ⟨fuel, spot, hrest, hfuel, rfl⟩
  | cons key keys ih =>
      have hkey := reads_name (h key List.mem_cons_self) (head?_points keys)
      have hrest := ih fun other hother => h other (List.mem_cons_of_mem _ hother)
      exact (Token.Reads.point _ []).trans (hkey.trans hrest)

/-- A path is read as its first name and a point with a name for each further one. -/
theorem map_readExpression (p : KeyPath) :
    (Token.readExpression p.text).map (·.token) = .name p.first :: (pointTokens p.rest ++ [.ending]) := by
  have hlines : '\r' ∉ p.text.toList := by
    intro h
    rcases p.isNameTail_or_point _ h with h | h <;> cases h
  have hlast : p.text.toList.getLast? ≠ some '\n' := by
    intro h
    rcases p.isNameTail_or_point _ (List.mem_of_getLast? h) with h | h <;> cases h
  have hreads := (reads_name p.isName_first (head?_points p.rest)).trans (reads_points p.isName_rest)
  rw [← toList_text] at hreads
  exact Formula.map_readExpression hlines hlast hreads

theorem namedConstant?_first (p : KeyPath) : namedConstant? p.first = none := by
  have hfree := p.first_free
  simp only [meaningful, List.mem_cons, List.not_mem_nil, or_false, not_or] at hfree
  simp [namedConstant?, hfree]

theorem first_ne_not (p : KeyPath) : (p.first == "not") = false := by
  have hfree := p.first_free
  simp only [meaningful, List.mem_cons, List.not_mem_nil, or_false, not_or] at hfree
  simp [hfree.1]

theorem first_ne_self (p : KeyPath) : p.first ≠ "self" := by
  intro h
  exact p.first_free (h ▸ by decide)

/-- A path is parsed as members of members of its first name. -/
theorem parseExpression_text (p : KeyPath) : parseExpression p.text = .ok p.expression := by
  obtain ⟨line, behind, htokens, hbehind⟩ := exists_of_map_eq_cons p.map_readExpression
  obtain ⟨points, last, rfl, hpoints, hlast⟩ := List.map_eq_append_iff.1 hbehind
  obtain ⟨close, rest, rfl, hrest⟩ := exists_of_map_eq_cons hlast
  obtain rfl := List.map_eq_nil_iff.1 hrest
  have hlength : points.length = (pointTokens p.rest).length := by
    rw [← hpoints, List.length_map]
  have hdouble : (pointTokens p.rest).length = 2 * p.rest.length := by
    simp [pointTokens, List.length_flatMap, Nat.mul_comm]
  -- there is fuel for every level of the grammar and every point
  obtain ⟨fuel, hfuel⟩ : ∃ fuel, fuelFor (Token.readExpression p.text) = fuel + p.rest.length + 11 := by
    refine ⟨fuelFor (Token.readExpression p.text) - p.rest.length - 11, ?_⟩
    rw [htokens, fuelFor, List.length_cons, List.length_append, hlength, hdouble]
    omega
  rw [htokens] at hfuel
  have hparse : Parses (Grammar.expression (fuel + p.rest.length + 11))
      (⟨.name p.first, line⟩ :: (points ++ [⟨.ending, close⟩])) p.expression [⟨.ending, close⟩] :=
    parses_path .ending p.namedConstant?_first p.first_ne_not fuel line p.rest hpoints
  rw [← hfuel] at hparse
  exact parseExpression_eq htokens trivial hparse

end KeyPath

/-! ### The expression of a path -/

/-- Expressions that are a name or a member of such an expression. -/
inductive IsAccess : Expression → Prop
  | name (n : String) : IsAccess (.name n)
  | member {e : Expression} (h : IsAccess e) (key : String) : IsAccess (.member e key)

namespace IsAccess

variable {e : Expression}

theorem foldl (h : IsAccess e) (keys : List String) : IsAccess (keys.foldl .member e) := by
  induction keys generalizing e with
  | nil => exact h
  | cons key keys ih => exact ih (h.member key)

/-- Its value is not known before the program runs. -/
theorem valueOf?_eq (h : IsAccess e) (place : Constant.Place) : Constant.valueOf? place e = .ok none := by
  induction h with
  | name n => rfl
  | member h key ih =>
      rw [Constant.valueOf?, ih]
      rfl

theorem fold_eq (h : IsAccess e) (place : Constant.Place) : Constant.fold place e = .ok e := by
  induction h with
  | name n => rfl
  | member h key ih =>
      have hvalue := (h.member key).valueOf?_eq place
      rw [Constant.fold, ih]
      show Constant.settled place (.member _ key) = _
      rw [Constant.settled, hvalue]
      rfl

theorem check_eq (h : IsAccess e) (lenient : Bool) : Constant.check lenient e = .ok () := by
  induction h with
  | name n => rfl
  | member h key ih =>
      rw [Constant.check]
      exact ih

theorem ready_eq (h : IsAccess e) (place : Constant.Place) (lenient : Bool) :
    Constant.ready place lenient e = .ok e := by
  have hsimplify : Constant.simplify place e = .ok e := by
    have hfold := h.fold_eq place
    cases h <;> exact hfold
  have hcheck := h.check_eq lenient
  unfold Constant.ready
  cases place.isOpen with
  | true =>
      simp only [if_true, pure_bind, hcheck]
      rfl
  | false =>
      simp only [Bool.false_eq_true, if_false, hsimplify]
      show (do
        Constant.check lenient e
        return e) = _
      rw [hcheck]
      rfl

/-- It calls nothing, so that no argument is given twice in it. -/
theorem repeatedName?_of_mem (h : IsAccess e) : ∀ part ∈ e.withParts, Listing.repeatedName? part = none := by
  induction h with
  | name n =>
      intro part hpart
      cases List.mem_singleton.1 hpart
      rfl
  | member h key ih =>
      intro part hpart
      rw [Expression.withParts] at hpart
      rcases List.mem_cons.1 hpart with rfl | hpart
      · rfl
      · exact ih part hpart

theorem lists_line (h : IsAccess e) : Template.Lists (Listing.line [e]) := by
  have hnone : ([e].flatMap Expression.withParts).findSome? Listing.repeatedName? = none := by
    rw [List.findSome?_eq_none_iff]
    intro part hpart
    rw [List.flatMap_singleton] at hpart
    exact h.repeatedName?_of_mem part hpart
  unfold Listing.line
  rw [hnone]
  exact (Template.lists_skip 1).bind fun lines => ⟨lines, rfl⟩

/-- The names that it reads are those of its first part. -/
theorem names_foldl (keys : List String) (e : Expression) : (keys.foldl Expression.member e).names = e.names := by
  induction keys generalizing e with
  | nil => rfl
  | cons key keys ih =>
      rw [List.foldl_cons, ih, Expression.names]

end IsAccess

namespace KeyPath

theorem isAccess_expression (p : KeyPath) : IsAccess p.expression := (IsAccess.name p.first).foldl p.rest

theorem names_expression (p : KeyPath) : p.expression.names = [p.first] := by
  rw [expression, IsAccess.names_foldl, Expression.names]

/-- The formula of a path is the expression of the path. -/
theorem compile_text (p : KeyPath) : compile p.text = .ok p.expression :=
  compile_eq p.parseExpression_text (p.isAccess_expression.ready_eq (.outermost false) false)
    p.isAccess_expression.lists_line

theorem isBlank_of_mem_getLast? (p : KeyPath) : ∀ d ∈ p.text.toList.getLast?, isBlank d = false :=
  fun _ hd => p.isBlank_of_mem_text (List.mem_of_getLast? hd)

theorem head_not_mark {c : Char} (hc : isNameHead c = true) : isBlank c = false ∧ c ≠ '\x7b' := by
  refine ⟨isBlank_of_isNameTail (isNameTail_of_isNameHead hc), ?_⟩
  rintro rfl
  cases hc

/-- A path stands in no braces and has no blanks around it. -/
theorem content_text (p : KeyPath) : content p.text = p.text := by
  obtain ⟨c, cs, htext, hc⟩ := p.exists_toList_text
  exact content_eq htext (head_not_mark hc).1 (head_not_mark hc).2 p.isBlank_of_mem_getLast?

theorem isEmpty_content_text (p : KeyPath) : (content p.text).isEmpty = false := by
  obtain ⟨c, cs, htext, hc⟩ := p.exists_toList_text
  exact isEmpty_content htext (head_not_mark hc).1 (head_not_mark hc).2 p.isBlank_of_mem_getLast?

end KeyPath

end Courier.Formula
