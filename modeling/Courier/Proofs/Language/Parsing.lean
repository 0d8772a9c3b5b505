import Courier.Language.Grammar.Statements
import Courier.Proofs.Results

/-! Parsers on tokens that are given. A parser that takes some of them and leaves the others is put together of steps
that do; where an operand is followed by the end of its tag, by a closing parenthesis or by the end of the text, no level
of the grammar goes on with it. -/

namespace Courier.Language.Grammar

/-- A parser takes some of the tokens ahead and leaves the others. -/
def Parses {α : Type} (p : Parse α) (tokens : List PlacedToken) (a : α) (rest : List PlacedToken) : Prop :=
  p.run tokens = .ok (a, rest)

variable {α β : Type}

theorem Parses.pure (a : α) (tokens : List PlacedToken) : Parses (pure a) tokens a tokens := rfl

theorem Parses.bind {p : Parse α} {next : α → Parse β} {tokens between rest : List PlacedToken} {a : α} {b : β}
    (h : Parses p tokens a between) (h' : Parses (next a) between b rest) : Parses (p >>= next) tokens b rest := by
  unfold Parses at *
  rw [StateT.run_bind, h]
  exact h'

/-- What is left of the tokens does not matter in the end. -/
theorem start_eq {p : Parse α} {tokens rest : List PlacedToken} {a : α} (h : Parses p tokens a rest) :
    start p tokens = .ok a := by
  unfold Parses at h
  unfold start
  rw [h]
  rfl

/-- A parser that succeeds was put together of two that do. -/
theorem exists_of_parses_bind {p : Parse α} {next : α → Parse β} {tokens rest : List PlacedToken} {b : β}
    (h : Parses (p >>= next) tokens b rest) :
    ∃ a between, Parses p tokens a between ∧ Parses (next a) between b rest := by
  unfold Parses at h
  rw [StateT.run_bind] at h
  obtain ⟨⟨a, between⟩, hp, hnext⟩ := exists_of_bind_ok h
  exact ⟨a, between, hp, hnext⟩

/-- A token that could be read. -/
def IsRead : Token → Prop
  | .fault _ => False
  | _ => True

variable {t next : PlacedToken} {rest : List PlacedToken}

theorem parses_ahead : Parses ahead (t :: rest) t (t :: rest) := rfl

theorem parses_current : Parses current (t :: rest) t.token (t :: rest) := rfl

theorem parses_advance (h : IsRead next.token) : Parses advance (t :: next :: rest) () (next :: rest) := by
  obtain ⟨token, line⟩ := next
  unfold Parses advance
  simp only [StateT.run_bind, StateT.run_get]
  cases token with
  | fault f => exact h.elim
  | _ => rfl

theorem parses_skipIf_of_not {test : Token → Bool} (h : test t.token = false) :
    Parses (skipIf test) (t :: rest) false (t :: rest) := by
  apply parses_current.bind
  rw [h]
  rfl

theorem parses_skipIf {test : Token → Bool} (h : test t.token = true) (hnext : IsRead next.token) :
    Parses (skipIf test) (t :: next :: rest) true (next :: rest) := by
  apply parses_current.bind
  rw [h]
  exact (parses_advance hnext).bind (.pure _ _)

theorem parses_expect {expected : String} {test : Token → Bool} (h : test t.token = true)
    (hnext : IsRead next.token) : Parses (expect expected test) (t :: next :: rest) t.token (next :: rest) := by
  apply parses_current.bind
  rw [h]
  exact (parses_advance hnext).bind (.pure _ _)

/-- The first of some tokens that are given. -/
theorem exists_of_map_eq_cons {tokens : List PlacedToken} {token : Token} {more : List Token}
    (h : tokens.map (·.token) = token :: more) :
    ∃ line rest, tokens = ⟨token, line⟩ :: rest ∧ rest.map (·.token) = more := by
  obtain ⟨⟨first, line⟩, rest, rfl, rfl, hrest⟩ := List.map_eq_cons_iff.1 h
  exact ⟨line, rest, rfl, hrest⟩

/-! ### Operands at their end -/

/-- Tokens that no operand goes on with. -/
inductive Closes : Token → Prop
  | variableEnd : Closes .variableEnd
  | parenthesis : Closes (.operator ")")
  | ending : Closes .ending

section

variable {fuel line : Nat} {e : Expression} {tokens : List PlacedToken} {token : Token} (ht : Closes token)

include ht

theorem parses_filters_closes : Parses (filters (fuel + 1) e) (⟨token, line⟩ :: rest) e (⟨token, line⟩ :: rest) := by
  rw [filters]
  cases ht <;> rfl

theorem parses_suffixes_closes : Parses (suffixes (fuel + 1) e) (⟨token, line⟩ :: rest) e (⟨token, line⟩ :: rest) := by
  rw [suffixes]
  cases ht <;> rfl

theorem parses_morePowers_closes :
    Parses (morePowers fuel e) (⟨token, line⟩ :: rest) e (⟨token, line⟩ :: rest) := by
  cases fuel <;> rw [morePowers] <;> cases ht <;> rfl

theorem parses_moreFactors_closes :
    Parses (moreFactors fuel e) (⟨token, line⟩ :: rest) e (⟨token, line⟩ :: rest) := by
  cases fuel <;> rw [moreFactors] <;> cases ht <;> rfl

theorem parses_moreParts_closes : Parses (moreParts fuel) (⟨token, line⟩ :: rest) [] (⟨token, line⟩ :: rest) := by
  cases fuel <;> rw [moreParts] <;> cases ht <;> rfl

theorem parses_moreTerms_closes :
    Parses (moreTerms fuel e) (⟨token, line⟩ :: rest) e (⟨token, line⟩ :: rest) := by
  cases fuel <;> rw [moreTerms] <;> cases ht <;> rfl

theorem parses_moreComparisons_closes :
    Parses (moreComparisons fuel) (⟨token, line⟩ :: rest) [] (⟨token, line⟩ :: rest) := by
  cases fuel <;> rw [moreComparisons] <;> cases ht <;> rfl

theorem parses_moreConjuncts_closes :
    Parses (moreConjuncts fuel e) (⟨token, line⟩ :: rest) e (⟨token, line⟩ :: rest) := by
  cases fuel <;> rw [moreConjuncts] <;> cases ht <;> rfl

theorem parses_moreDisjuncts_closes :
    Parses (moreDisjuncts fuel e) (⟨token, line⟩ :: rest) e (⟨token, line⟩ :: rest) := by
  cases fuel <;> rw [moreDisjuncts] <;> cases ht <;> rfl

theorem parses_choices_closes {start : Nat} :
    Parses (choices fuel start e) (⟨token, line⟩ :: rest) e (⟨token, line⟩ :: rest) := by
  cases fuel <;> rw [choices] <;> cases ht <;> rfl

/-- A signed value at the end of its operand is the whole expression. -/
theorem parses_expression_closes {first : PlacedToken} (hnot : first.token.isWord "not" = false)
    (h : Parses (signed fuel true) (first :: tokens) e (⟨token, line⟩ :: rest)) :
    Parses (expression (fuel + 9)) (first :: tokens) e (⟨token, line⟩ :: rest) := by
  have hpower : Parses (power (fuel + 1)) (first :: tokens) e (⟨token, line⟩ :: rest) := by
    rw [power]
    exact h.bind (parses_morePowers_closes ht)
  have hproduct : Parses (product (fuel + 2)) (first :: tokens) e (⟨token, line⟩ :: rest) := by
    rw [product]
    exact hpower.bind (parses_moreFactors_closes ht)
  have hjoining : Parses (joining (fuel + 3)) (first :: tokens) e (⟨token, line⟩ :: rest) := by
    rw [joining]
    exact hproduct.bind ((parses_moreParts_closes ht).bind (.pure _ _))
  have hsum : Parses (sum (fuel + 4)) (first :: tokens) e (⟨token, line⟩ :: rest) := by
    rw [sum]
    exact hjoining.bind (parses_moreTerms_closes ht)
  have hcomparisons : Parses (comparisons (fuel + 5)) (first :: tokens) e (⟨token, line⟩ :: rest) := by
    rw [comparisons]
    exact hsum.bind ((parses_moreComparisons_closes ht).bind (.pure _ _))
  have hnegation : Parses (negation (fuel + 6)) (first :: tokens) e (⟨token, line⟩ :: rest) := by
    rw [negation]
    exact (parses_skipIf_of_not hnot).bind hcomparisons
  have hconjunction : Parses (conjunction (fuel + 7)) (first :: tokens) e (⟨token, line⟩ :: rest) := by
    rw [conjunction]
    exact hnegation.bind (parses_moreConjuncts_closes ht)
  have hdisjunction : Parses (disjunction (fuel + 8)) (first :: tokens) e (⟨token, line⟩ :: rest) := by
    rw [disjunction]
    exact hconjunction.bind (parses_moreDisjuncts_closes ht)
  rw [expression]
  exact parses_ahead.bind (hdisjunction.bind (parses_choices_closes ht))

theorem Closes.isRead : IsRead token := by
  cases ht <;> trivial

/-- A text in quotes. -/
theorem parses_string (s : String) (start : Nat) :
    Parses (expression (fuel + 12)) (⟨.string s, start⟩ :: ⟨token, line⟩ :: rest) (.constant (.newText s))
      (⟨token, line⟩ :: rest) := by
  have hstrings : Parses (adjacentStrings (fuel + 1)) (⟨.string s, start⟩ :: ⟨token, line⟩ :: rest) s
      (⟨token, line⟩ :: rest) := by
    have hmore : Parses (adjacentStrings fuel) (⟨token, line⟩ :: rest) "" (⟨token, line⟩ :: rest) := by
      cases fuel <;> rw [adjacentStrings] <;> cases ht <;> rfl
    have happend : Parses (pure (s ++ "")) (⟨token, line⟩ :: rest) s (⟨token, line⟩ :: rest) := by
      rw [String.append_empty]
      exact .pure _ _
    rw [adjacentStrings]
    exact parses_current.bind ((parses_advance ht.isRead).bind (hmore.bind happend))
  have hprimary : Parses (primary (fuel + 2)) (⟨.string s, start⟩ :: ⟨token, line⟩ :: rest) (.constant (.newText s))
      (⟨token, line⟩ :: rest) := by
    rw [primary]
    exact parses_current.bind (hstrings.bind (.pure _ _))
  have hsigned : Parses (signed (fuel + 3) true) (⟨.string s, start⟩ :: ⟨token, line⟩ :: rest)
      (.constant (.newText s)) (⟨token, line⟩ :: rest) := by
    rw [signed]
    exact parses_current.bind (hprimary.bind ((parses_suffixes_closes ht).bind (parses_filters_closes ht)))
  exact parses_expression_closes ht rfl hsigned

end

/-- The call of a name with a text in quotes. -/
theorem parses_call {fuel line : Nat} {token : Token} (ht : Closes token) {name : String}
    (hconstant : namedConstant? name = none) (hnot : (name == "not") = false) (s : String)
    (start open' inner close : Nat) :
    Parses (expression (fuel + 24))
      (⟨.name name, start⟩ :: ⟨.operator "(", open'⟩ :: ⟨.string s, inner⟩ :: ⟨.operator ")", close⟩ ::
        ⟨token, line⟩ :: rest)
      (.call (.name name) [.positional (.constant (.newText s))]) (⟨token, line⟩ :: rest) := by
  have hname : Parses (primary (fuel + 14))
      (⟨.name name, start⟩ :: ⟨.operator "(", open'⟩ :: ⟨.string s, inner⟩ :: ⟨.operator ")", close⟩ ::
        ⟨token, line⟩ :: rest) (.name name)
      (⟨.operator "(", open'⟩ :: ⟨.string s, inner⟩ :: ⟨.operator ")", close⟩ :: ⟨token, line⟩ :: rest) := by
    rw [primary]
    refine parses_current.bind ((parses_advance (by trivial)).bind ?_)
    rw [hconstant]
    exact .pure _ _
  have harguments : Parses (arguments (fuel + 13) true ⟨false, false, false⟩)
      (⟨.string s, inner⟩ :: ⟨.operator ")", close⟩ :: ⟨token, line⟩ :: rest)
      [.positional (.constant (.newText s))] (⟨token, line⟩ :: rest) := by
    have hend : Parses (arguments (fuel + 12) false ⟨false, false, false⟩)
        (⟨.operator ")", close⟩ :: ⟨token, line⟩ :: rest)
        [] (⟨token, line⟩ :: rest) := by
      rw [arguments]
      exact (parses_skipIf rfl ht.isRead).bind (.pure _ _)
    rw [arguments]
    refine (parses_skipIf_of_not rfl).bind ?_
    refine parses_current.bind (parses_current.bind ?_)
    simp only [Token.isOperator, Bool.false_eq_true, if_false, Bool.or_self, pure_bind]
    refine (parses_string .parenthesis s inner).bind ?_
    exact hend.bind (.pure _ _)
  have hsuffixes : Parses (suffixes (fuel + 14) (.name name))
      (⟨.operator "(", open'⟩ :: ⟨.string s, inner⟩ :: ⟨.operator ")", close⟩ :: ⟨token, line⟩ :: rest)
      (.call (.name name) [.positional (.constant (.newText s))]) (⟨token, line⟩ :: rest) := by
    rw [suffixes]
    refine parses_current.bind ((parses_advance (by trivial)).bind ?_)
    exact harguments.bind (parses_suffixes_closes ht)
  have hsigned : Parses (signed (fuel + 15) true)
      (⟨.name name, start⟩ :: ⟨.operator "(", open'⟩ :: ⟨.string s, inner⟩ :: ⟨.operator ")", close⟩ ::
        ⟨token, line⟩ :: rest)
      (.call (.name name) [.positional (.constant (.newText s))]) (⟨token, line⟩ :: rest) := by
    rw [signed]
    exact parses_current.bind (hname.bind (hsuffixes.bind (parses_filters_closes ht)))
  exact parses_expression_closes ht hnot hsigned

/-- The tokens of names behind points. -/
def pointTokens (keys : List String) : List Token := keys.flatMap fun key => [.operator ".", .name key]

/-- A point or the end comes next where names behind points may follow. -/
theorem exists_next_of_points {token : Token} (ht : Closes token) (line : Nat) (rest : List PlacedToken)
    {keys : List String} {points : List PlacedToken} (h : points.map (·.token) = pointTokens keys) :
    ∃ next behind, points ++ ⟨token, line⟩ :: rest = next :: behind ∧ IsRead next.token := by
  cases keys with
  | nil =>
      obtain rfl := List.map_eq_nil_iff.1 h
      exact ⟨_, _, rfl, ht.isRead⟩
  | cons key keys =>
      obtain ⟨first, _, rfl, -⟩ := exists_of_map_eq_cons h
      exact ⟨_, _, rfl, trivial⟩

/-- Names behind points are members of members. -/
theorem parses_suffixes_points {token : Token} (ht : Closes token) (line : Nat) (rest : List PlacedToken) (fuel : Nat)
    (keys : List String) (e : Expression) {points : List PlacedToken}
    (h : points.map (·.token) = pointTokens keys) :
    Parses (suffixes (fuel + keys.length + 1) e) (points ++ ⟨token, line⟩ :: rest) (keys.foldl .member e)
      (⟨token, line⟩ :: rest) := by
  induction keys generalizing e points with
  | nil =>
      obtain rfl := List.map_eq_nil_iff.1 h
      exact parses_suffixes_closes ht
  | cons key keys ih =>
      obtain ⟨first, _, rfl, hname⟩ := exists_of_map_eq_cons h
      obtain ⟨second, more, rfl, hmore⟩ := exists_of_map_eq_cons hname
      obtain ⟨next, behind, hbehind, hread⟩ := exists_next_of_points ht line rest hmore
      have hrest := ih (.member e key) hmore
      rw [hbehind] at hrest
      rw [List.cons_append, List.cons_append, hbehind, List.length_cons, ← Nat.add_assoc, suffixes]
      refine parses_current.bind ((parses_advance (by trivial)).bind ?_)
      exact parses_current.bind ((parses_advance hread).bind hrest)

/-- A name and the names behind its points. -/
theorem parses_path {line : Nat} {token : Token} (ht : Closes token) {name : String}
    (hconstant : namedConstant? name = none) (hnot : (name == "not") = false) (fuel start : Nat) (keys : List String)
    {points : List PlacedToken} (h : points.map (·.token) = pointTokens keys) :
    Parses (expression (fuel + keys.length + 11)) (⟨.name name, start⟩ :: (points ++ ⟨token, line⟩ :: rest))
      (keys.foldl .member (.name name)) (⟨token, line⟩ :: rest) := by
  obtain ⟨next, behind, hbehind, hread⟩ := exists_next_of_points ht line rest h
  have hsuffixes := parses_suffixes_points ht line rest fuel keys (.name name) h
  rw [hbehind] at hsuffixes ⊢
  have hprimary : Parses (primary (fuel + keys.length + 1)) (⟨.name name, start⟩ :: next :: behind) (.name name)
      (next :: behind) := by
    rw [primary]
    refine parses_current.bind ((parses_advance hread).bind ?_)
    rw [hconstant]
    exact .pure _ _
  have hsigned : Parses (signed (fuel + keys.length + 2) true) (⟨.name name, start⟩ :: next :: behind)
      (keys.foldl .member (.name name)) (⟨token, line⟩ :: rest) := by
    rw [signed]
    exact parses_current.bind (hprimary.bind (hsuffixes.bind (parses_filters_closes ht)))
  exact parses_expression_closes ht hnot hsigned

/-- An expression between the ends of an output. -/
theorem parses_tuple {fuel line : Nat} {first : PlacedToken} {tokens : List PlacedToken} {e : Expression}
    (hends : endsTuple none first.token = false)
    (h : Parses (expression fuel) (first :: tokens) e (⟨.variableEnd, line⟩ :: rest)) :
    Parses (tuple (fuel + 2) outputStyle) (first :: tokens) e (⟨.variableEnd, line⟩ :: rest) := by
  have hitems : Parses (tupleItems (fuel + 1) outputStyle true) (first :: tokens) ([e], false)
      (⟨.variableEnd, line⟩ :: rest) := by
    rw [tupleItems]
    refine parses_current.bind ?_
    simp only [outputStyle, hends, Bool.false_eq_true, if_false, if_true]
    refine h.bind ?_
    exact parses_current.bind (.pure _ _)
  rw [tuple]
  exact hitems.bind (.pure _ _)

end Courier.Language.Grammar
