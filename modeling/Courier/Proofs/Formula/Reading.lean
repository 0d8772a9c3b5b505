import Courier.Formula
import Courier.Proofs.Template.Compiled
import Courier.Proofs.Text.Trimming

/-! How a formula is read, whatever it consists of. A text without braces in front and without blanks at its ends is
read as it is; its tokens are those that stand in it, and an expression that takes all of them, that is known as far as
it goes and that is not refused is the expression of the formula. -/

namespace Courier.Formula

open Courier.Language Courier.Language.Grammar Courier.Text

variable {source : String}

/-! ### The content -/

/-- Without the opening braces of a tag in front, blanks are all that is taken away. -/
theorem content_eq_trim (h : ¬ ['\x7b', '\x7b'] <+: source.toList.dropWhile isBlank) : content source = trim source := by
  have hunwrapped : unwrapped? source.toList = none := by
    unfold unwrapped?
    rw [Template.Tag.after?, if_neg (by simpa using h)]
    rfl
  rw [content, hunwrapped]
  rfl

section

variable {c : Char} {cs : List Char} (hsource : source.toList = c :: cs) (hblank : isBlank c = false)
  (hbrace : c ≠ '\x7b') (hlast : ∀ d ∈ source.toList.getLast?, isBlank d = false)

include hsource hblank hbrace hlast

/-- A text that stands in no braces and has no blanks around it is read as it is. -/
theorem content_eq : content source = source := by
  have hbraces : ¬ ['\x7b', '\x7b'] <+: source.toList.dropWhile isBlank := by
    rw [hsource, List.dropWhile_cons_of_neg (by simp [hblank])]
    exact fun hprefix => hbrace (List.cons_prefix_cons.1 hprefix).1.symm
  have hhead : ∀ d ∈ source.toList.head?, isBlank d = false := by
    rw [hsource]
    rintro _ ⟨⟩
    exact hblank
  rw [content_eq_trim hbraces, trim_eq_self hhead hlast]

theorem isEmpty_content : (content source).isEmpty = false := by
  rw [content_eq hsource hblank hbrace hlast, ← Bool.not_eq_true, String.isEmpty_iff]
  rintro rfl
  cases hsource

end

/-! ### The expression -/

/-- The tokens of a text are those that are read in it up to its end. -/
theorem map_readExpression {tokens : List Token} (hlines : '\r' ∉ source.toList)
    (hlast : source.toList.getLast? ≠ some '\n')
    (h : Token.Reads (.inside .variable []) source.toList tokens (.inside .variable []) []) :
    (Token.readExpression source).map (·.token) = tokens ++ [.ending] := by
  obtain ⟨fuel, spot, hrest, hfuel, heq⟩ :=
    h (source.toList.length + 1) ⟨0, 1, false, source.toList⟩ rfl (Nat.lt_succ_self _)
  obtain ⟨fuel, rfl⟩ := Nat.exists_eq_succ_of_ne_zero (Nat.ne_of_gt (Nat.zero_lt_of_lt hfuel))
  unfold Token.readExpression
  simp only [Template.unifyLines_of_not_mem hlines]
  rw [if_neg (by simpa using hlast), heq]
  simp [Token.readFrom, hrest]

/-- An expression that is read up to the end is all that is read. -/
theorem parseExpression_eq {e : Expression} {first : PlacedToken} {rest : List PlacedToken} {line : Nat}
    (htokens : Token.readExpression source = first :: rest) (hfirst : IsRead first.token)
    (h : Parses (Grammar.expression (fuelFor (first :: rest))) (first :: rest) e [⟨.ending, line⟩]) :
    parseExpression source = .ok e := by
  obtain ⟨token, place⟩ := first
  unfold parseExpression
  rw [htokens]
  cases token with
  | fault f => exact hfirst.elim
  | _ => exact start_eq (h.bind (parses_current.bind (.pure _ _)))

/-- An expression that is ready and has a listing is the expression of the formula. -/
theorem compile_eq {e : Expression} (hparse : parseExpression source = .ok e)
    (hready : Constant.ready (.outermost false) false e = .ok e) (hlists : Template.Lists (Listing.line [e])) :
    compile source = .ok e := by
  have hlisting : Program.checkListing ⟨[.assign (.name "result") e], []⟩ = .ok () := by
    apply Template.checkListing_of_lists
    intro known
    rw [Listing.statements, Listing.statements, Listing.statement, bind_pure_unit]
    exact (Template.lists_skip _).bind (hlists.bind (Template.lists_skip _))
  unfold compile
  simp only [hparse, bind, Except.bind, hready, hlisting]
  rfl

end Courier.Formula
