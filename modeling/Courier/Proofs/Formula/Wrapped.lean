import Courier.Proofs.Formula.Reading
import Courier.Proofs.Mapping

/-! Formulas in double braces. The braces end at the first pair that closes, so that what stands between them is the
formula as long as it has no braces of a tag in it and does not run into those behind it; blanks around it and around the
braces are taken away. A formula in braces is thus read as the formula, and differs from it in nothing but the text that
its failure names. -/

namespace Courier

namespace Failure

/-- The failure under the name of another formula. A fault that no formula fails with has no such name. -/
def inNameOf (source : String) : Failure → Failure
  | formula _ message => formula source message
  | failure => failure

theorem inNameOf_ofFormula (source text : String) (f : Language.Fault) :
    inNameOf source (ofFormula text f) = ofFormula source f := by
  unfold ofFormula
  cases f.isAbsorbed <;> rfl

end Failure

namespace Formula

open Courier.Language Courier.Text

/-- A text of blanks, or of nothing at all. -/
abbrev Blanks := { s : String // isBlankText s = true }

/-- Double braces for a formula, with the blanks on either side of both pairs. -/
structure Braces where
  front : Blanks
  before : Blanks
  behind : Blanks
  back : Blanks

/-- A formula in braces. -/
def Braces.around (b : Braces) (e : String) : String :=
  b.front ++ "\x7b\x7b" ++ b.before ++ e ++ b.behind ++ "\x7d\x7d" ++ b.back

/-- A formula that braces can close around: it has no braces of a tag in it, and where it ends with a brace, a blank
parts it from those behind it. -/
structure Braces.Fit (b : Braces) (e : String) : Prop where
  noOpening : contains e "\x7b\x7b" = false
  noClosing : contains e "\x7d\x7d" = false
  parted : e.toList.getLast? = some '\x7d' → b.behind.1 ≠ ""

/-! ### What stands between the braces -/

theorem isBraces_iff {cs : List Char} :
    isBraces cs = true ↔ ['\x7b', '\x7b'] <+: cs ∨ ['\x7d', '\x7d'] <+: cs := by
  unfold isBraces
  split
  · simp
  · simp
  · rename_i hopen hclose
    simp only [Bool.false_eq_true, false_iff, not_or]
    constructor
    · rintro ⟨rest, rfl⟩
      exact hopen rest rfl
    · rintro ⟨rest, rfl⟩
      exact hclose rest rfl

/-- Reading up to braces ends at a pair that closes, if there are no others in front of it and none of its own is met
too early. -/
theorem upToBraces_append {inner : List Char} (hopen : ¬ ['\x7b', '\x7b'] <:+: inner)
    (hclose : ¬ ['\x7d', '\x7d'] <:+: inner) (hlast : inner.getLast? ≠ some '\x7d') (rest : List Char) :
    upToBraces (inner ++ '\x7d' :: '\x7d' :: rest) = (inner, '\x7d' :: '\x7d' :: rest) := by
  induction inner with
  | nil => rfl
  | cons c cs ih =>
      -- a pair that starts here lies within the text, unless its first brace is the last character of it
      have hpair (mark : Char) (hnot : ¬ [mark, mark] <:+: c :: cs) :
          ¬ [mark, mark] <+: c :: (cs ++ '\x7d' :: '\x7d' :: rest) := by
        intro hprefix
        obtain ⟨rfl, hnext⟩ := List.cons_prefix_cons.1 hprefix
        cases cs with
        | nil =>
            obtain ⟨rfl, -⟩ := List.cons_prefix_cons.1 hnext
            exact hlast rfl
        | cons d ds =>
            obtain ⟨rfl, -⟩ := List.cons_prefix_cons.1 hnext
            exact hnot ⟨[], ds, rfl⟩
      have hbraces : isBraces (c :: (cs ++ '\x7d' :: '\x7d' :: rest)) = false := by
        rw [← Bool.not_eq_true, isBraces_iff, not_or]
        exact ⟨hpair _ hopen, hpair _ hclose⟩
      have htail : cs <:+: c :: cs := (List.suffix_cons c cs).isInfix
      have hend : cs.getLast? ≠ some '\x7d' := by
        intro hcs
        rw [List.getLast?_cons, hcs] at hlast
        exact hlast rfl
      rw [List.cons_append, upToBraces, hbraces,
        ih (fun h => hopen (h.trans htail)) (fun h => hclose (h.trans htail)) hend]
      rfl

theorem after?_append (expected cs : List Char) : Template.Tag.after? expected (expected ++ cs) = some cs := by
  rw [Template.Tag.after?, if_pos (by simp), List.drop_left]

/-- Between braces with blanks around them, what is read is all that stands there. -/
theorem unwrapped?_eq {front inner back : List Char} (hfront : ∀ c ∈ front, isBlank c) (hback : ∀ c ∈ back, isBlank c)
    (hopen : ¬ ['\x7b', '\x7b'] <:+: inner) (hclose : ¬ ['\x7d', '\x7d'] <:+: inner)
    (hlast : inner.getLast? ≠ some '\x7d') :
    unwrapped? (front ++ (['\x7b', '\x7b'] ++ (inner ++ '\x7d' :: '\x7d' :: back))) = some inner := by
  have hblanks : (front ++ (['\x7b', '\x7b'] ++ (inner ++ '\x7d' :: '\x7d' :: back))).dropWhile isBlank =
      ['\x7b', '\x7b'] ++ (inner ++ '\x7d' :: '\x7d' :: back) := by
    rw [List.dropWhile_append_of_pos hfront]
    rfl
  have hend : Template.Tag.after? ['\x7d', '\x7d'] ('\x7d' :: '\x7d' :: back) = some back := after?_append _ back
  unfold unwrapped?
  simp only [hblanks, after?_append, upToBraces_append hopen hclose hlast, hend, Option.bind_eq_bind, Option.bind_some,
    List.all_eq_true.2 hback, if_true]

namespace Braces

variable {b : Braces} {e : String}

theorem toList_around (b : Braces) (e : String) : (b.around e).toList =
    b.front.1.toList ++ (['\x7b', '\x7b'] ++
      ((b.before.1.toList ++ e.toList ++ b.behind.1.toList) ++ '\x7d' :: '\x7d' :: b.back.1.toList)) := by
  simp [around]

theorem isBlank_of_mem (w : Blanks) : ∀ c ∈ w.1.toList, isBlank c := List.all_eq_true.1 w.2

theorem infix_iff (b : Braces) {mark : Char} (hmark : isBlank mark = false) (cs : List Char) :
    [mark, mark] <:+: b.before.1.toList ++ cs ++ b.behind.1.toList ↔ [mark, mark] <:+: cs := by
  refine infix_between_iff (List.cons_ne_nil _ _) (fun c hc => ?_) (isBlank_of_mem _) (isBlank_of_mem _)
  have heq : c = mark := by simpa using hc
  rw [heq, hmark]

namespace Fit

variable (h : b.Fit e)

include h

theorem not_opening : ¬ ['\x7b', '\x7b'] <:+: e.toList := by
  intro hin
  have hcontains := (contains_iff e "\x7b\x7b").2 hin
  rw [h.noOpening] at hcontains
  cases hcontains

theorem not_closing : ¬ ['\x7d', '\x7d'] <:+: e.toList := by
  intro hin
  have hcontains := (contains_iff e "\x7d\x7d").2 hin
  rw [h.noClosing] at hcontains
  cases hcontains

/-- No brace of the formula touches those that close behind it. -/
theorem getLast?_ne : (b.before.1.toList ++ e.toList ++ b.behind.1.toList).getLast? ≠ some '\x7d' := by
  have hblank (w : Blanks) : w.1.toList.getLast? ≠ some '\x7d' := by
    intro hlast
    have hbrace : isBlank '\x7d' = true := isBlank_of_mem w _ (List.mem_of_getLast? hlast)
    cases hbrace
  intro hlast
  rw [List.getLast?_append, List.getLast?_append] at hlast
  rcases Option.or_eq_some_iff.1 hlast with hbehind | ⟨hbehind, hlast⟩
  · exact hblank _ hbehind
  rcases Option.or_eq_some_iff.1 hlast with he | ⟨-, hbefore⟩
  · apply h.parted he
    simpa using hbehind
  · exact hblank _ hbefore

/-- In braces a formula is read as it is without them. -/
theorem content_around : content (b.around e) = content e := by
  have hunwrapped : unwrapped? (b.around e).toList =
      some (b.before.1.toList ++ e.toList ++ b.behind.1.toList) := by
    rw [toList_around]
    apply unwrapped?_eq (isBlank_of_mem _) (isBlank_of_mem _) _ _ h.getLast?_ne
    · rw [b.infix_iff (by decide)]
      exact h.not_opening
    · rw [b.infix_iff (by decide)]
      exact h.not_closing
  have hbraces : ¬ ['\x7b', '\x7b'] <+: e.toList.dropWhile isBlank := by
    intro hstart
    exact h.not_opening (hstart.isInfix.trans (List.dropWhile_suffix _).isInfix)
  calc
    content (b.around e) = trim (String.ofList (b.before.1.toList ++ e.toList ++ b.behind.1.toList)) := by
      rw [content, hunwrapped]
      rfl
    _ = trim (String.ofList e.toList) := trim_between (isBlank_of_mem _) (isBlank_of_mem _) _
    _ = content e := by rw [String.ofList_toList, content_eq_trim hbraces]

/-- A formula comes to the same value or fault in braces and without them. -/
theorem attempt_around (data : Value) (memory : Memory) :
    attempt (b.around e) data memory = attempt e data memory := by
  unfold attempt
  rw [h.content_around]

end Fit

end Braces

/-! ### Values and failures -/

/-- Braces around a formula, with any blanks on both sides of them, change nothing but the name that it fails under. The
expression that is run is the same one, so that the value is the same and so are the changes to the data; what fails
without the braces fails in them, in the same way and with the same wording, and nothing else does. -/
theorem evaluate_around (b : Braces) {e : String} (h : b.Fit e) (data : Value) (memory : Memory) :
    content (b.around e) = content e ∧
      evaluate (b.around e) data memory =
        ((evaluate e data memory).1.mapError (Failure.inNameOf (b.around e)), (evaluate e data memory).2) := by
  refine ⟨h.content_around, ?_⟩
  rw [evaluate_eq, evaluate_eq, h.attempt_around]
  rcases attempt e data memory with ⟨f | v, after⟩
  · simp only [Except.mapError, Failure.inNameOf_ofFormula]
  · rfl

/-- A map whose first brace touches those around it, and one whose last brace would. -/
theorem evaluate_around_map :
    (evaluate "\x7b\x7b\x7b'k': n\x7d | length ~ n\x7d\x7d" (.ofDocument "data" [] (.object [("n", .int 3)]))
        .empty).1.map Value.text? = .ok (some "13") ∧
      evaluate "\u2003\n\x7b\x7b\x7b'k': 1 // n\x7d \x7d\x7d\t" (.ofDocument "data" [] (.object [("n", .int 0)]))
        .empty = (.error (.formula "\u2003\n\x7b\x7b\x7b'k': 1 // n\x7d \x7d\x7d\t"
          "integer division or modulo by zero"), .empty) := by
  constructor
  · obtain ⟨b, haround, hfit⟩ : ∃ b : Braces, b.around "\x7b'k': n\x7d | length ~ n" =
        "\x7b\x7b\x7b'k': n\x7d | length ~ n\x7d\x7d" ∧ b.Fit "\x7b'k': n\x7d | length ~ n" :=
      ⟨⟨⟨"", rfl⟩, ⟨"", rfl⟩, ⟨"", rfl⟩, ⟨"", rfl⟩⟩, by decide, by decide, by decide, by decide⟩
    obtain ⟨-, hvalue⟩ := evaluate_around b hfit (.ofDocument "data" [] (.object [("n", .int 3)])) .empty
    rw [haround] at hvalue
    rw [hvalue]
    decide +kernel
  · obtain ⟨b, haround, hfit⟩ : ∃ b : Braces, b.around "\x7b'k': 1 // n\x7d" =
        "\u2003\n\x7b\x7b\x7b'k': 1 // n\x7d \x7d\x7d\t" ∧ b.Fit "\x7b'k': 1 // n\x7d" :=
      ⟨⟨⟨"\u2003\n", by decide⟩, ⟨"", rfl⟩, ⟨" ", by decide⟩, ⟨"\t", by decide⟩⟩, by decide, by decide, by decide,
        by decide⟩
    obtain ⟨-, hfailure⟩ := evaluate_around b hfit (.ofDocument "data" [] (.object [("n", .int 0)])) .empty
    rw [haround] at hfailure
    rw [hfailure]
    rfl

end Formula

end Courier
