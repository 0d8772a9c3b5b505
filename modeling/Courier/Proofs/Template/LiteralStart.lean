import Courier.Mapping
import Courier.Proofs.Language.Outcome
import Courier.Proofs.Language.Parsing
import Courier.Proofs.Results
import Courier.Proofs.Template.Fragment
import Mathlib.Data.List.Infix

/-! The literal start of a template. A start without braces stands at the front of the first text token, that of the
first piece of output, and that of whatever the template is rendered as: none of the steps in between takes a character
from it, and a template that fails is named at the front of its diagnostic. -/

namespace Courier.Template

open Courier.Language Courier.Language.Eval Courier.Text

/-- A start that is read as it stands: no tag begins in it, and no blank at its end can be taken away. -/
structure IsLiteral (start : List Char) : Prop where
  brace : '\x7b' ∉ start
  line : '\r' ∉ start
  last : ∃ c, start.getLast? = some c ∧ isBlank c = false

/-! ### The written form -/

theorem suffix_dropWhile {p : Char → Bool} {back : List Char} (h : ∀ c ∈ back.head?, p c = false)
    (front : List Char) : back <:+ (front ++ back).dropWhile p := by
  have hback : back.dropWhile p = back := by
    cases back with
    | nil => rfl
    | cons c back => rw [List.dropWhile_cons_of_neg (by simp [h c rfl])]
  rw [List.dropWhile_append]
  split
  · rw [hback]
  · exact List.suffix_append _ _

theorem prefix_dropTrailingList {p : Char → Bool} {front : List Char} (h : ∀ c ∈ front.getLast?, p c = false)
    (back : List Char) : front <+: dropTrailingList p (front ++ back) := by
  have hreverse : ∀ c ∈ front.reverse.head?, p c = false := by simpa using h
  rw [dropTrailingList, List.reverse_append, ← List.reverse_suffix, List.reverse_reverse]
  exact suffix_dropWhile hreverse _

theorem exists_cutFrom (fuel : Nat) (before cs : List Char) :
    ∃ more segments, cutFrom fuel before cs = .text (before.reverse ++ more) :: segments := by
  induction fuel generalizing before cs with
  | zero => exact ⟨cs, [], rfl⟩
  | succ fuel ih =>
      cases cs with
      | nil => exact ⟨[], [], by rw [cutFrom, List.append_nil]⟩
      | cons c cs =>
          cases htag : Tag.at? (c :: cs) with
          | some found =>
              obtain ⟨name, rest⟩ := found
              exact ⟨[], .tag name :: cutFrom fuel [] rest, by rw [cutFrom, htag, List.append_nil]⟩
          | none =>
              obtain ⟨more, segments, hcut⟩ := ih (c :: before) cs
              refine ⟨c :: more, segments, ?_⟩
              rw [cutFrom, htag]
              simp only
              rw [hcut]
              simp

variable {start : List Char}

theorem prefix_guarded (h : '\x7b' ∉ start) (more : List Char) : start <+: guarded (start ++ more) := by
  have hlast : ∀ c ∈ start.getLast?, (c == '\x7b') = false := fun c hc =>
    beq_false_of_ne fun heq => h (heq ▸ List.mem_of_getLast? hc)
  unfold guarded
  simp only
  split
  · exact (prefix_dropTrailingList hlast more).trans (List.prefix_append _ _)
  · exact List.prefix_append _ _

theorem prefix_expand {source : String} (h : '\x7b' ∉ start) (hsource : start <+: source.toList) :
    start <+: (expand source).toList := by
  obtain ⟨rest, hrest⟩ := hsource
  obtain ⟨more, segments, hcut⟩ : ∃ more segments, cut source.toList = .text (start ++ more) :: segments := by
    obtain ⟨more, segments, hcut⟩ := exists_cutFrom (rest.length + 1) start.reverse rest
    refine ⟨more, segments, ?_⟩
    rw [cut, ← hrest, List.length_append, Nat.add_assoc, cutFrom_append h, List.append_nil, hcut, List.reverse_reverse]
  rw [expand, String.toList_ofList, hcut]
  have hfront : start <+: start ++ more := List.prefix_append _ _
  cases segments with
  | nil => exact hfront.trans (List.prefix_append _ _)
  | cons segment segments =>
      cases segment with
      | text _ => exact hfront.trans (List.prefix_append _ _)
      | tag name =>
          rw [writeOut, List.append_assoc]
          exact (prefix_guarded h more).trans (List.prefix_append _ _)

/-! ### The first token -/

theorem unifyLines_append (h : '\r' ∉ start) (rest : List Char) :
    unifyLines (start ++ rest) = start ++ unifyLines rest := by
  induction start with
  | nil => rfl
  | cons c start ih =>
      have hrest := ih fun hin => h (List.mem_cons_of_mem _ hin)
      have hc : c ≠ '\r' := fun heq => h (heq ▸ List.mem_cons_self)
      rw [List.cons_append, unifyLines.eq_def]
      split
      · simp_all
      · simp_all
      · rename_i heq
        cases heq
        rw [hrest]
        rfl
      · rename_i heq
        cases heq

theorem suffix_textUntilMark (taken cs : List Char) : taken <:+ (Token.textUntilMark taken cs).1 := by
  induction cs generalizing taken with
  | nil => exact List.suffix_refl _
  | cons c cs ih =>
      rw [Token.textUntilMark]
      split
      · exact List.suffix_refl _
      · exact (List.suffix_cons c taken).trans (ih _)

/-- Whether or not blanks are taken away behind it, a text that was collected keeps the start. -/
theorem exists_textToken (h : IsLiteral start) {taken : List Char} (htaken : start.reverse <:+ taken) (line : Nat)
    (strips : Bool) : ∃ s, Token.textToken line strips taken = [⟨.text s, line⟩] ∧ start <+: s.toList := by
  obtain ⟨c, hlast, hblank⟩ := h.last
  have hkept : start.reverse <:+ if strips then taken.dropWhile isBlank else taken := by
    split
    · obtain ⟨front, rfl⟩ := htaken
      refine suffix_dropWhile (fun d hd => ?_) front
      rw [List.head?_reverse, hlast] at hd
      cases hd
      exact hblank
    · exact htaken
  unfold Token.textToken
  generalize (if strips then taken.dropWhile isBlank else taken) = kept at hkept
  have hne : kept.isEmpty = false := by
    refine Bool.eq_false_iff.2 fun hempty => ?_
    rw [List.isEmpty_iff.1 hempty, List.suffix_nil, List.reverse_eq_nil_iff] at hkept
    rw [hkept] at hlast
    cases hlast
  refine ⟨String.ofList kept.reverse, by simp [hne], ?_⟩
  rw [String.toList_ofList, ← List.reverse_suffix, List.reverse_reverse]
  exact hkept

/-- The first token is a text that has the start in front. -/
theorem exists_readTemplate {source : String} (h : IsLiteral start) (hsource : start <+: source.toList) :
    ∃ s line rest, Token.readTemplate source = ⟨.text s, line⟩ :: rest ∧ start <+: s.toList := by
  obtain ⟨rest, hrest⟩ := hsource
  have htaken : start.reverse <:+ (Token.textUntilMark [] (start ++ unifyLines rest)).1 := by
    rw [Token.textUntilMark_append (Token.isPlain_of_not_mem h.brace)
      (Or.inl fun hbrace => h.brace (List.mem_of_getLast? hbrace)), List.append_nil]
    exact suffix_textUntilMark _ _
  have hne : (start ++ unifyLines rest).isEmpty = false := by
    obtain ⟨c, hlast, -⟩ := h.last
    cases start with
    | nil => cases hlast
    | cons c start => rfl
  unfold Token.readTemplate
  rw [← hrest, unifyLines_append h.line]
  generalize start ++ unifyLines rest = cs at htaken hne
  simp only [Token.readFrom, hne, Bool.false_eq_true, if_false]
  generalize Token.textUntilMark [] cs = found at htaken
  obtain ⟨taken, mark⟩ := found
  cases mark with
  | none =>
      obtain ⟨s, htoken, hs⟩ := exists_textToken h htaken 1 false
      exact ⟨s, 1, _, by simp only [htoken]; rfl, hs⟩
  | some mark =>
      obtain ⟨mark, n, strips⟩ := mark
      obtain ⟨s, htoken, hs⟩ := exists_textToken h htaken 1 strips
      exact ⟨s, 1, _, by simp only [htoken]; rfl, hs⟩

/-! ### The first statement -/

/-- Statements that put out a text before anything else. -/
def Leads (s : String) (statements : List Statement) : Prop :=
  ∃ more rest, statements = .output (.text s :: more) :: rest

theorem leads_flush (s : String) (pieces : List Piece) (rest : List Statement) :
    Leads s (Grammar.flush (.text s :: pieces) ++ rest) := ⟨pieces, rest, rfl⟩

/-- The output collected so far stays in front of whatever is read behind it. -/
theorem leads_statements {s : String} {fuel : Nat} {opened : Grammar.Open} {stops : List String} {pieces : List Piece}
    {tokens after : List PlacedToken} {result : List Statement}
    (h : Grammar.Parses (Grammar.statements fuel opened stops (.text s :: pieces)) tokens result after) :
    Leads s result := by
  induction fuel generalizing pieces tokens with
  | zero =>
      cases h
      exact leads_flush s pieces []
  | succ fuel ih =>
      rw [Grammar.statements] at h
      obtain ⟨token, _, -, htoken⟩ := Grammar.exists_of_parses_bind h
      split at htoken
      · obtain ⟨_, _, -, hrest⟩ := Grammar.exists_of_parses_bind htoken
        exact ih hrest
      · obtain ⟨_, _, -, htuple⟩ := Grammar.exists_of_parses_bind htoken
        obtain ⟨_, _, -, hclose⟩ := Grammar.exists_of_parses_bind htuple
        obtain ⟨_, _, -, hrest⟩ := Grammar.exists_of_parses_bind hclose
        exact ih hrest
      · obtain ⟨_, _, -, hword⟩ := Grammar.exists_of_parses_bind htoken
        obtain ⟨word, _, -, hstop⟩ := Grammar.exists_of_parses_bind hword
        split at hstop
        · cases hstop
          exact leads_flush s pieces []
        · obtain ⟨_, _, -, hend⟩ := Grammar.exists_of_parses_bind hstop
          obtain ⟨_, _, -, hrest⟩ := Grammar.exists_of_parses_bind hend
          obtain ⟨_, _, -, hlast⟩ := Grammar.exists_of_parses_bind hrest
          cases hlast
          exact leads_flush s pieces _
      · cases htoken
        exact leads_flush s pieces []

/-- The program of a template starts with the first text of the template. -/
theorem leads_parseTemplate {source : String} {p : Program} (h : IsLiteral start) (hsource : start <+: source.toList)
    (hp : Grammar.parseTemplate source = .ok p) : ∃ s, Leads s p.statements ∧ start <+: s.toList := by
  obtain ⟨s, line, rest, htokens, hs⟩ := exists_readTemplate h hsource
  unfold Grammar.parseTemplate at hp
  rw [htokens] at hp
  obtain ⟨_, hstart, hprogram⟩ := exists_of_bind_ok hp
  obtain ⟨⟨result, after⟩, hparse, hresult⟩ := exists_of_bind_ok hstart
  cases hresult
  have hstatements : p.statements = result := by
    unfold Program.ofStatements at hprogram
    simp only at hprogram
    split at hprogram
    · cases hprogram
    · cases hprogram
      rfl
  rw [hstatements]
  refine ⟨s, ?_, hs⟩
  have hfuel : Grammar.fuelFor (⟨.text s, line⟩ :: rest) = 32 * rest.length + 95 + 1 := by
    rw [Grammar.fuelFor, List.length_cons]
    omega
  rw [hfuel, Grammar.statements] at hparse
  obtain ⟨token, _, htoken, hfirst⟩ := Grammar.exists_of_parses_bind hparse
  cases htoken
  obtain ⟨_, _, -, hrest⟩ := Grammar.exists_of_parses_bind hfirst
  exact leads_statements hrest

/-! ### Making ready -/

theorem leads_readyStatements {s : String} {place : Constant.Place} {lenient : Bool} {statements ready : List Statement}
    (h : Leads s statements) (hready : Constant.readyStatements place lenient statements = .ok ready) :
    Leads s ready := by
  obtain ⟨more, rest, rfl⟩ := h
  obtain ⟨first, hfirst, hready⟩ := exists_of_bind_ok hready
  obtain ⟨others, -, hall⟩ := exists_of_bind_ok hready
  cases hall
  obtain ⟨pieces, hpieces, hfirst⟩ := exists_of_bind_ok hfirst
  cases hfirst
  rw [List.map_cons, List.mapM_cons] at hpieces
  obtain ⟨piece, hpiece, hpieces⟩ := exists_of_bind_ok hpieces
  obtain ⟨behind, -, hpieces⟩ := exists_of_bind_ok hpieces
  cases hpiece
  cases hpieces
  exact ⟨behind, others, rfl⟩

theorem leads_compile {source : String} {p : Program} (h : IsLiteral start) (hsource : start <+: source.toList)
    (hp : compile source = .ok p) : ∃ s, Leads s p.statements ∧ start <+: s.toList := by
  obtain ⟨parsed, hparsed, hp⟩ := exists_of_bind_ok hp
  obtain ⟨ready, hready, hp⟩ := exists_of_bind_ok hp
  obtain ⟨_, -, hp⟩ := exists_of_bind_ok hp
  cases hp
  obtain ⟨s, hleads, hs⟩ := leads_parseTemplate h (prefix_expand h.brace hsource) hparsed
  obtain ⟨statements, hstatements, hready⟩ := exists_of_bind_ok hready
  obtain ⟨blocks, -, hready⟩ := exists_of_bind_ok hready
  cases hready
  exact ⟨s, leads_readyStatements hleads hstatements, hs⟩

/-! ### Running -/

variable {setting : Setting} {before after : Run}

theorem text_of_executeAll {s : String} {statements : List Statement} {output : Output} (h : Leads s statements)
    (hrun : outcome (executeAll statements) setting before = (.ok output, after)) :
    s.toList <+: output.text.toList := by
  obtain ⟨more, rest, rfl⟩ := h
  rw [executeAll] at hrun
  obtain ⟨first, _, hfirst, hrun⟩ := exists_of_outcome_bind_ok _ _ hrun
  obtain ⟨others, _, -, hrun⟩ := exists_of_outcome_bind_ok _ _ hrun
  cases hrun
  rw [execute, writePieces] at hfirst
  obtain ⟨behind, _, -, hfirst⟩ := exists_of_outcome_bind_ok _ _ hfirst
  cases hfirst
  simp [Output.append, Output.ofText, List.append_assoc]

theorem prefix_of_collected {s text : String} {statements : List Statement} (h : Leads s statements)
    (hrun : outcome (collected (executeAll statements)) setting before = (.ok text, after)) :
    s.toList <+: text.toList := by
  obtain ⟨output, _, houtput, hrun⟩ := exists_of_outcome_bind_ok _ _ hrun
  have hjoined : output.joined = .ok text := by
    rw [outcome_lift] at hrun
    exact congrArg Prod.fst hrun
  have htext : output.text = text := by
    unfold Output.joined at hjoined
    split at hjoined
    · cases hjoined
      rfl
    · cases hjoined
  rw [← htext]
  exact text_of_executeAll h houtput

/-- A step in a new scope has its own result. -/
theorem exists_of_outcome_within {α : Type} {role : ScopeRole} {parameters : List (String × Option Value)}
    {symbols : Symbols} {step : Eval α} {a : α}
    (h : outcome (within role parameters symbols step) setting before = (.ok a, after)) :
    ∃ inside outside, outcome step setting inside = (.ok a, outside) := by
  obtain ⟨_, _, -, h⟩ := exists_of_outcome_bind_ok _ _ h
  obtain ⟨_, _, -, h⟩ := exists_of_outcome_bind_ok _ _ h
  obtain ⟨_, _, -, h⟩ := exists_of_outcome_bind_ok _ _ h
  obtain ⟨result, _, hstep, h⟩ := exists_of_outcome_bind_ok _ _ h
  obtain ⟨_, _, -, h⟩ := exists_of_outcome_bind_ok _ _ h
  cases h
  exact ⟨_, _, hstep⟩

theorem prefix_of_run {s text : String} {p : Program} (h : Leads s p.statements) {data : String → Option Value}
    {memory left : Memory} (hrun : p.run data memory = (.ok text, left)) : s.toList <+: text.toList := by
  unfold Program.run at hrun
  rw [run_eq] at hrun
  obtain ⟨inside, outside, hstep⟩ := exists_of_outcome_within (Prod.ext (Prod.mk.inj hrun).1 rfl)
  exact prefix_of_collected h hstep

/-! ### Rendering -/

variable {source text : String} {data : Value} {memory left : Memory}

theorem prefix_of_runOn {s : String} {p : Program} (h : Leads s p.statements)
    (hrun : runOn p data memory = (.ok text, left)) : s.toList <+: text.toList := by
  unfold runOn at hrun
  split at hrun
  · cases hrun
  · exact prefix_of_run h hrun

theorem prefix_of_render (h : IsLiteral start) (hsource : start <+: source.toList)
    (hrender : render source data memory = (.ok text, left)) : start <+: text.toList := by
  unfold render at hrender
  split at hrender
  · cases hrender
    exact hsource
  · split at hrender
    · cases hrender
    · rename_i p hp
      obtain ⟨s, hleads, hs⟩ := leads_compile h hsource hp
      rcases hrun : runOn p data memory with ⟨_ | result, behind⟩
      · rw [hrun] at hrender
        cases hrender
      · rw [hrun] at hrender
        cases hrender
        exact hs.trans (prefix_of_runOn hleads hrun)

/-- The failure of a template names the template. -/
theorem exists_ofTemplate {failure : Failure} (hrender : render source data memory = (.error failure, left)) :
    ∃ f, failure = .ofTemplate source f := by
  unfold render at hrender
  split at hrender
  · cases hrender
  · split at hrender
    · cases hrender
      exact ⟨_, rfl⟩
    · rename_i p hp
      rcases hrun : runOn p data memory with ⟨f | _, behind⟩
      · rw [hrun] at hrender
        cases hrender
        exact ⟨f, rfl⟩
      · rw [hrun] at hrender
        cases hrender

/-- Whatever a template is rendered as, and whether or not it fails, its literal start stays in front. -/
theorem prefix_of_text (h : IsLiteral start) (hsource : start <+: source.toList)
    (htext : Mapping.text source data memory = (.ok text, left)) : start <+: text.toList := by
  unfold Mapping.text at htext
  rcases hrender : render source data memory with ⟨failure | result, behind⟩
  · rw [hrender] at htext
    obtain ⟨f, rfl⟩ := exists_ofTemplate hrender
    have hdiagnostic := (Prod.mk.inj htext).1
    unfold Failure.ofTemplate at hdiagnostic
    split at hdiagnostic
    · cases hdiagnostic
      refine hsource.trans ?_
      simp [String.append_assoc]
    · cases hdiagnostic
  · rw [hrender] at htext
    cases htext
    exact prefix_of_render h hsource hrender

end Courier.Template
