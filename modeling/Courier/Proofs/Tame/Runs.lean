import Courier.Mapping
import Courier.Proofs.Formula.Interpolation
import Courier.Proofs.Tame.Data
import Courier.Proofs.Tame.Statements
import Courier.Proofs.Template.Compiled

/-! Whole runs of programs that are tame by their form. On data without changes they leave none, whether they come to a
result or to a fault, and so do templates, formulas and mappings of such programs. Texts of the documented forms are such
programs: templates that consist of texts and tags of a single name, and formulas that are paths to a part of the data. -/

namespace Courier

open Courier.Language

namespace Language

namespace Eval

variable {α : Type} {P : α → Prop} {step : Eval α} {data : String → Option Value}

theorem Run.isTame_start : Run.start.IsTame :=
  ⟨rfl, rfl, List.forall_mem_nil _, List.forall_mem_nil _, List.forall_mem_nil _, List.forall_mem_nil _,
    List.forall_mem_nil _⟩

theorem isTame_atStart (hdata : ∀ name, ∀ v ∈ data name, Suits (Scope.slot name) v) (chained : Bool)
    (expressions : List Expression) (blocks : List (String × List Statement)) :
    (atStart chained expressions blocks data []).IsTame :=
  ⟨rfl, hdata, List.forall_mem_nil _, fun _ _ hrun => ⟨hrun, gives_ok forall_mem_none⟩⟩

/-- A tame step on data without changes leaves none. -/
theorem TameStep.run (h : TameStep P step) (hdata : ∀ name, ∀ v ∈ data name, Suits (Scope.slot name) v)
    (chained : Bool) (expressions : List Expression) (blocks : List (String × List Statement)) :
    (Eval.run chained expressions blocks data .empty step).2 = .empty ∧
      Gives P (Eval.run chained expressions blocks data .empty step).1 := by
  obtain ⟨hafter, hresult⟩ := h _ .start (isTame_atStart hdata chained expressions blocks) Run.isTame_start
  rw [run_eq]
  refine ⟨?_, hresult⟩
  have hchanges := hafter.changes
  unfold handedOn
  rw [if_pos]
  exact List.isEmpty_iff.2 hchanges

theorem allGivenSuit_selfVariables (mentions : List Mention) : AllGivenSuit (selfVariables mentions) := by
  unfold selfVariables
  split
  · refine List.forall_mem_singleton.2 ?_
    rintro _ ⟨⟩
    exact suits_of_isFree (by decide +kernel) (by simp)
  · exact List.forall_mem_nil _

end Eval

variable {data : String → Option Value}

/-- A quiet program changes nothing. -/
theorem Program.run_of_isQuiet {p : Program} (h : p.isQuiet)
    (hdata : ∀ name, ∀ v ∈ data name, Suits (Scope.slot name) v) : (p.run data .empty).2 = .empty := by
  simp only [isQuiet, Bool.and_eq_true] at h
  have hall := Eval.tameStep_collected (Eval.tameStep_executeAll p.statements h.1 h.2)
  have hstep := Eval.tameStep_within .root (Eval.allGivenSuit_selfVariables (mentionsOfAll p.statements))
    (Symbols.afterAll (fun _ => false) .empty p.statements) hall
  exact (hstep.run hdata _ _ _).1

/-- A quiet expression changes nothing, and no stream in its value is older than the run. -/
theorem Expression.run_of_isQuiet {e : Expression} (h : e.isQuiet)
    (hdata : ∀ name, ∀ v ∈ data name, Suits (Scope.slot name) v) :
    (e.run data .empty).2 = .empty ∧ Gives Value.IsTame (e.run data .empty).1 := by
  have hvalue : Eval.TameStep Value.IsTame (do
      let v ← Eval.settled (← Eval.evaluate e)
      return if v.isUndefined then .none else v) := by
    refine (Eval.tameStep_evaluate e h).bind fun v hv => (Eval.tameStep_settled v).bind ?_
    rintro _ rfl
    refine Eval.tameStep_pure ?_
    split
    · simp
    · exact hv
  exact (Eval.tameStep_within .root (Eval.allGivenSuit_selfVariables _) _ hvalue).run hdata _ _ _

end Language

/-! ### Templates -/

namespace Template

/-- Whether a template is text alone, or a program that changes nothing. One that cannot be read is no program. -/
def isQuiet (source : String) : Bool := isPlain source || (compile source).toOption.all Program.isQuiet

variable {source : String} {data : Value}

theorem runOn_of_isQuiet {p : Program} (h : p.isQuiet) (hdata : data.IsData) : (runOn p data .empty).2 = .empty := by
  have hcontext := Context.gives_ofValue hdata
  unfold runOn
  rw [Memory.settle, Memory.empty, Value.settle_nil]
  split
  · rfl
  · exact p.run_of_isQuiet h (Context.suits_findInTemplate (hcontext _ ‹_›))

/-- A quiet template changes nothing, whether it is rendered or fails. -/
theorem render_of_isQuiet (h : isQuiet source) (hdata : data.IsData) : (render source data .empty).2 = .empty := by
  unfold render
  split
  · rfl
  · rename_i hplain
    simp only [isQuiet, hplain, Bool.false_or] at h
    split
    · rfl
    · rename_i p hcompile
      simp only [hcompile, Except.toOption, Option.all] at h
      exact runOn_of_isQuiet h hdata

end Template

/-! ### Formulas -/

namespace Formula

/-- Whether an expression that is ready to run changes nothing, nor does what its value may be used for: that value is
no stream and cannot be called, and it is no text with tags that do change something. -/
def isQuiet (source : String) (data : Value) : Bool :=
  (compile (content source)).toOption.all Expression.isQuiet &&
    (valueOf (content source) data .empty).1.toOption.all fun v =>
      v.isInert && v.text?.all fun s => !hasTag s || Template.isQuiet s

variable {source : String} {data : Value}

theorem valueOf_of_isQuiet {content : String} (h : (compile content).toOption.all Expression.isQuiet)
    (hdata : data.IsData) :
    (valueOf content data .empty).2 = .empty ∧ Gives Value.IsTame (valueOf content data .empty).1 := by
  have hcontext := Context.gives_ofValue hdata
  unfold valueOf
  rw [Memory.settle, Memory.empty, Value.settle_nil]
  split
  · exact ⟨rfl, gives_error _⟩
  · rename_i e hcompile
    simp only [hcompile, Except.toOption, Option.all] at h
    split
    · exact ⟨rfl, gives_error _⟩
    · exact e.run_of_isQuiet h (Context.suits_find (hcontext _ ‹_›))

/-- A quiet formula changes nothing, and its value is no stream and cannot be called. -/
theorem evaluate_of_isQuiet (h : isQuiet source data) (hdata : data.IsData) :
    (evaluate source data .empty).2 = .empty ∧
      Gives (fun v => v.IsTame ∧ v.isInert) (evaluate source data .empty).1 := by
  simp only [isQuiet, Bool.and_eq_true] at h
  obtain ⟨hmemory, htame⟩ := valueOf_of_isQuiet h.1 hdata
  unfold evaluate
  split
  · exact ⟨rfl, gives_error _⟩
  · split
    · rename_i f memory hvalue
      rw [hvalue] at hmemory
      exact ⟨hmemory, gives_error _⟩
    · rename_i v memory hvalue
      rw [hvalue] at hmemory htame
      simp only [hvalue, Except.toOption, Option.all, Bool.and_eq_true] at h
      obtain rfl : memory = .empty := hmemory
      have hv : v.IsTame ∧ v.isInert := ⟨htame v rfl, h.2.1⟩
      split
      · rename_i s htext
        split
        · rename_i htag
          simp only [htext, htag, Bool.not_true, Bool.false_or] at h
          have hrender := Template.render_of_isQuiet h.2.2 hdata
          rcases hrendered : Template.render s data .empty with ⟨result, memory⟩
          rw [hrendered] at hrender
          refine ⟨hrender, ?_⟩
          dsimp only
          split
          · exact gives_ok ⟨by simp, rfl⟩
          · exact gives_error _
          · exact gives_error _
        · exact ⟨rfl, gives_ok hv⟩
      · exact ⟨rfl, gives_ok hv⟩

end Formula

/-! ### Mappings -/

namespace Mapping

/-- Whether working out a value that is written in a format changes nothing. -/
def isQuiet (format : Format) (source : String) (data : Value) : Bool :=
  match format with
  | .formula => Formula.isQuiet source data
  | .template => Template.isQuiet source

variable {source : String} {data : Value}

theorem text_of_isQuiet (h : Template.isQuiet source) (hdata : data.IsData) : (text source data .empty).2 = .empty :=
  Template.render_of_isQuiet h hdata

theorem gives_orDiagnostic {α : Type} {P : α → Prop} {r : Except Failure α} (h : Gives P r) {ofText : String → α}
    (htext : ∀ s, P (ofText s)) : Gives P (orDiagnostic ofText r) := by
  unfold orDiagnostic
  split
  · exact gives_ok (h _ rfl)
  · exact gives_error _
  · exact gives_ok (htext _)
  · exact gives_ok (htext _)

/-- A quiet mapping changes nothing, and its value is no stream and cannot be called. -/
theorem evaluate_of_isQuiet {format : Format} (h : isQuiet format source data) (hdata : data.IsData) :
    (evaluate format source data .empty).2 = .empty ∧
      Gives (fun v => v.IsTame ∧ v.isInert) (evaluate format source data .empty).1 := by
  cases format with
  | template =>
      have h := text_of_isQuiet h hdata
      unfold evaluate
      rcases htext : text source data .empty with ⟨result, memory⟩
      rw [htext] at h
      exact ⟨h, gives_map fun s => ⟨by simp, rfl⟩⟩
  | formula =>
      have h := Formula.evaluate_of_isQuiet h hdata
      unfold evaluate value
      rcases hvalue : Formula.evaluate source data .empty with ⟨result, memory⟩
      rw [hvalue] at h
      exact ⟨h.1, gives_orDiagnostic h.2 fun s => ⟨by simp, rfl⟩⟩

end Mapping

/-! ### Templates of tags -/

open Courier.Language.Grammar Courier.Text

namespace Template

/-- The look-up of a name calls nothing else. -/
theorem isQuiet_lookupCall (name : List Char) : (lookupCall name).isQuiet := by
  have hcallable : lookupName ∈ callables := List.mem_cons_self
  simp [lookupCall, Expression.isQuiet, Expression.withParts, partsOfArguments, Expression.isQuietStep, hcallable,
    Value.isWritable, Value.newText]

theorem IsReady.isQuiet {e : Expression} (h : IsReady (.value e)) : e.isQuiet := by
  cases h with
  | lookup name => exact isQuiet_lookupCall name

theorem Fragment.isQuiet_program (f : Fragment) : f.program.isQuiet := by
  unfold Program.isQuiet program flush
  split
  · rfl
  · refine Bool.and_eq_true_iff.2 ⟨rfl, List.all_eq_true.2 fun e he => ?_⟩
    simp only [expressionsOfAll, Statement.expressions, List.append_nil, List.mem_filterMap] at he
    obtain ⟨p, hp, hvalue⟩ := he
    have hready := f.isReady_of_mem p hp
    cases p with
    | text s => cases hvalue
    | value e' =>
        cases hvalue
        exact hready.isQuiet

/-- A template of texts and tags of a name changes nothing. -/
theorem isQuiet_of_tags {source : String} (hlines : '\r' ∉ source.toList)
    (hplain : ∀ content ∈ bareTexts (cut source.toList), Token.IsPlain content)
    (hcodes : ∀ name ∈ tagNames (cut source.toList), ∀ c ∈ name, codePoint c ≤ 0xFFFF) : isQuiet source := by
  have halternates := alternates_cut source.toList
  have hwritten := Fragment.written_ofSegments halternates
  have hreturns : ∀ content, .text content ∈ cut source.toList → '\r' ∉ content := fun content hcontent hr =>
    hlines ((mem_of_mem_cutFrom hcontent _ hr).resolve_left List.not_mem_nil)
  have hbelow : ∀ name ∈ tagNames (cut source.toList), ∀ c ∈ name, codePoint c < 0x10000 :=
    fun name hname c hc => Nat.lt_succ_of_le (hcodes name hname c hc)
  have hcompile : compile source = .ok (Fragment.ofSegments (cut source.toList)).program :=
    compile_eq (Fragment.readable_ofSegments halternates hplain hbelow) (by rw [hwritten]; rfl)
      (by rw [hwritten]; exact return_not_mem_writeOut halternates hreturns hbelow)
  rw [isQuiet, hcompile]
  simp [Except.toOption, Fragment.isQuiet_program]

end Template

/-! ### Formulas that are paths -/

namespace Formula

theorem IsAccess.isQuiet {e : Expression} (h : IsAccess e) : e.isQuiet := by
  induction h with
  | name n => rfl
  | member h key ih => simpa [Expression.isQuiet, Expression.withParts, Expression.isQuietStep] using ih

/-- A formula that is a path to a part of the data changes nothing, nor does a template at the end of the path if that
one changes nothing. -/
theorem KeyPath.isQuiet_text (p : KeyPath) (root : String) {entries : List (String × Document)}
    (hkeys : (entries.map (·.1)).Nodup) {part : Document}
    (hpart : (Document.object entries).under? (p.first :: p.rest) = some part)
    (htext : ∀ s, part = .text s → hasTag s → Template.isQuiet s) :
    isQuiet p.text (.ofDocument root [] (.object entries)) := by
  obtain ⟨inner, hvalue⟩ := p.exists_valueOf_text root hkeys hpart
  have hinert := Value.isInert_ofDocument root inner part
  rw [isQuiet, p.content_text, p.compile_text, hvalue]
  simp only [Except.toOption, Option.all_some, p.isAccess_expression.isQuiet, hinert, Bool.true_and]
  cases part with
  | text s =>
      cases htag : hasTag s with
      | false => simp [Value.ofDocument, Value.text?, htag]
      | true => simp [Value.ofDocument, Value.text?, htag, htext s rfl htag]
  | _ => rfl

end Formula

end Courier
