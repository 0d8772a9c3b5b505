import Courier.Proofs.Language.Documents
import Courier.Proofs.Language.Outcome
import Courier.Proofs.Template.Compiled

/-! Running the program of a fragment. A look-up follows its path from the data that the run was started on and leaves
the run as it is, so that the output is put together of the texts and of what stands at the ends of the paths. -/

namespace Courier.Language

namespace Eval

open Courier.Template

/-- A run at the top of a template in which nothing was assigned or changed, with the look-up of paths among its
variables. -/
structure IsFresh (setting : Setting) (run : Run) : Prop where
  before : setting.before = []
  handed : setting.handed = []
  escaping : setting.escaping = .off
  changes : run.changes = []
  own : run.own = []
  exported : run.exported = []
  role : run.role? = some .root
  lookup : (variableOf? lookupName run.scopes).getD (setting.data lookupName) = some (.builtin .pathLookup)

/-- What stands at the end of a path into data. -/
def endOf (data : String → Option Value) (path : String) : Except Fault Value :=
  match Path.segments path with
  | [] => .ok .none
  | first :: rest =>
    match data first with
    | none => .ok .none
    | some v => do return (← Path.walk rest v).getD .none

variable {setting : Setting} {run : Run} (h : IsFresh setting run)

include h

theorem IsFresh.isCalm : IsCalm setting run := ⟨h.before, h.handed, h.changes, h.own, h.exported⟩

theorem outcome_pathRoot (name : String) : outcome (pathRoot name) setting run = (.ok (setting.data name), run) := by
  unfold pathRoot
  rw [outcome_bind_of_ok _ _ _ (outcome_get _ _)]
  simp only [h.role]
  exact h.isCalm.outcome_resolve name

theorem outcome_followPath (path : String) :
    outcome (followPath path) setting run = (endOf setting.data path, run) := by
  unfold followPath endOf
  cases Path.segments path with
  | nil => rfl
  | cons first rest =>
      simp only
      rw [outcome_bind_of_ok _ _ _ (outcome_pathRoot h first)]
      cases setting.data first with
      | none => rfl
      | some v =>
          simp only
          rw [outcome_bind_of_ok _ _ _ (h.isCalm.outcome_settled v), outcome_bind, outcome_lift]
          cases Path.walk rest v <;> rfl

omit h in
/-- A look-up calls what stands under the name of the look-up on the name that it has in quotes. -/
theorem IsCalm.exists_outcome_lookupCall (hcalm : IsCalm setting run) {callee : Value}
    (hcallee : (variableOf? lookupName run.scopes).getD (setting.data lookupName) = some callee) (name : List Char) :
    ∃ i, outcome (evaluate (lookupCall name)) setting run =
      outcome (call callee ⟨[.text (.written i) (String.ofList name)], []⟩) setting run := by
  obtain ⟨i, hargument⟩ := exists_outcome_newText setting run (String.ofList name)
  have harguments : outcome (evaluateArguments callName
      (keepsNames [.positional (.constant (.newText (String.ofList name)))])
      [.positional (.constant (.newText (String.ofList name)))] .empty) setting run =
      (.ok ⟨[.text (.written i) (String.ofList name)], []⟩, run) := by
    rw [evaluateArguments, outcome_bind_of_ok _ _ _ hargument, evaluateArguments]
    rfl
  have hpositional : outcome ([Value.text (.written i) (String.ofList name)].mapM bound) setting run =
      (.ok [.text (.written i) (String.ofList name)], run) := rfl
  refine ⟨i, ?_⟩
  unfold lookupCall
  rw [evaluate, outcome_bind_of_ok _ _ _ (hcalm.outcome_name hcallee), outcome_bind_of_ok _ _ _ harguments,
    outcome_bind_of_ok _ _ _ hpositional]
  rfl

/-- A look-up follows its path and leaves the run as it is. -/
theorem outcome_lookupCall (name : List Char) :
    outcome (evaluate (lookupCall name)) setting run = (endOf setting.data (String.ofList name), run) := by
  obtain ⟨i, hcall⟩ := h.isCalm.exists_outcome_lookupCall h.lookup name
  rw [hcall]
  unfold call
  rw [outcome_bind_of_ok _ _ _ (h.isCalm.outcome_present _)]
  exact outcome_followPath h (String.ofList name)

/-- Texts are put out as they are. -/
theorem IsFresh.outcome_escapes : outcome escapes setting run = (.ok false, run) := by
  show (Except.ok (if setting.escaping.isOpen then setting.manner.escaping else setting.escaping.isOn), run) = _
  rw [h.escaping]
  rfl

/-- The text of a value that is no loop and not marked as fit for HTML. -/
theorem outcome_written_ofDocument (root : String) (path : List Nat) (d : Document) :
    outcome (written (.ofDocument root path d)) setting run = ((Value.ofDocument root path d).finalized, run) := by
  have hloop : outcome (shownLoop (.ofDocument root path d)) setting run = (.ok (.ofDocument root path d), run) := by
    cases d <;> rfl
  have hshown : outcome (shownForm (.ofDocument root path d)) setting run = (.ok (.ofDocument root path d), run) := by
    unfold shownForm
    rw [outcome_bind_of_ok _ _ _ hloop]
    exact h.isCalm.outcome_settled _
  have htext : outputText false (.ofDocument root path d) = (Value.ofDocument root path d).finalized := by
    cases d <;> exact bind_pure _
  unfold written
  rw [outcome_bind_of_ok _ _ _ hshown, outcome_bind_of_ok _ _ _ h.outcome_escapes, htext]
  exact outcome_lift _ _ _

omit h in
/-- Pieces that put a text out and leave the run as it is. -/
def Writes (setting : Setting) (run : Run) (ps : List Piece) (s : String) : Prop :=
  ∀ afterText, ∃ o : Output, outcome (writePieces afterText ps) setting run = (.ok o, run) ∧ o.text = s ∧ o.stray = none

omit h in
theorem writes_nil : Writes setting run [] "" := fun _ => ⟨.none, by rw [writePieces]; rfl, rfl, rfl⟩

omit h in
theorem Writes.text {ps : List Piece} {s : String} (hps : Writes setting run ps s) (t : String) :
    Writes setting run (.text t :: ps) (t ++ s) := by
  intro afterText
  obtain ⟨o, ho, hs, hstray⟩ := hps true
  rw [writePieces, outcome_bind_of_ok _ _ _ ho]
  refine ⟨_, rfl, ?_, ?_⟩
  · cases afterText <;> simp [Output.append, Output.ofText, hs]
  · cases afterText <;> simp [Output.append, Output.ofText, hstray]

omit h in
theorem Writes.value {ps : List Piece} {s t : String} {e : Expression} {v : Value}
    (hps : Writes setting run ps s) (he : outcome (evaluate e) setting run = (.ok v, run))
    (hv : outcome (written v) setting run = (.ok t, run)) : Writes setting run (.value e :: ps) (t ++ s) := by
  intro afterText
  obtain ⟨o, ho, hs, hstray⟩ := hps false
  rw [writePieces, outcome_bind_of_ok _ _ _ he, outcome_bind_of_ok _ _ _ hv, outcome_bind_of_ok _ _ _ ho]
  exact ⟨_, rfl, by simp [Output.append, Output.ofText, hs], by simp [Output.append, Output.ofText, hstray]⟩

end Eval

end Courier.Language

namespace Courier.Template

open Courier.Language Courier.Language.Eval Courier.Language.Grammar

/-- The text that is put out in a hole, given the texts of the look-ups. -/
def Hole.text (textOf : List Char → String) : Hole → String
  | quoted cs => String.ofList cs
  | lookup name => textOf name

namespace Fragment

/-- The text of a fragment, given the texts of the look-ups. -/
def text (textOf : List Char → String) (f : Fragment) : String :=
  String.join (f.holes.map fun (content, o) => String.ofList content ++ o.text textOf) ++ String.ofList f.last

/-- What the name of a look-up stands for in data has a text. -/
def IsTold (data : String → Option Value) (textOf : List Char → String) (f : Fragment) : Prop :=
  ∀ p ∈ f.holes, ∀ name, p.2 = .lookup name → ∃ root path d, d.IsJson ∧
    endOf data (String.ofList name) = .ok (.ofDocument root path d) ∧ textOf name = d.plainText

end Fragment

/-! ### The pieces -/

theorem writes_textPiece {setting : Setting} {run : Run} {ps : List Piece} {s : String} (h : Writes setting run ps s)
    (cs : List Char) : Writes setting run (textPiece cs ++ ps) (String.ofList cs ++ s) := by
  unfold textPiece
  split
  · obtain rfl := List.isEmpty_iff.1 ‹_›
    simpa using h
  · exact h.text _

theorem Fragment.writes_readyPieces {setting : Setting} {run : Run} (hfresh : IsFresh setting run)
    {textOf : List Char → String} {f : Fragment} (h : f.IsTold setting.data textOf) :
    Writes setting run f.readyPieces (f.text textOf) := by
  obtain ⟨holes, last⟩ := f
  induction holes with
  | nil =>
      have hnil : Writes setting run [] "" := writes_nil
      have hlast := writes_textPiece hnil last
      simpa [readyPieces, text] using hlast
  | cons p holes ih =>
      obtain ⟨content, o⟩ := p
      have hrest := ih fun q hq => h q (List.mem_cons_of_mem _ hq)
      have houtput : Writes setting run (o.readyPiece :: readyPieces ⟨holes, last⟩)
          (o.text textOf ++ text textOf ⟨holes, last⟩) := by
        cases o with
        | quoted cs => exact hrest.text _
        | lookup name =>
            obtain ⟨root, path, d, hd, hend, htext⟩ := h _ List.mem_cons_self name rfl
            have hwritten := outcome_written_ofDocument hfresh root path d
            rw [Value.finalized_ofDocument hd, ← htext] at hwritten
            exact hrest.value ((outcome_lookupCall hfresh name).trans (by rw [hend])) hwritten
      have hall := writes_textPiece houtput content
      simpa [readyPieces, text, String.append_assoc] using hall

/-! ### The names of the program -/

/-- The names that pieces read. -/
def namesOf (ps : List Piece) : List String :=
  ps.flatMap fun
    | .text _ => []
    | .value e => e.names

theorem eq_of_mem_namesOf {ps : List Piece} (h : ∀ p ∈ ps, IsReady p) : ∀ n ∈ namesOf ps, n = lookupName := by
  intro n hn
  obtain ⟨p, hp, hn⟩ := List.mem_flatMap.1 hn
  cases h p hp with
  | text s => cases hn
  | lookup name => simpa [lookupCall, Expression.names, namesOfArguments] using hn

/-- The symbols of a program that reads no name but that of the look-up. -/
def IsLookupOnly (symbols : Symbols) : Prop := symbols = .empty ∨ symbols = ⟨[(lookupName, .resolved)], []⟩

theorem isLookupOnly_readAll {names : List String} (h : ∀ n ∈ names, n = lookupName) {symbols : Symbols}
    (hsymbols : IsLookupOnly symbols) : IsLookupOnly (symbols.readAll (fun _ => false) names) := by
  induction names generalizing symbols with
  | nil => exact hsymbols
  | cons n names ih =>
      obtain rfl := h n List.mem_cons_self
      have hread : IsLookupOnly (symbols.read (fun _ => false) lookupName) := by
        rcases hsymbols with rfl | rfl
        · exact Or.inr rfl
        · exact Or.inr rfl
      exact ih (fun m hm => h m (List.mem_cons_of_mem _ hm)) hread

theorem Fragment.isLookupOnly (f : Fragment) :
    IsLookupOnly (Symbols.afterAll (fun _ => false) .empty f.program.statements) := by
  unfold program flush
  simp only
  split
  · exact Or.inl rfl
  · exact isLookupOnly_readAll (eq_of_mem_namesOf f.isReady_of_mem) (Or.inl rfl)

theorem Fragment.name_of_mem_mentions (f : Fragment) :
    ∀ m ∈ mentionsOfAll f.program.statements, m.name = lookupName := by
  unfold program flush
  simp only
  split
  · exact fun m hm => absurd hm List.not_mem_nil
  · intro m hm
    simp only [mentionsOfAll, Statement.mentions, Mention.reads, List.append_nil, List.mem_map] at hm
    obtain ⟨n, hn, rfl⟩ := hm
    exact eq_of_mem_namesOf f.isReady_of_mem n hn

theorem Fragment.selfVariables (f : Fragment) : selfVariables (mentionsOfAll f.program.statements) = [] := by
  apply selfVariables_of_ne
  intro m hm
  rw [f.name_of_mem_mentions m hm]
  decide

/-! ### The run -/

/-- A step at the top of a template starts fresh. -/
theorem outcome_within_root {α : Type} {setting : Setting} {symbols : Symbols} (hsymbols : IsLookupOnly symbols)
    (hbefore : setting.before = []) (hhanded : setting.handed = []) (hescaping : setting.escaping = .off)
    (hdata : setting.data lookupName = some (.builtin .pathLookup)) {step : Eval α} {a : α}
    (hstep : ∀ run, IsFresh setting run → outcome step setting run = (.ok a, run)) :
    ∃ after, outcome (within .root [] symbols step) setting .start = (.ok a, after) ∧ after.changes = [] := by
  have hrun (scope : Scope) (hrole : scope.role = .root)
      (hscope : (variableOf? lookupName [scope]).getD (setting.data lookupName) = some (.builtin .pathLookup)) :
      IsFresh setting { Run.start with scopes := [scope] } :=
    ⟨hbefore, hhanded, hescaping, rfl, rfl, rfl, congrArg some hrole, hscope⟩
  rcases hsymbols with rfl | rfl
  · exact ⟨.start, outcome_within_empty (hstep _ (hrun _ rfl hdata)), rfl⟩
  · refine outcome_within_reading hhanded fun scope hrole hscope => hstep _ (hrun scope hrole ?_)
    rw [variableOf?, List.findSome?_cons, hscope]
    exact hdata

theorem Fragment.outcome_collected {setting : Setting} {run : Run} (hfresh : IsFresh setting run)
    {textOf : List Char → String} {f : Fragment} (h : f.IsTold setting.data textOf) :
    outcome (collected (executeAll f.program.statements)) setting run = (.ok (f.text textOf), run) := by
  have hwrites := Fragment.writes_readyPieces hfresh h
  have hall : ∃ o : Output, outcome (executeAll f.program.statements) setting run = (.ok o, run) ∧
      o.text = f.text textOf ∧ o.stray = none := by
    obtain ⟨o, ho, htext, hstray⟩ := hwrites false
    unfold program flush
    simp only
    split
    · rename_i hempty
      rw [List.isEmpty_iff.1 hempty, writePieces] at ho
      cases ho
      exact ⟨.none, by rw [executeAll]; rfl, htext, rfl⟩
    · refine ⟨o.append .none, ?_, by rw [Output.append_none, htext], by rw [Output.append_none, hstray]⟩
      rw [executeAll, execute, outcome_bind_of_ok _ _ _ ho, executeAll]
      rfl
  obtain ⟨o, ho, htext, hstray⟩ := hall
  unfold collected
  rw [outcome_bind_of_ok _ _ _ ho, Output.joined, hstray, htext]
  rfl

/-- A fragment is run to its text, and nothing is changed. -/
theorem Fragment.run_program (f : Fragment) {data : String → Option Value} {textOf : List Char → String}
    (hdata : data lookupName = some (.builtin .pathLookup)) (h : f.IsTold data textOf) :
    f.program.run data .empty = (.ok (f.text textOf), .empty) := by
  have hstep (run : Run) (hfresh : IsFresh (atStart true (expressionsOfAll f.program.statements) f.program.blocks data
      Memory.empty.changes) run) := Fragment.outcome_collected hfresh h
  obtain ⟨after, hafter, hchanges⟩ := outcome_within_root f.isLookupOnly rfl rfl rfl hdata hstep
  unfold Program.run
  rw [f.selfVariables, run_eq, hafter]
  simp only [handedOn, hchanges]
  rfl

end Courier.Template
