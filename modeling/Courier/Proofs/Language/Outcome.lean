import Courier.Language.Execution
import Courier.Proofs.Results

/-! What a step of a run comes to: its value or its fault, and the run behind it. The laws below say this for every way
in which steps are put together, so that a step is worked out by rewriting and nothing below it is ever opened. -/

namespace Courier.Language

namespace Eval

/-- The result of a step in a setting, and the run that it leaves. -/
def outcome {α : Type} (step : Eval α) (setting : Setting) (run : Run) : Except Fault α × Run :=
  (step setting).run.run run

variable {α β : Type} (setting : Setting) (run : Run)

@[simp] theorem outcome_pure (a : α) : outcome (pure a) setting run = (.ok a, run) := rfl

/-- The second of two steps starts where the first one ends, and a fault of the first one is the fault of both. -/
theorem outcome_bind (step : Eval α) (next : α → Eval β) :
    outcome (step >>= next) setting run =
      match outcome step setting run with
      | (.ok a, after) => outcome (next a) setting after
      | (.error f, after) => (.error f, after) := by
  have h : comesTo (step setting) run = outcome step setting run := rfl
  refine (comesTo_bind (step setting) (fun a => next a setting) run).trans ?_
  rw [h]
  rcases outcome step setting run with ⟨_ | _, _⟩ <;> rfl

theorem outcome_bind_of_ok {step : Eval α} {a : α} {after : Run} (next : α → Eval β)
    (h : outcome step setting run = (.ok a, after)) :
    outcome (step >>= next) setting run = outcome (next a) setting after := by
  rw [outcome_bind, h]

/-- A step that succeeds was put together of two that do. -/
theorem exists_of_outcome_bind_ok {step : Eval α} {next : α → Eval β} {b : β} {after : Run}
    (h : outcome (step >>= next) setting run = (.ok b, after)) :
    ∃ a between, outcome step setting run = (.ok a, between) ∧
      outcome (next a) setting between = (.ok b, after) := by
  exact exists_of_comesTo_bind_ok h

@[simp] theorem outcome_get : outcome get setting run = (.ok run, run) := rfl

@[simp] theorem outcome_modify (f : Run → Run) :
    outcome (modify f : Eval Unit) setting run = (.ok ⟨⟩, f run) := rfl

@[simp] theorem outcome_lift (r : Except Fault α) : outcome (lift r) setting run = (r, run) := by
  cases r <;> rfl

/-- A text that is written in a program is the text that it has there. -/
theorem exists_outcome_newText (s : String) :
    ∃ i, outcome (evaluate (.constant (.newText s))) setting run = (.ok (.text (.written i) s), run) := by
  obtain ⟨i, hi⟩ : ∃ i, (Value.newText s).inProgram setting.before.length = .text (.written i) s := ⟨_, rfl⟩
  refine ⟨i, ?_⟩
  rw [evaluate, ← hi]
  rfl

/-! ### Whole runs -/

/-- The setting of a run before bodies can be called in it. -/
def atRest (chained : Bool) (expressions : List Expression) (blocks : List (String × List Statement))
    (data : String → Option Value) (before : Changes) : Setting where
  manner := ⟨chained, false⟩
  draw _ := pure none
  data := data
  handed := []
  escaping := .off
  before := before
  body := ""
  applied := appliedIn expressions
  blocks := blocks
  perform _ _ _ := throw .tooDeep

/-- The setting at the start of a run. -/
def atStart (chained : Bool) (expressions : List Expression) (blocks : List (String × List Statement))
    (data : String → Option Value) (before : Changes) : Setting :=
  { atRest chained expressions blocks data before with
    perform := performTo (atRest chained expressions blocks data before) depthLimit }

/-- What a run leaves behind, given what was there before it. -/
def handedOn (after : Run) (memory : Memory) : Memory :=
  if after.changes.isEmpty then memory else ⟨after.changes ++ after.own ++ after.streams ++ memory.changes⟩

theorem run_eq {α : Type} (chained : Bool) (expressions : List Expression) (blocks : List (String × List Statement))
    (data : String → Option Value) (memory : Memory) (step : Eval α) :
    Eval.run chained expressions blocks data memory step =
      ((outcome step (atStart chained expressions blocks data memory.changes) .start).1,
        handedOn (outcome step (atStart chained expressions blocks data memory.changes) .start).2 memory) := rfl

/-! ### Runs without changes -/

/-- A run in which nothing was assigned or changed. -/
structure IsCalm (setting : Setting) (run : Run) : Prop where
  before : setting.before = []
  handed : setting.handed = []
  changes : run.changes = []
  own : run.own = []
  exported : run.exported = []

namespace IsCalm

variable {setting : Setting} {run : Run} (h : IsCalm setting run)

include h

theorem outcome_changes : outcome Eval.changes setting run = (.ok [], run) := by
  show (Except.ok (run.own ++ run.changes ++ setting.before), run) = _
  rw [h.own, h.changes, h.before]
  rfl

theorem outcome_settled (v : Value) : outcome (settled v) setting run = (.ok v, run) := by
  unfold settled
  rw [outcome_bind_of_ok _ _ _ h.outcome_changes]
  rfl

theorem outcome_present (v : Value) : outcome (present v) setting run = (.ok (v.present []), run) := by
  unfold present
  rw [outcome_bind_of_ok _ _ _ h.outcome_changes]
  rfl

/-- A name that no scope knows has its value in the data. -/
theorem outcome_resolve (name : String) : outcome (resolve name) setting run = (.ok (setting.data name), run) := by
  show (Except.ok (((entryOf? name setting.handed).orElse fun _ => entryOf? name run.exported).orElse fun _ =>
    setting.data name), run) = _
  rw [h.handed, h.exported]
  rfl

/-- A name has the value of its variable, or else that in the data. If it has none it is undefined. -/
theorem outcome_nameValue {name : String} {found : Option Value}
    (hname : (variableOf? name run.scopes).getD (setting.data name) = found) :
    outcome (evaluate (.name name)) setting run =
      (.ok (found.getD (Value.noName setting.manner.chained name)), run) := by
  have hfind : outcome (find name) setting run = (.ok found, run) := by
    unfold find
    rw [outcome_bind_of_ok _ _ _ (outcome_get _ _), ← hname]
    cases variableOf? name run.scopes with
    | none => exact h.outcome_resolve name
    | some w => rfl
  rw [evaluate, nameValue, outcome_bind_of_ok _ _ _ hfind]
  rfl

theorem outcome_name {name : String} {v : Value}
    (hname : (variableOf? name run.scopes).getD (setting.data name) = some v) :
    outcome (evaluate (.name name)) setting run = (.ok v, run) :=
  h.outcome_nameValue hname

end IsCalm

/-- The variable for the template itself is there only where its name is read. -/
theorem selfVariables_of_ne {mentions : List Mention} (h : ∀ m ∈ mentions, m.name ≠ "self") :
    selfVariables mentions = [] := by
  have hfind : mentions.find? (·.name == "self") = none := by
    rw [List.find?_eq_none]
    intro m hm
    simp [h m hm]
  rw [selfVariables, isReadFirst, hfind]
  rfl

end Eval

/-! ### Scopes -/

theorem Scope.find?_declare_self (name : String) (v : Option Value) (s : Scope) :
    (s.declare name v).find? name = some v := by
  have hknown : (s.declare name v).names.contains name = true := by
    unfold declare
    simp only
    split
    · assumption
    · simp
  rw [find?, if_pos hknown]
  simp [declare, entryOf?_putEntry_self]

namespace Eval

variable {α : Type} {setting : Setting} {step : Eval α} {a : α}

/-- A step in a scope of its own, which goes when the step has ended. A fault leaves it where it was. -/
theorem outcome_scoped {scope : Scope} {result : Except Fault α}
    (h : outcome step setting { Run.start with scopes := [scope] } = (result, { Run.start with scopes := [scope] })) :
    outcome (do
      modify fun run => { run with scopes := scope :: run.scopes }
      let result ← step
      modify fun run => { run with scopes := run.scopes.tail }
      return result) setting .start =
        (result, result.casesOn (fun _ => { Run.start with scopes := [scope] }) fun _ => .start) := by
  rw [outcome_bind_of_ok _ _ _ (outcome_modify _ _ _), outcome_bind]
  show (match outcome step setting { Run.start with scopes := [scope] } with
    | (.ok a, after) => _
    | (.error f, after) => _) = _
  rw [h]
  cases result <;> rfl

/-- A step at the top that reads no name. -/
theorem outcome_within_empty
    (h : outcome step setting { Run.start with scopes := [Scope.empty .root] } =
      (.ok a, { Run.start with scopes := [Scope.empty .root] })) :
    outcome (within .root [] .empty step) setting .start = (.ok a, .start) := by
  unfold within
  rw [outcome_bind_of_ok _ _ _ (outcome_get _ _)]
  exact outcome_scoped h

/-- A step at the top that reads one name, which has its value in the data. -/
theorem outcome_within_reading {name : String} {result : Except Fault α} (hhanded : setting.handed = [])
    (h : ∀ scope : Scope, scope.role = .root → scope.find? name = some (setting.data name) →
      outcome step setting { Run.start with scopes := [scope] } = (result, { Run.start with scopes := [scope] })) :
    ∃ after, outcome (within .root [] ⟨[(name, .resolved)], []⟩ step) setting .start = (result, after) ∧
      after.changes = [] := by
  have hresolve : outcome (resolve name) setting .start = (.ok (setting.data name), .start) := by
    show (Except.ok (((entryOf? name setting.handed).orElse fun _ => none).orElse fun _ => setting.data name),
      Run.start) = _
    rw [hhanded]
    rfl
  have hstarted : outcome (started [] [(name, .resolved)] (Scope.empty .root)) setting .start =
      (.ok ((Scope.empty .root).declare name (setting.data name)), .start) := by
    rw [started, startValue, outcome_bind_of_ok _ _ _ hresolve]
    rfl
  unfold within
  rw [outcome_bind_of_ok _ _ _ (outcome_get _ _)]
  refine ⟨_, (outcome_bind_of_ok _ _ _ hstarted).trans (outcome_scoped (h _ rfl ?_)), ?_⟩
  · exact Scope.find?_declare_self name _ _
  · cases result <;> rfl

end Eval

end Courier.Language
