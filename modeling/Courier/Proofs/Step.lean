import Courier.Proofs.Language.Outcome
import Courier.Proofs.Results
import Courier.Step

/-! What a step of a call comes to: its result or the error that ends the call, and the memory behind it. -/

namespace Courier.Step

open Courier.Language

/-- The result of a step, and the memory that it leaves. -/
def outcome {α : Type} (step : Step α) (memory : Memory) : Except Error α × Memory := step.run.run memory

variable {α β : Type} (memory : Memory)

@[simp] theorem outcome_pure (a : α) : outcome (pure a) memory = (.ok a, memory) := rfl

/-- The second of two steps starts where the first one ends, and an error of the first one ends both. -/
theorem outcome_bind (step : Step α) (next : α → Step β) :
    outcome (step >>= next) memory =
      match outcome step memory with
      | (.ok a, after) => outcome (next a) after
      | (.error e, after) => (.error e, after) := by
  have h : comesTo step memory = outcome step memory := rfl
  refine (comesTo_bind step next memory).trans ?_
  rw [h]
  rcases outcome step memory with ⟨_ | _, _⟩ <;> rfl

theorem outcome_bind_of_ok {step : Step α} {a : α} {after : Memory} (next : α → Step β)
    (h : outcome step memory = (.ok a, after)) : outcome (step >>= next) memory = outcome (next a) after := by
  rw [outcome_bind, h]

variable {memory}

/-- A step that succeeds was put together of two that do. -/
theorem exists_of_outcome_bind_ok {step : Step α} {next : α → Step β} {b : β} {after : Memory}
    (h : outcome (step >>= next) memory = (.ok b, after)) :
    ∃ a between, outcome step memory = (.ok a, between) ∧ outcome (next a) between = (.ok b, after) := by
  exact exists_of_comesTo_bind_ok h

theorem lift_ok {ε : Type} (cause : ε → Error) (a : α) : lift cause (.ok a) = pure a := rfl

/-- A result that does not depend on the data changes nothing. -/
theorem outcome_lift {ε : Type} (cause : ε → Error) (r : Except ε α) (memory : Memory) :
    outcome (lift cause r) memory = (r.mapError cause, memory) := by
  cases r <;> rfl

theorem of_outcome_lift_ok {ε : Type} {cause : ε → Error} {r : Except ε α} {a : α} {after : Memory}
    (h : outcome (lift cause r) memory = (.ok a, after)) : r = .ok a ∧ memory = after := by
  rw [outcome_lift] at h
  cases r with
  | error e => cases h
  | ok a =>
      cases h
      exact ⟨rfl, rfl⟩

/-- The text of a template is what it is rendered as, or its diagnostic. -/
theorem outcome_text (source : String) (data : Value) (memory : Memory) :
    outcome (text source data) memory =
      ((Mapping.text source data memory).1.mapError .fault, (Mapping.text source data memory).2) := rfl

theorem text_congr {source : String} {data other : Value}
    (h : ∀ memory, Template.render source data memory = Template.render source other memory) :
    text source data = text source other := by
  unfold text Mapping.text
  simp only [h]

/-! ### Steps and changes -/

/-- A step that ends without changes started without any: no step takes back the changes before it. -/
def Keeps (step : Step α) : Prop := ∀ memory, (outcome step memory).2 = .empty → memory = .empty

theorem keeps_pure (a : α) : Keeps (pure a) := fun _ h => h

theorem Keeps.bind {step : Step α} {next : α → Step β} (h : Keeps step) (hnext : ∀ a, Keeps (next a)) :
    Keeps (step >>= next) := by
  intro memory hrun
  rw [outcome_bind] at hrun
  refine h memory ?_
  rcases hstep : outcome step memory with ⟨e | a, between⟩
  · rwa [hstep] at hrun
  · rw [hstep] at hrun
    exact hnext a between hrun

theorem Keeps.eq_empty {step : Step α} {memory : Memory} {r : Except Error α} (h : Keeps step)
    (hrun : outcome step memory = (r, .empty)) : memory = .empty :=
  h memory (congrArg Prod.snd hrun)

theorem keeps_lift {ε : Type} (cause : ε → Error) (r : Except ε α) : Keeps (lift cause r) := by
  intro memory h
  rwa [outcome_lift] at h

theorem Keeps.foldlM {f : β → α → Step β} (h : ∀ b a, Keeps (f b a)) (as : List α) (b : β) :
    Keeps (as.foldlM f b) := by
  induction as generalizing b with
  | nil => exact keeps_pure b
  | cons a as ih =>
      rw [List.foldlM_cons]
      exact (h b a).bind ih

theorem keeps_settled (v : Value) : Keeps (settled v) := fun _ h => h

/-- Runs add to the changes before them. -/
theorem memory_eq_of_run {chained : Bool} {expressions : List Expression} {blocks : List (String × List Statement)}
    {data : String → Option Value} {memory : Memory} {step : Eval α}
    (h : (Eval.run chained expressions blocks data memory step).2 = .empty) : memory = .empty := by
  rw [Eval.run_eq, Eval.handedOn] at h
  split at h
  · exact h
  · rename_i hchanges
    have hnil := congrArg Memory.changes h
    simp only [Memory.empty, List.append_assoc, List.append_eq_nil_iff] at hnil
    exact absurd (List.isEmpty_iff.2 hnil.1) hchanges

theorem memory_eq_of_render (source : String) (data : Value) (memory : Memory)
    (h : (Template.render source data memory).2 = .empty) : memory = .empty := by
  unfold Template.render at h
  split at h
  · exact h
  · split at h
    · exact h
    · rename_i p _
      change (Template.runOn p data memory).2 = .empty at h
      unfold Template.runOn at h
      split at h
      · exact h
      · unfold Program.run at h
        exact memory_eq_of_run h

theorem memory_eq_of_valueOf (content : String) (data : Value) (memory : Memory)
    (h : (Formula.valueOf content data memory).2 = .empty) : memory = .empty := by
  unfold Formula.valueOf at h
  split at h
  · exact h
  · split at h
    · exact h
    · unfold Expression.run at h
      exact memory_eq_of_run h

theorem memory_eq_of_evaluate (source : String) (data : Value) (memory : Memory)
    (h : (Formula.evaluate source data memory).2 = .empty) : memory = .empty := by
  unfold Formula.evaluate at h
  split at h
  · exact h
  · refine memory_eq_of_valueOf (Formula.content source) data memory ?_
    rcases hvalue : Formula.valueOf (Formula.content source) data memory with ⟨r, left⟩
    rw [hvalue] at h
    cases r with
    | error f => exact h
    | ok v =>
        -- a text with tags is a template that runs on what the formula left
        cases htext : v.text? with
        | none => simpa only [htext] using h
        | some s =>
            cases htag : Formula.hasTag s with
            | false => simpa only [htext, htag, Bool.false_eq_true, if_false] using h
            | true =>
                simp only [htext, htag, if_true] at h
                exact memory_eq_of_render s data left h

/-- A mapping in either format adds to the changes before it. -/
theorem memory_eq_of_mapping (format : Mapping.Format) (source : String) (data : Value) (memory : Memory)
    (h : (Mapping.evaluate format source data memory).2 = .empty) : memory = .empty := by
  cases format with
  | formula =>
      unfold Mapping.evaluate Mapping.value at h
      rcases hvalue : Formula.evaluate source data memory with ⟨r, left⟩
      rw [hvalue] at h
      exact memory_eq_of_evaluate source data memory (by rw [hvalue]; exact h)
  | template =>
      unfold Mapping.evaluate Mapping.text at h
      rcases htext : Template.render source data memory with ⟨r, left⟩
      rw [htext] at h
      exact memory_eq_of_render source data memory (by rw [htext]; exact h)

theorem keeps_text (source : String) (data : Value) : Keeps (text source data) := by
  intro memory h
  rw [outcome_text, Mapping.text] at h
  exact memory_eq_of_render source data memory h

theorem keeps_value (format : Mapping.Format) (source : String) (data : Value) (root : String) (path : List Nat) :
    Keeps (value format source data root path) := by
  refine Keeps.bind (fun memory h => ?_) fun v => (keeps_settled v).bind fun w => keeps_pure _
  exact memory_eq_of_mapping format source data memory h

end Courier.Step
