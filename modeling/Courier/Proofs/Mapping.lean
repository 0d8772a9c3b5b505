import Mathlib
import Courier.Mapping

/-! The boundary between mappings and calls. Behind it a mapping fails with the fault that its text runs into; in front
of it most faults are diagnostics, and those of a few families end the call. -/

namespace Courier

open Courier.Language

namespace Template

/-- The text of a template, or the fault that it runs into. -/
def attempt (source : String) (data : Value) (memory : Memory) : Except Fault String × Memory :=
  if isPlain source then (.ok source, memory)
  else
    match compile source with
    | .error f => (.error f, memory)
    | .ok p => runOn p data memory

/-- A template fails with the fault that it runs into, and in its own name. -/
theorem render_eq (source : String) (data : Value) (memory : Memory) :
    render source data memory =
      ((attempt source data memory).1.mapError (.ofTemplate source), (attempt source data memory).2) := by
  unfold render attempt
  split
  · rfl
  · cases compile source with
    | error f => rfl
    | ok p => rfl

end Template

namespace Failure

/-- A template that was the value of a formula fails in the name of the formula. -/
theorem ofFormula_of_ofTemplate (source text : String) (f : Fault) :
    (match ofTemplate text f with
      | template _ message => formula source message
      | failure => failure) = ofFormula source f := by
  unfold ofTemplate ofFormula
  cases f.isAbsorbed <;> rfl

end Failure

namespace Formula

/-- The value of a formula, or the fault that it runs into. -/
def attempt (source : String) (data : Value) (memory : Memory) : Except Fault Value × Memory :=
  if (content source).isEmpty then (.error (.malformed "empty expression"), memory)
  else
    match valueOf (content source) data memory with
    | (.error f, after) => (.error f, after)
    | (.ok v, after) =>
      match v.text? with
      | some s =>
        if hasTag s then ((Template.attempt s data after).1.map .newText, (Template.attempt s data after).2)
        else (.ok v, after)
      | none => (.ok v, after)

/-- A formula fails with the fault that it runs into, and in its own name, also where its value is a template. -/
theorem evaluate_eq (source : String) (data : Value) (memory : Memory) :
    evaluate source data memory =
      ((attempt source data memory).1.mapError (.ofFormula source), (attempt source data memory).2) := by
  unfold evaluate attempt
  by_cases hempty : (content source).isEmpty = true
  · simp only [hempty, if_true]
    rfl
  · simp only [hempty, Bool.false_eq_true, if_false]
    rcases valueOf (content source) data memory with ⟨f | v, after⟩
    · rfl
    · cases htext : v.text? with
      | none =>
          simp only [htext]
          rfl
      | some s =>
          simp only [htext]
          by_cases htag : hasTag s = true
          · simp only [htag, if_true, Template.render_eq]
            rcases Template.attempt s data after with ⟨f | text, left⟩
            · simp only [Except.mapError, Except.map]
              rw [← Failure.ofFormula_of_ofTemplate source s f]
              cases Failure.ofTemplate s f <;> rfl
            · rfl
          · simp only [htag, Bool.false_eq_true, if_false]
            rfl

end Formula

namespace Language.FaultKind

/-- The families of faults that a mapping does not turn into a diagnostic. -/
def escaping : List FaultKind := [unboundName, recursion, memory, form, state, assertion]

end Language.FaultKind

namespace Language.Fault

theorem isAbsorbed_eq (f : Fault) : f.isAbsorbed = !(FaultKind.escaping.contains f.kind) := by
  unfold isAbsorbed
  cases f.kind <;> rfl

end Language.Fault

namespace Mapping

/-- The value of a mapping, or the fault that its text runs into. -/
def attempt (format : Format) (source : String) (data : Value) (memory : Memory) : Except Fault Value × Memory :=
  match format with
  | .formula => Formula.attempt source data memory
  | .template => ((Template.attempt source data memory).1.map .newText, (Template.attempt source data memory).2)

/-- What a mapping gives in the place of the fault that its text runs into: its diagnostic, unless the fault is of one of
the families that escape. -/
def absorbed (source : String) (f : Fault) : Except Fault Value :=
  if FaultKind.escaping.contains f.kind then .error f else .ok (.newText (source ++ ": " ++ f.message))

theorem orDiagnostic_ofFormula (source : String) (f : Fault) :
    orDiagnostic .newText (.error (.ofFormula source f)) = absorbed source f := by
  unfold absorbed Failure.ofFormula
  rw [Fault.isAbsorbed_eq]
  cases FaultKind.escaping.contains f.kind <;> rfl

theorem orDiagnostic_ofTemplate (source : String) (f : Fault) :
    (orDiagnostic id (.error (.ofTemplate source f))).map .newText = absorbed source f := by
  unfold absorbed Failure.ofTemplate
  rw [Fault.isAbsorbed_eq]
  cases FaultKind.escaping.contains f.kind <;> rfl

/-- What stands for a template that failed is the template and the wording of its failure. -/
theorem exists_of_text {source body : String} {data : Value} {memory : Memory} {failure : Failure}
    (hfailure : (Template.render source data memory).1 = .error failure)
    (hbody : (text source data memory).1 = .ok body) : ∃ message, body = source ++ ": " ++ message := by
  unfold text at hbody
  rw [Template.render_eq] at hfailure
  simp only [Template.render_eq, hfailure] at hbody
  cases hattempt : (Template.attempt source data memory).1 with
  | ok s =>
      rw [hattempt] at hfailure
      cases hfailure
  | error f =>
      rw [hattempt] at hfailure
      cases hfailure
      unfold Failure.ofTemplate at hbody
      split at hbody
      · cases hbody
        exact ⟨f.message, rfl⟩
      · cases hbody

/-- A mapping in either format has the value of its text. Where its text runs into a fault, its value is the text with
the wording of the fault, and a fault of the families that escape is the only one that ends the call. -/
theorem evaluate_eq_attempt (format : Format) (source : String) (data : Value) (memory : Memory) :
    evaluate format source data memory =
      (match (attempt format source data memory).1 with
        | .ok v => .ok v
        | .error f =>
          if FaultKind.escaping.contains f.kind then .error f else .ok (.newText (source ++ ": " ++ f.message)),
        (attempt format source data memory).2) := by
  cases format with
  | formula =>
      unfold evaluate value attempt
      rw [Formula.evaluate_eq]
      rcases Formula.attempt source data memory with ⟨f | v, after⟩
      · exact congrArg (·, after) (orDiagnostic_ofFormula source f)
      · rfl
  | template =>
      unfold evaluate text attempt
      rw [Template.render_eq]
      rcases Template.attempt source data memory with ⟨f | s, after⟩
      · exact congrArg (·, after) (orDiagnostic_ofTemplate source f)
      · rfl

/-- A number with digits of another script is a fault that escapes. -/
theorem evaluate_foreign_digits :
    evaluate .formula "1.\u0661" (.ofDocument "data" [] (.object [])) .empty =
      (.error (.foreignDigits "invalid decimal literal"), .empty) := by
  rfl

end Mapping

end Courier
