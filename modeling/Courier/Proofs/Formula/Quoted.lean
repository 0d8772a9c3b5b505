import Courier.Proofs.Formula.Reading
import Courier.Proofs.Language.Documents
import Courier.Proofs.Language.Outcome
import Courier.Proofs.Mapping

/-! Texts in double quotes as formulas. Whatever stands between the quotes, marks of tags and line ends included, is one
token and a constant, so that the text is the value of the formula; a text that opens a tag is then rendered as the
template that it is. -/

namespace Courier

namespace Language

/-! ### Constants -/

theorem Value.settle_text (changes : Changes) (i : Identity) (s : String) :
    (text i s).settle changes = text i s := by
  cases changes with
  | nil => rfl
  | cons change changes => rfl

/-- A text that is constant is known and can be written down. -/
theorem Constant.ready_newText (s : String) :
    Constant.ready (.outermost false) false (.constant (.newText s)) = .ok (.constant (.newText s)) := by
  rfl

/-- A constant text reads no data and changes nothing. -/
theorem Expression.exists_run_newText (s : String) (data : String → Option Value) (memory : Memory) :
    ∃ i, (Expression.constant (.newText s)).run data memory = (.ok (.text i s), memory) := by
  obtain ⟨i, hconstant⟩ := Eval.exists_outcome_newText
    (Eval.atStart false [.constant (.newText s)] [] data memory.changes)
    { Run.start with scopes := [Scope.empty .root] } s
  have hstep : Eval.outcome (do
      let v ← Eval.settled (← Eval.evaluate (.constant (.newText s)))
      return if v.isUndefined then Value.none else v)
      (Eval.atStart false [.constant (.newText s)] [] data memory.changes)
      { Run.start with scopes := [Scope.empty .root] } =
      (.ok (.text (.written i) s), { Run.start with scopes := [Scope.empty .root] }) := by
    rw [Eval.outcome_bind_of_ok _ _ _ hconstant]
    show (Except.ok (if ((Value.text (.written i) s).settle _).isUndefined then Value.none
      else (Value.text (.written i) s).settle _), _) = _
    rw [Value.settle_text]
    rfl
  have hwhole := Eval.outcome_within_empty hstep
  refine ⟨.written i, ?_⟩
  unfold run
  rw [Eval.run_eq]
  exact (congrArg (fun result => (result.1, Eval.handedOn result.2 memory)) hwhole).trans rfl

end Language

namespace Formula

open Courier.Language Courier.Language.Grammar Courier.Text

/-- A text between double quotes. -/
def inQuotes (t : String) : String := "\"" ++ t ++ "\""

/-- Texts that may stand between double quotes as they are: without double quotes, backslashes and carriage returns. -/
def IsBare (t : String) : Prop := ∀ c ∈ t.toList, c ≠ '"' ∧ c ≠ '\\' ∧ c ≠ '\r'

instance (t : String) : Decidable (IsBare t) :=
  List.decidableBAll (fun c => c ≠ '"' ∧ c ≠ '\\' ∧ c ≠ '\r') t.toList

theorem toList_inQuotes (t : String) : (inQuotes t).toList = '"' :: (t.toList ++ ['"']) := by
  simp [inQuotes]

theorem getLast?_inQuotes (t : String) : (inQuotes t).toList.getLast? = some '"' := by
  rw [toList_inQuotes, ← List.cons_append, List.getLast?_concat]

theorem isBlank_of_mem_getLast? (t : String) : ∀ d ∈ (inQuotes t).toList.getLast?, isBlank d = false := by
  rw [getLast?_inQuotes]
  rintro _ ⟨⟩
  decide

/-- What stands in quotes is neither unwrapped nor trimmed. -/
theorem content_inQuotes (t : String) : content (inQuotes t) = inQuotes t :=
  content_eq (toList_inQuotes t) (by decide) (by decide) (isBlank_of_mem_getLast? t)

theorem isEmpty_content_inQuotes (t : String) : (content (inQuotes t)).isEmpty = false :=
  isEmpty_content (toList_inQuotes t) (by decide) (by decide) (isBlank_of_mem_getLast? t)

section

variable {t : String} (h : IsBare t)

include h

/-- What stands in quotes is one token. -/
theorem map_readExpression_inQuotes :
    (Token.readExpression (inQuotes t)).map (·.token) = [.string t, .ending] := by
  have hlines : '\r' ∉ (inQuotes t).toList := by
    rw [toList_inQuotes]
    simpa using fun hmem => (h _ hmem).2.2 rfl
  have hlast : (inQuotes t).toList.getLast? ≠ some '\n' := by
    rw [getLast?_inQuotes]
    decide
  have hreads := Token.Reads.plainString (fun c hc => ⟨(h c hc).1, (h c hc).2.1⟩) [] []
  rw [← toList_inQuotes, String.ofList_toList] at hreads
  exact map_readExpression hlines hlast hreads

theorem parseExpression_inQuotes : parseExpression (inQuotes t) = .ok (.constant (.newText t)) := by
  obtain ⟨line, behind, htokens, hbehind⟩ := exists_of_map_eq_cons (map_readExpression_inQuotes h)
  obtain ⟨close, rest, rfl, hrest⟩ := exists_of_map_eq_cons hbehind
  obtain rfl := List.map_eq_nil_iff.1 hrest
  exact parseExpression_eq htokens trivial (parses_string .ending t line)

/-- What stands in quotes is a constant. -/
theorem compile_inQuotes : compile (inQuotes t) = .ok (.constant (.newText t)) :=
  compile_eq (parseExpression_inQuotes h) (Constant.ready_newText t) (fun lines => ⟨lines + 1, rfl⟩)

/-- A text in quotes is the value of the formula on every context. -/
theorem exists_valueOf_inQuotes {data : Value} {memory : Memory} {context : Context}
    (hcontext : Context.ofValue (memory.settle data) = .ok context) :
    ∃ i, valueOf (inQuotes t) data memory = (.ok (.text i t), memory) := by
  obtain ⟨i, hrun⟩ := Expression.exists_run_newText t context.find memory
  refine ⟨i, ?_⟩
  unfold valueOf
  simp only [compile_inQuotes h, hcontext]
  exact hrun

/-- A text in quotes is worth itself, and the text that it is as a template if it opens a tag. -/
theorem exists_attempt_inQuotes (data : Value) (memory : Memory) {context : Context}
    (hcontext : Context.ofValue (memory.settle data) = .ok context) :
    ∃ i, attempt (inQuotes t) data memory =
      if hasTag t then ((Template.attempt t data memory).1.map .newText, (Template.attempt t data memory).2)
      else (.ok (.text i t), memory) := by
  obtain ⟨i, hvalue⟩ := exists_valueOf_inQuotes h hcontext
  refine ⟨i, ?_⟩
  unfold attempt
  rw [isEmpty_content_inQuotes, content_inQuotes, hvalue]
  rfl

end

/-- A text in quotes that opens a tag has the outcome of the template that stands between the quotes: the same text, or
a fault of the same wording in the name of the formula as a whole. A fault that no mapping fails with is the same one. -/
theorem evaluate_inQuotes {t : String} (h : IsBare t) (htag : hasTag t = true) (root : String)
    {entries : List (String × Document)} (hkeys : (entries.map (·.1)).Nodup) :
    evaluate (inQuotes t) (.ofDocument root [] (.object entries)) .empty =
      match Template.render t (.ofDocument root [] (.object entries)) .empty with
      | (.ok text, memory) => (.ok (.newText text), memory)
      | (.error (.template _ message), memory) => (.error (.formula (inQuotes t) message), memory)
      | (.error failure, memory) => (.error failure, memory) := by
  obtain ⟨context, hcontext, -⟩ := Context.exists_ofValue_ofDocument root hkeys
  obtain ⟨i, hattempt⟩ := exists_attempt_inQuotes h (.ofDocument root [] (.object entries)) .empty hcontext
  rw [evaluate_eq, hattempt, if_pos htag, Template.render_eq]
  rcases Template.attempt t (.ofDocument root [] (.object entries)) .empty with ⟨f | text, memory⟩
  · simp only [Except.map, Except.mapError]
    rw [← Failure.ofFormula_of_ofTemplate (inQuotes t) t f]
    cases Failure.ofTemplate t f <;> rfl
  · rfl

/-- A sum in a text with a line end, the end of a block and a letter beyond ASCII; and a filter that does not exist. -/
theorem evaluate_inQuotes_sum :
    (evaluate (inQuotes "\x7b\x7b 7 * 6 \x7d\x7d %\x7d\n\u00e9") (.ofDocument "data" [] (.object [("n", .int 3)]))
        .empty).1.map Value.text? = .ok (some "42 %\x7d\n\u00e9") ∧
      (evaluate (inQuotes "\x7b\x7b 1 | x \x7d\x7d") (.ofDocument "data" [] (.object [("n", .int 3)])) .empty).1.map
        Value.text? = .error (.formula "\"\x7b\x7b 1 | x \x7d\x7d\"" "No filter named 'x'.") := by
  have hbare : IsBare "\x7b\x7b 7 * 6 \x7d\x7d %\x7d\n\u00e9" := by decide
  have htag : hasTag "\x7b\x7b 7 * 6 \x7d\x7d %\x7d\n\u00e9" = true := by decide
  have hkeys : ([("n", Document.int 3)].map (·.1)).Nodup := by decide
  constructor
  · rw [evaluate_inQuotes hbare htag "data" hkeys]
    decide +kernel
  · rw [evaluate_inQuotes (t := "\x7b\x7b 1 | x \x7d\x7d") (by decide) (by decide) "data" hkeys]
    decide +kernel

end Formula

end Courier
