import Courier.Proofs.Formula.KeyPath
import Courier.Proofs.Language.Documents
import Courier.Proofs.Language.Outcome
import Courier.Proofs.Mapping

/-! What a key path is worth. It leads through the objects of the data to a value that is found there and changes
nothing on the way. A text that it finds is the value of the formula only if no tag is opened in it, whoever wrote the
text: any other one is taken for a template of the formula's own and rendered on the data. -/

namespace Courier

namespace Document

/-- The document that keys lead to, through objects only. -/
def under? : List String → Document → Option Document
  | [], d => some d
  | key :: rest, d => (d.get? key).bind (under? rest)

end Document

namespace Language

open Eval

/-! ### Members -/

/-- A member of an object is what stands under its key, in every calm run. -/
theorem Eval.exists_outcome_member (root : String) (path : List Nat) {d part : Document} {key : String}
    (hpart : d.get? key = some part) :
    ∃ inner, ∀ setting run e, IsCalm setting run →
      outcome (evaluate e) setting run = (.ok (.ofDocument root path d), run) →
      outcome (evaluate (.member e key)) setting run = (.ok (.ofDocument root inner part), run) := by
  cases d with
  | object entries =>
      have hentry : entryOf? key entries = some part := hpart
      obtain ⟨inner, hlookup⟩ := Value.exists_lookup_ofEntries root path 0 hentry
      refine ⟨inner, ?_⟩
      intro setting run e h he
      rw [evaluate, outcome_bind_of_ok _ _ _ he, memberOf, outcome_bind_of_ok _ _ _ (h.outcome_present _)]
      show (Except.ok ((Value.lookup (.newText key) (Value.ofEntries root path 0 entries)).getD _), run) = _
      rw [hlookup]
      rfl
  | _ => cases hpart

/-- Members of members are what the keys lead to, in every calm run. -/
theorem Eval.exists_outcome_members (root : String) (keys : List String) (path : List Nat) {d part : Document}
    (hpart : d.under? keys = some part) :
    ∃ inner, ∀ setting run e, IsCalm setting run →
      outcome (evaluate e) setting run = (.ok (.ofDocument root path d), run) →
      outcome (evaluate (keys.foldl .member e)) setting run = (.ok (.ofDocument root inner part), run) := by
  induction keys generalizing path d with
  | nil =>
      cases hpart
      exact ⟨path, fun _ _ _ _ he => he⟩
  | cons key keys ih =>
      obtain ⟨between, hbetween, hrest⟩ := Option.bind_eq_some_iff.1 hpart
      obtain ⟨middle, hmember⟩ := Eval.exists_outcome_member root path hbetween
      obtain ⟨inner, hmembers⟩ := ih middle hrest
      refine ⟨inner, ?_⟩
      intro setting run e h he
      exact hmembers setting run _ h (hmember setting run e h he)

/-! ### Runs -/

/-- A run of an expression that reads one name. The name has its value in the data from the start, or is undefined, so
that what the expression comes to there in calm runs is what its run comes to. -/
theorem Expression.run_of_calm {e : Expression} {name : String} (hnames : e.names = [name]) (hname : name ≠ "self")
    {data : String → Option Value} {result : Except Fault Value}
    (h : ∀ setting run, IsCalm setting run → setting.manner.chained = false →
      outcome (evaluate (.name name)) setting run = (.ok ((data name).getD (Value.noName false name)), run) →
      outcome (evaluate e) setting run = (result, run)) :
    e.run data .empty = (result.map fun v => if v.isUndefined then .none else v, .empty) := by
  have hself : selfVariables (Mention.writes ["result"] ++ Mention.reads [name]) = [] := by
    apply selfVariables_of_ne
    intro m hm
    rcases List.mem_pair.1 hm with rfl | rfl
    · decide
    · exact hname
  have hsymbols : Symbols.empty.readAll (fun _ => false) [name] = ⟨[(name, .resolved)], []⟩ := rfl
  have hstep (scope : Scope)
      (hscope : scope.find? name = some ((atStart false [e] [] data Memory.empty.changes).data name)) :
      outcome (do
        let v ← settled (← evaluate e)
        return if v.isUndefined then Value.none else v)
        (atStart false [e] [] data Memory.empty.changes) { Run.start with scopes := [scope] } =
        (result.map fun v => if v.isUndefined then Value.none else v, { Run.start with scopes := [scope] }) := by
    have hcalm : IsCalm (atStart false [e] [] data Memory.empty.changes) { Run.start with scopes := [scope] } :=
      ⟨rfl, rfl, rfl, rfl, rfl⟩
    have hvariable : (variableOf? name [scope]).getD (data name) = data name := by
      rw [variableOf?, List.findSome?_cons, hscope]
      rfl
    rw [outcome_bind, h _ _ hcalm rfl (hcalm.outcome_nameValue hvariable)]
    cases result with
    | error f => rfl
    | ok v => exact (outcome_bind_of_ok _ _ _ (hcalm.outcome_settled v)).trans rfl
  obtain ⟨after, hafter, hchanges⟩ := outcome_within_reading rfl fun scope _ hscope => hstep scope hscope
  unfold run
  rw [hnames]
  simp only [hself, hsymbols]
  rw [run_eq, hafter, handedOn, hchanges]
  rfl

theorem Value.isUndefined_ofDocument (root : String) (path : List Nat) (d : Document) :
    (ofDocument root path d).isUndefined = false := by
  cases d <;> rfl

end Language

namespace Formula

open Courier.Language

namespace KeyPath

/-- A formula that is a key path is run on a context that is made of the entries of the data. -/
theorem exists_valueOf_eq_run (p : KeyPath) (root : String) {entries : List (String × Document)}
    (hkeys : (entries.map (·.1)).Nodup) :
    ∃ context : Context, (∀ name, Option.Rel (Value.IsOf root) (entryOf? name entries) (entryOf? name context)) ∧
      valueOf p.text (.ofDocument root [] (.object entries)) .empty = p.expression.run context.find .empty := by
  obtain ⟨context, hcontext, hrel⟩ := Context.exists_ofValue_ofDocument root hkeys
  have hsettle : Memory.empty.settle (.ofDocument root [] (.object entries)) = .ofDocument root [] (.object entries) :=
    rfl
  refine ⟨context, hrel, ?_⟩
  unfold valueOf
  simp only [p.compile_text, hsettle, hcontext]

/-- A formula that is a key path is worth what the path leads to in the data. -/
theorem exists_valueOf_text (p : KeyPath) (root : String) {entries : List (String × Document)}
    (hkeys : (entries.map (·.1)).Nodup) {part : Document}
    (hpart : (Document.object entries).under? (p.first :: p.rest) = some part) :
    ∃ inner, valueOf p.text (.ofDocument root [] (.object entries)) .empty =
      (.ok (.ofDocument root inner part), .empty) := by
  obtain ⟨d, hfirst, hrest⟩ := Option.bind_eq_some_iff.1 hpart
  obtain ⟨context, hrel, hvalue⟩ := p.exists_valueOf_eq_run root hkeys
  have hd : entryOf? p.first entries = some d := hfirst
  have hentry := hrel p.first
  rw [hd] at hentry
  obtain ⟨path, hpath⟩ := Value.exists_of_rel_some hentry
  have hfind : context.find p.first = some (.ofDocument root path d) := by
    rw [Context.find, hpath]
    rfl
  obtain ⟨inner, hmembers⟩ := Eval.exists_outcome_members root p.rest path hrest
  have hrun : p.expression.run context.find .empty =
      ((Except.ok (.ofDocument root inner part)).map fun v => if v.isUndefined then .none else v, .empty) := by
    apply Expression.run_of_calm p.names_expression p.first_ne_self
    intro setting run h _ hname
    rw [hfind] at hname
    exact hmembers setting run _ h hname
  refine ⟨inner, ?_⟩
  rw [hvalue, hrun]
  simp only [Except.map, Value.isUndefined_ofDocument, Bool.false_eq_true, if_false]

end KeyPath

/-- A formula that is a key path to a text is worth the text exactly as it stands there if the text opens no tag. If it
opens one, the text is rendered as a template on the same data, and the formula has the outcome of that template. -/
theorem exists_evaluate_text (p : KeyPath) (root : String) {entries : List (String × Document)}
    (hkeys : (entries.map (·.1)).Nodup) {s : String}
    (hpart : (Document.object entries).under? (p.first :: p.rest) = some (.text s)) :
    ∃ i, evaluate p.text (.ofDocument root [] (.object entries)) .empty =
      if hasTag s then
        (((Template.attempt s (.ofDocument root [] (.object entries)) .empty).1.map .newText).mapError
            (.ofFormula p.text),
          (Template.attempt s (.ofDocument root [] (.object entries)) .empty).2)
      else (.ok (.text i s), .empty) := by
  obtain ⟨inner, hvalue⟩ := p.exists_valueOf_text root hkeys hpart
  refine ⟨.placed root inner, ?_⟩
  rw [evaluate_eq, attempt, p.isEmpty_content_text, p.content_text, hvalue]
  simp only [Bool.false_eq_true, if_false, Value.ofDocument, Value.text?]
  split
  · rfl
  · rfl

/-- A name comes back as it was sent, and a sum that was sent in a tag comes back worked out. -/
theorem exists_evaluate_text_sent :
    (∃ i, evaluate "remote.name" (.ofDocument "data" [] (.object [("remote", .object [("name", .text "Ada"),
        ("sum", .text "\x7b\x7b 7 * 6 \x7d\x7d")])])) .empty = (.ok (.text i "Ada"), .empty)) ∧
      (evaluate "remote.sum" (.ofDocument "data" [] (.object [("remote", .object [("name", .text "Ada"),
        ("sum", .text "\x7b\x7b 7 * 6 \x7d\x7d")])])) .empty).1.toOption.bind Value.text? = some "42" := by
  have hkeys : ([("remote", Document.object [("name", .text "Ada"),
      ("sum", .text "\x7b\x7b 7 * 6 \x7d\x7d")])].map (·.1)).Nodup := by decide
  constructor
  · exact exists_evaluate_text ⟨"remote", ["name"], by decide, by decide, by decide⟩ "data" hkeys rfl
  · obtain ⟨i, hsum⟩ := exists_evaluate_text ⟨"remote", ["sum"], by decide, by decide, by decide⟩ "data" hkeys rfl
    have htag : hasTag "\x7b\x7b 7 * 6 \x7d\x7d" = true := by decide
    rw [if_pos htag] at hsum
    refine (congrArg (fun result => result.1.toOption.bind Value.text?) hsum).trans ?_
    decide +kernel

end Formula

end Courier
