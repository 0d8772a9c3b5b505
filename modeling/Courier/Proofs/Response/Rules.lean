import Courier.Language.JsonForm
import Courier.Proofs.Document.Entries
import Courier.Proofs.Language.Named
import Courier.Proofs.Step
import Courier.Response.Output

/-! The rules of a response. Each of them sets one variable of the output, under the name that its key is rendered as.
Its name and its value are worked out from the data alone, so that they depend neither on the other rules nor, but for
the place where the value comes to rest, on the position of the rule. -/

namespace Courier

namespace Language.Value

mutual

/-- Values that come to rest at a place are written as before. -/
theorem document_place (sorted : Bool) (root : String) (path : List Nat) :
    (v : Value) → (v.place root path).document sorted = v.document sorted
  | .list i items => by rw [place, document, document, documents_placeAll]
  | .tuple names items => by rw [place, document, document, documents_placeAll]
  | .map i entries => by rw [place, document, document, entryDocuments_placeEntries]
  | .int _ _ | .float _ _ | .text _ _ | .stream _ _ _ | .none | .bool _ | .complex _ _ | .safeText _ | .bytes _
  | .range _ _ _ | .slice _ _ _ | .method _ _ | .undefined _ _ | .builtin _ | .record _ _ _ | .cycle _ _ _ => by
    simp only [place, document, typeName]
  | .view _ kind _ => by
    rw [place]
    cases kind <;> rfl

theorem documents_placeAll (sorted : Bool) (root : String) (path : List Nat) (position : Nat) :
    (items : List Value) → documents sorted (placeAll root path position items) = documents sorted items
  | [] => rfl
  | v :: rest => by
    rw [placeAll, documents, documents, document_place sorted root (position :: path) v,
      documents_placeAll sorted root path (position + 1) rest]

theorem entryDocuments_placeEntries (sorted : Bool) (root : String) (path : List Nat) (position : Nat) :
    (entries : List (Value × Value)) →
      entryDocuments sorted (placeEntries root path position entries) = entryDocuments sorted entries
  | [] => rfl
  | (k, v) :: rest => by
    rw [placeEntries, entryDocuments, entryDocuments, document_place sorted root (position :: path) v,
      entryDocuments_placeEntries sorted root path (position + 1) rest]

end

end Language.Value

namespace Response

open Courier.Language

/-- The keys of the output are texts without a place of their own. -/
def outputOf (entries : List (String × Value)) : List (Value × Value) := Value.named (fun _ => .loose) entries

theorem basic_eq (r : Response) (content : Value) :
    r.basic content = outputOf [("status", .newInt r.status), ("response", content)] := rfl

/-- What a rule is named, as long as nothing has changed the data. -/
def nameOf (data : Value) (rule : Rule) : Except Error String := ((Step.text rule.key data).outcome .empty).1

/-- The value that a rule sets. -/
def ruleStep (endpoint : Endpoint) (all whole : Value) (position : Nat) (rule : Rule) : Step Value :=
  if Text.isBlankText rule.value then pure whole
  else Step.value (Mapping.formatOf rule.format (ruleValue endpoint rule)) (ruleValue endpoint rule) all "output" [position]

/-- The value of a rule where it comes to rest: the value of a text has its place in the output. -/
def atRest (rule : Rule) (position : Nat) (v : Value) : Value :=
  if Text.isBlankText rule.value then v else v.place "output" [position]

theorem toDocument_atRest (rule : Rule) (position : Nat) (v : Value) :
    (atRest rule position v).toDocument = v.toDocument := by
  unfold atRest
  split
  · rfl
  · exact Value.document_place false "output" [position] v

variable {endpoint : Endpoint} {data all whole : Value}

theorem withRules_cons (position : Nat) (rule : Rule) (rules : List Rule) (output : List (Value × Value)) :
    withRules endpoint data all whole position (rule :: rules) output =
      Step.text rule.key data >>= fun name => ruleStep endpoint all whole position rule >>= fun v =>
        withRules endpoint data all whole (position + 1) rules (Value.putKey (.newText name) v output) := by
  rw [withRules]
  unfold ruleStep
  split <;> rfl

theorem keeps_ruleStep (position : Nat) (rule : Rule) : Step.Keeps (ruleStep endpoint all whole position rule) := by
  unfold ruleStep
  split
  · exact Step.keeps_pure whole
  · exact Step.keeps_value _ _ _ _ _

theorem keeps_withRules (rules : List Rule) (position : Nat) (output : List (Value × Value)) :
    Step.Keeps (withRules endpoint data all whole position rules output) := by
  induction rules generalizing position output with
  | nil => exact Step.keeps_pure output
  | cons rule rules ih =>
      rw [withRules_cons]
      exact (Step.keeps_text _ _).bind fun name => (keeps_ruleStep position rule).bind fun v => ih _ _

/-- A rule has the same value at every position, but for the place where the value comes to rest. -/
theorem exists_atRest {position : Nat} {rule : Rule} {v : Value}
    (h : (ruleStep endpoint all whole position rule).outcome .empty = (.ok v, .empty)) :
    ∃ w, v = atRest rule position w ∧
      ∀ other, (ruleStep endpoint all whole other rule).outcome .empty = (.ok (atRest rule other w), .empty) := by
  unfold ruleStep at h ⊢
  unfold atRest
  by_cases hblank : Text.isBlankText rule.value = true
  · simp only [if_pos hblank] at h ⊢
    cases h
    exact ⟨whole, rfl, fun _ => rfl⟩
  · simp only [if_neg hblank] at h ⊢
    unfold Step.value at h ⊢
    obtain ⟨w, between, hw, hrest⟩ := Step.exists_of_outcome_bind_ok h
    obtain ⟨u, after, hsettled, hplaced⟩ := Step.exists_of_outcome_bind_ok hrest
    cases hplaced
    refine ⟨u, rfl, ?_⟩
    intro other
    rw [Step.outcome_bind_of_ok _ _ hw, Step.outcome_bind_of_ok _ _ hsettled]
    rfl

/-! ### What rules set -/

/-- The names and the values that rules set from a position on, while nothing changes the data. -/
inductive Sets (endpoint : Endpoint) (data all whole : Value) : Nat → List Rule → List (String × Value) → Prop
  | nil (position : Nat) : Sets endpoint data all whole position [] []
  | cons {position : Nat} {rule : Rule} {rules : List Rule} {name : String} {v : Value} {pairs : List (String × Value)}
      (hname : (Step.text rule.key data).outcome .empty = (.ok name, .empty))
      (hvalue : (ruleStep endpoint all whole position rule).outcome .empty = (.ok v, .empty))
      (hrules : Sets endpoint data all whole (position + 1) rules pairs) :
      Sets endpoint data all whole position (rule :: rules) ((name, v) :: pairs)

/-- The keys of the output are put under their texts. -/
theorem putKey_outputOf (name : String) (v : Value) (entries : List (String × Value)) :
    Value.putKey (.newText name) v (outputOf entries) = outputOf (putEntry name v entries) :=
  @Value.putKey_named (fun _ => .loose) .loose name entries (Or.inr rfl) v

/-- What rules set is put into the output one after the other. -/
theorem Sets.outcome_withRules {position : Nat} {rules : List Rule} {pairs : List (String × Value)}
    (h : Sets endpoint data all whole position rules pairs) (entries : List (String × Value)) :
    (withRules endpoint data all whole position rules (outputOf entries)).outcome .empty =
      (.ok (outputOf (putEntries pairs entries)), .empty) := by
  induction h generalizing entries with
  | nil position => rfl
  | cons hname hvalue _ ih =>
      rw [withRules_cons, Step.outcome_bind_of_ok _ _ hname, Step.outcome_bind_of_ok _ _ hvalue, putKey_outputOf, ih]
      rfl

/-- Rules that evaluate without changing the data set their variables one after the other. -/
theorem exists_of_outcome_withRules {rules : List Rule} {position : Nat} {entries : List (String × Value)}
    {output : List (Value × Value)}
    (h : (withRules endpoint data all whole position rules (outputOf entries)).outcome .empty = (.ok output, .empty)) :
    ∃ pairs, Sets endpoint data all whole position rules pairs ∧ output = outputOf (putEntries pairs entries) := by
  induction rules generalizing position entries with
  | nil =>
      cases h
      exact ⟨[], .nil position, rfl⟩
  | cons rule rules ih =>
      rw [withRules_cons] at h
      obtain ⟨name, named, hname, hrest⟩ := Step.exists_of_outcome_bind_ok h
      obtain ⟨v, valued, hvalue, hrules⟩ := Step.exists_of_outcome_bind_ok hrest
      -- nothing was changed in the end, so nothing was changed on the way
      have hvalued := (keeps_withRules rules _ _).eq_empty hrules
      subst hvalued
      have hnamed := (keeps_ruleStep position rule).eq_empty hvalue
      subst hnamed
      rw [putKey_outputOf] at hrules
      obtain ⟨pairs, hsets, houtput⟩ := ih hrules
      exact ⟨(name, v) :: pairs, .cons hname hvalue hsets, houtput⟩

/-- Each rule sets a variable of its name. -/
theorem Sets.forall₂ {position : Nat} {rules : List Rule} {pairs : List (String × Value)}
    (h : Sets endpoint data all whole position rules pairs) :
    List.Forall₂ (fun rule p => nameOf data rule = .ok p.1) rules pairs := by
  induction h with
  | nil position => exact .nil
  | cons hname _ _ ih => exact .cons (congrArg Prod.fst hname) ih

/-- What some rules set is what the first of them set and what the others set from there on. -/
theorem Sets.exists_append {position : Nat} {front back : List Rule} {pairs : List (String × Value)}
    (h : Sets endpoint data all whole position (front ++ back) pairs) :
    ∃ first rest, pairs = first ++ rest ∧ Sets endpoint data all whole position front first ∧
      Sets endpoint data all whole (position + front.length) back rest := by
  induction front generalizing position pairs with
  | nil => exact ⟨[], pairs, rfl, .nil position, h⟩
  | cons rule front ih =>
      cases h with
      | cons hname hvalue hrules =>
          obtain ⟨first, rest, rfl, hfirst, hrest⟩ := ih hrules
          refine ⟨_ :: first, rest, rfl, .cons hname hvalue hfirst, ?_⟩
          rwa [List.length_cons, Nat.add_comm front.length 1, ← Nat.add_assoc]

/-- A variable of a name is set if a rule has that name. -/
theorem mem_keys_of_forall₂ {rules : List Rule} {pairs : List (String × Value)}
    (h : List.Forall₂ (fun rule p => nameOf data rule = .ok p.1) rules pairs) (key : String) :
    key ∈ pairs.map (·.1) ↔ ∃ rule ∈ rules, nameOf data rule = .ok key := by
  induction h with
  | nil => simp
  | @cons rule p rules pairs hname _ ih =>
      rw [List.map_cons, List.mem_cons, ih]
      simp only [List.mem_cons, exists_eq_or_imp, hname, Except.ok.injEq]
      exact or_congr_left eq_comm

/-- A key that no rule is named has the value from before the rules. -/
theorem entryOf?_putEntries_of_forall₂ {rules : List Rule} {pairs entries : List (String × Value)} {key : String}
    (h : List.Forall₂ (fun rule p => nameOf data rule = .ok p.1) rules pairs)
    (hkey : ∀ rule ∈ rules, nameOf data rule ≠ .ok key) :
    entryOf? key (putEntries pairs entries) = entryOf? key entries := by
  induction h generalizing entries with
  | nil => rfl
  | @cons rule p rules pairs hname _ ih =>
      have hne : key ≠ p.1 := by
        intro heq
        exact hkey rule List.mem_cons_self (heq ▸ hname)
      show entryOf? key (putEntries pairs (putEntry p.1 p.2 entries)) = _
      rw [ih fun other hother => hkey other (List.mem_cons_of_mem _ hother), entryOf?_putEntry_of_ne hne]

/-- A key that is there stays there. -/
theorem exists_entryOf?_putEntries {pairs entries : List (String × Value)} {key : String}
    (h : ∃ v, entryOf? key entries = some v) : ∃ v, entryOf? key (putEntries pairs entries) = some v := by
  obtain ⟨v, hv⟩ := h
  rw [entryOf?_putEntries, hv]
  cases lastOf? key pairs with
  | none => exact ⟨v, rfl⟩
  | some w => exact ⟨w, rfl⟩

/-- Under a name, the value of the last rule of that name is found. -/
theorem Sets.exists_entryOf? {front back : List Rule} {rule : Rule} {pairs : List (String × Value)} {name : String}
    (h : Sets endpoint data all whole 0 (front ++ rule :: back) pairs) (entries : List (String × Value))
    (hname : nameOf data rule = .ok name) (hlast : ∀ later ∈ back, nameOf data later ≠ .ok name) :
    ∃ v, entryOf? name (putEntries pairs entries) = some v ∧
      (Step.text rule.key data).outcome .empty = (.ok name, .empty) ∧
      (ruleStep endpoint all whole front.length rule).outcome .empty = (.ok v, .empty) := by
  obtain ⟨first, rest, rfl, -, hrest⟩ := h.exists_append
  cases hrest with
  | @cons _ _ _ found v rest hfound hvalue hrules =>
      obtain rfl : found = name := Except.ok.inj ((congrArg Prod.fst hfound).symm.trans hname)
      rw [Nat.zero_add] at hvalue
      refine ⟨v, ?_, hfound, hvalue⟩
      rw [putEntries, List.foldl_append, List.foldl_cons]
      exact (entryOf?_putEntries_of_forall₂ hrules.forall₂ hlast).trans (entryOf?_putEntry_self _ _ _)

end Response

end Courier
