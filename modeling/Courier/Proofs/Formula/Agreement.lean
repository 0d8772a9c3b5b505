import Courier.Proofs.Formula.Interpolation
import Courier.Proofs.Language.Undefined
import Courier.Proofs.Template.SingleTag

/-! Key paths in formulas and in tags. Both lead through the objects of the data to the same value. They part where a
key is missing: a tag is empty then, and a formula is nothing if the last key is missing, and a fault if an earlier one
is, unless every key behind it is an attribute that undefined values keep to themselves. -/

namespace Courier

open Courier.Language

namespace Document

/-- Whatever the keys lead to before the last one is an object. -/
def LeadsThroughObjects (d : Document) (keys : List String) : Prop :=
  ∀ front back part, keys = front ++ back → back ≠ [] → d.under? front = some part → ∃ entries, part = .object entries

theorem leadsThroughObjects_nil (d : Document) : d.LeadsThroughObjects [] := by
  intro front back part hkeys hback
  exact absurd (List.append_eq_nil_iff.1 hkeys.symm).2 hback

theorem leadsThroughObjects_cons {entries : List (String × Document)} {key : String} {keys : List String}
    (h : ∀ part, entryOf? key entries = some part → part.LeadsThroughObjects keys) :
    (Document.object entries).LeadsThroughObjects (key :: keys) := by
  intro front back part hkeys hback hpart
  cases front with
  | nil =>
      cases hpart
      exact ⟨entries, rfl⟩
  | cons first front =>
      obtain ⟨rfl, hrest⟩ : key = first ∧ keys = front ++ back := List.cons_eq_cons.1 hkeys
      obtain ⟨inner, hinner, hpart⟩ := Option.bind_eq_some_iff.1 hpart
      exact h inner hinner front back part hrest hback hpart

theorem under?_append (d : Document) (front back : List String) :
    d.under? (front ++ back) = (d.under? front).bind (under? back) := by
  induction front generalizing d with
  | nil => rfl
  | cons key front ih =>
      rw [List.cons_append, under?, under?]
      cases d.get? key with
      | none => rfl
      | some part => exact ih part

/-- Through objects, segments lead where keys lead. -/
theorem walk_eq_under? {d : Document} {keys : List String} (h : d.LeadsThroughObjects keys) :
    d.walk keys = .ok (d.under? keys) := by
  induction keys generalizing d with
  | nil => rfl
  | cons key keys ih =>
      obtain ⟨entries, rfl⟩ := h [] (key :: keys) d rfl (List.cons_ne_nil _ _) rfl
      rw [walk_object_cons]
      show _ = Except.ok ((entryOf? key entries).bind (under? keys))
      cases hkey : entryOf? key entries with
      | none => rfl
      | some part =>
          apply ih
          intro front back inner hkeys hback hinner
          refine h (key :: front) back inner (by rw [hkeys, List.cons_append]) hback ?_
          show (entryOf? key entries).bind (under? front) = some inner
          rw [hkey]
          exact hinner

/-- Keys that lead somewhere through objects are segments that lead there. -/
theorem walk_of_under? {keys : List String} {d part : Document} (h : d.under? keys = some part) :
    d.walk keys = .ok (some part) := by
  induction keys generalizing d with
  | nil => exact congrArg Except.ok h
  | cons key keys ih =>
      obtain ⟨next, hnext, hrest⟩ := Option.bind_eq_some_iff.1 h
      cases d with
      | object entries =>
          have hentry : entryOf? key entries = some next := hnext
          rw [walk_object_cons, hentry]
          exact ih hrest
      | _ => cases hnext

end Document

namespace Formula

open Courier.Language.Eval Courier.Language.Value

/-! ### Tags of names -/

/-- Names are the segments of the path that they are joined to. -/
theorem segments_of_names {keys : List String} (hne : keys ≠ []) (hnames : ∀ key ∈ keys, isName key = true) :
    Path.segments (Text.join "." keys) = keys := by
  apply Path.segments_join hne
  intro key hkey hpoint
  have htail := KeyPath.isNameTail_of_mem (hnames key hkey) '.' hpoint
  cases htail

/-- A tag of a path of names is rendered as the text of what they lead to, and as nothing where they lead nowhere. -/
theorem render_tag_of_names (root : String) {entries : List (String × Document)}
    (hjson : (Document.object entries).IsJson) (hlookup : entryOf? Template.lookupName entries = Option.none)
    {keys : List String} (hne : keys ≠ []) (hnames : ∀ key ∈ keys, isName key = true)
    (hfirst : ∀ first rest, keys = first :: rest → (entryOf? first entries).isSome ∨
      (Context.builtin? first = Option.none ∧ first ≠ Template.lookupName))
    {tag : String} (htag : Template.IsTag tag (Text.join "." keys)) {found : Option Document}
    (hwalk : (Document.object entries).walk keys = .ok found) :
    Template.render tag (.ofDocument root [] (.object entries)) .empty =
      (.ok ((found.map Document.plainText).getD ""), .empty) := by
  have hkeys : (entries.map (·.1)).Nodup := by
    cases hjson with
    | object _ hkeys _ => exact hkeys
  obtain ⟨context, hcontext, hrel⟩ := Context.exists_ofValue_ofDocument root hkeys
  have hsegments := segments_of_names hne hnames
  have hcodes : ∀ c ∈ (Text.join "." keys).toList, Text.codePoint c ≤ 0xFFFF := by
    intro c hc
    have hlt : c.toNat < 128 := by
      rcases KeyPath.isNameTail_or_point_of_join hnames c hc with hname | rfl
      · exact toNat_lt_of_isNameTail hname
      · decide
    rw [Text.codePoint_of_lt hlt]
    omega
  have hname : Template.IsLookedUp entries (Text.join "." keys).toList := by
    intro first rest hsplit
    rw [String.ofList_toList, hsegments] at hsplit
    exact hfirst first rest hsplit
  refine Template.render_tag htag hcontext (fun name => rel_isMadeOf (hrel name)) hjson hlookup hcodes hname ?_
  rw [Template.told, hsegments, hwalk]
  rfl

namespace KeyPath

/-- The keys of a path. -/
def keys (p : KeyPath) : List String := p.first :: p.rest

/-- The data that a path is followed in: its first name is a key, or nothing that can be named without one, and what
stands in front of its last key is an object wherever it is found. -/
structure IsFollowedIn (p : KeyPath) (entries : List (String × Document)) : Prop where
  json : (Document.object entries).IsJson
  lookup : entryOf? Template.lookupName entries = Option.none
  first : (entryOf? p.first entries).isSome ∨
    (Context.builtin? p.first = Option.none ∧ p.first ≠ Template.lookupName)
  objects : (Document.object entries).LeadsThroughObjects p.keys

variable {p : KeyPath} {entries : List (String × Document)} (h : p.IsFollowedIn entries) (root : String)

include h

theorem IsFollowedIn.nodup_keys : (entries.map (·.1)).Nodup := by
  cases h.json with
  | object _ hkeys _ => exact hkeys

/-! ### Tags -/

/-- A tag of a path is rendered as the text of what the path leads to, and as nothing where it leads nowhere. -/
theorem IsFollowedIn.render_tag {tag : String} (htag : Template.IsTag tag p.text) :
    Template.render tag (.ofDocument root [] (.object entries)) .empty =
      (.ok ((((Document.object entries).under? p.keys).map Document.plainText).getD ""), .empty) := by
  refine render_tag_of_names root h.json h.lookup (List.cons_ne_nil _ _) ?_ ?_ htag (Document.walk_eq_under? h.objects)
  · exact List.forall_mem_cons.2 ⟨p.isName_first, p.isName_rest⟩
  · intro first rest hkeys
    cases hkeys
    exact h.first

/-! ### Formulas -/

/-- A formula that is a path is worth what the path leads to, unless a tag is opened in it. -/
theorem IsFollowedIn.exists_evaluate {part : Document} (hpart : (Document.object entries).under? p.keys = some part)
    (htext : ∀ s, part = .text s → hasTag s = false) :
    ∃ inner, evaluate p.text (.ofDocument root [] (.object entries)) .empty =
      (.ok (.ofDocument root inner part), .empty) := by
  obtain ⟨inner, hvalue⟩ := p.exists_valueOf_text root h.nodup_keys hpart
  refine ⟨inner, ?_⟩
  unfold evaluate
  rw [p.isEmpty_content_text, p.content_text, hvalue]
  cases part with
  | text s =>
      have htag : hasTag s = false := htext s rfl
      simp [ofDocument, text?, htag]
  | _ => rfl

/-- The expression of a path, where it is undefined, at the key that is missing. -/
theorem IsFollowedIn.outcome_missing {context : Context}
    (hrel : ∀ name, Option.Rel (IsOf root) (entryOf? name entries) (entryOf? name context)) {front : List String}
    {key : String} {back : List String} (hp : p.keys = front ++ key :: back)
    (hfront : ((Document.object entries).under? front).isSome)
    (hkey : (Document.object entries).under? (front ++ [key]) = Option.none) :
    ∃ e, p.expression = back.foldl .member e ∧ ∀ setting run, IsCalm setting run → setting.manner.chained = false →
      outcome (Eval.evaluate (.name p.first)) setting run =
        (.ok ((context.find p.first).getD (noName false p.first)), run) →
      outcome (Eval.evaluate e) setting run = (.ok (.undefined (missingMessage front key) false), run) := by
  have hfirst := hrel p.first
  cases front with
  | nil =>
      cases hp
      have hnone : entryOf? p.first entries = Option.none := by
        simpa [Document.under?, Document.get?] using hkey
      have hbuiltin := (h.first.resolve_left (by simp [hnone])).1
      rw [hnone] at hfirst
      have hfind : context.find p.first = Option.none := by
        generalize hfound : entryOf? p.first context = found at hfirst
        cases hfirst
        simp [Context.find, hfound, hbuiltin]
      refine ⟨.name p.first, rfl, ?_⟩
      intro setting run _ _ hname
      rw [hname, hfind]
      rfl
  | cons first middle =>
      obtain ⟨rfl, hrest⟩ : p.first = first ∧ p.rest = middle ++ key :: back := List.cons_eq_cons.1 hp
      obtain ⟨d, hd⟩ := Option.isSome_iff_exists.1 hfront
      obtain ⟨inner, rfl⟩ := h.objects _ _ d hp (List.cons_ne_nil _ _) hd
      have hmissing : entryOf? key inner = Option.none := by
        rw [Document.under?_append, hd] at hkey
        simpa [Document.under?, Document.get?] using hkey
      obtain ⟨part, hpart, hmiddle⟩ := Option.bind_eq_some_iff.1 hd
      have hentry : entryOf? p.first entries = some part := hpart
      rw [hentry] at hfirst
      obtain ⟨path, hpath⟩ := exists_of_rel_some hfirst
      have hfind : context.find p.first = some (.ofDocument root path part) := by
        rw [Context.find, hpath]
        rfl
      obtain ⟨place, hmembers⟩ := Eval.exists_outcome_members root middle path hmiddle
      refine ⟨.member (middle.foldl .member (.name p.first)) key, ?_, ?_⟩
      · rw [expression, hrest, List.foldl_append, List.foldl_cons]
      · intro setting run hcalm hchained hname
        rw [hfind] at hname
        exact outcome_member_missing hcalm hchained (List.cons_ne_nil _ _) hmissing (hmembers _ _ _ hcalm hname)

/-- The expression of a path comes to nothing, or to a fault, where a key is missing. -/
theorem IsFollowedIn.run_expression {context : Context}
    (hrel : ∀ name, Option.Rel (IsOf root) (entryOf? name entries) (entryOf? name context)) {front : List String}
    {key : String} {back : List String} (hp : p.keys = front ++ key :: back)
    (hfront : ((Document.object entries).under? front).isSome)
    (hkey : (Document.object entries).under? (front ++ [key]) = Option.none) :
    p.expression.run context.find .empty =
      (if back.all isKeptBack then .ok .none
        else .error (.undefined (messageBefore (missingMessage front key) back)), .empty) := by
  obtain ⟨e, hexpression, hmissing⟩ := h.outcome_missing root hrel hp hfront hkey
  rw [Expression.run_of_calm p.names_expression p.first_ne_self fun setting run hcalm hchained hname => by
    rw [hexpression]
    exact outcome_members_undefined hcalm hchained back (hmissing setting run hcalm hchained hname)]
  by_cases hback : back.all isKeptBack
  · simp only [if_pos hback]
    rfl
  · simp only [if_neg hback]
    rfl

/-- A formula that is a path with a key missing is nothing if that is the last key, or if undefined values keep all keys
behind it to themselves, and the fault of the undefined value otherwise. -/
theorem IsFollowedIn.evaluate_missing {front : List String} {key : String} {back : List String}
    (hp : p.keys = front ++ key :: back) (hfront : ((Document.object entries).under? front).isSome)
    (hkey : (Document.object entries).under? (front ++ [key]) = Option.none) :
    evaluate p.text (.ofDocument root [] (.object entries)) .empty =
      (if back.all isKeptBack then .ok .none
        else .error (.formula p.text (messageBefore (missingMessage front key) back)), .empty) := by
  obtain ⟨context, hrel, hvalue⟩ := p.exists_valueOf_eq_run root h.nodup_keys
  rw [h.run_expression root hrel hp hfront hkey] at hvalue
  unfold evaluate
  rw [p.isEmpty_content_text, p.content_text, hvalue]
  by_cases hback : back.all isKeptBack
  · simp only [if_pos hback]
    rfl
  · simp only [if_neg hback]
    rfl

end KeyPath

end Formula

end Courier
