import Courier.Proofs.Document.Json
import Courier.Proofs.Language.Named

/-! Values that are made of documents. A path leads to the same part in a document and in its value, and the text of
the value in an output tells the document: nothing for `null`, JSON for lists and objects.

Of maps that are put together of documents a template sees under each name the value that was put there last, whoever
wrote the key first, and each value is made of a document: the texts of headers get a place when the template starts. -/

namespace Courier

namespace Language.Value

/-! ### The text of a value -/

theorem shownInt_of_isJson {i : Int} (h : Number.writeInt? i = some (Number.writeInt i)) :
    shownInt i = .ok (Number.writeInt i) := by
  rw [shownInt, h]

theorem documents_ofDocuments {root : String} {items : List Document}
    (h : ∀ d ∈ items, ∀ path, document false (ofDocument root path d) = .ok d) (path : List Nat) (position : Nat) :
    documents false (ofDocuments root path position items) = .ok items := by
  induction items generalizing position with
  | nil => rfl
  | cons d items ih =>
      rw [ofDocuments, documents, h d List.mem_cons_self, ih fun e he => h e (List.mem_cons_of_mem _ he)]
      rfl

theorem writtenEntries_ofEntries {root : String} {entries : List (String × Document)}
    (h : ∀ e ∈ entries, ∀ path, document false (ofDocument root path e.2) = .ok e.2) (path : List Nat)
    (position : Nat) :
    writtenEntries (entryDocuments false (ofEntries root path position entries)) = .ok entries := by
  induction entries generalizing position with
  | nil => rfl
  | cons e entries ih =>
      obtain ⟨key, d⟩ := e
      rw [ofEntries, entryDocuments, writtenEntries, h (key, d) List.mem_cons_self,
        ih fun e he => h e (List.mem_cons_of_mem _ he)]
      rfl

/-- A value that was made of a document is written as that document. -/
theorem toDocument_ofDocument {d : Document} (h : d.IsJson) (root : String) (path : List Nat) :
    document false (ofDocument root path d) = .ok d := by
  induction h generalizing path with
  | null => rfl
  | bool b => rfl
  | int i h =>
      rw [ofDocument, document, shownInt_of_isJson h]
      rfl
  | float x => rfl
  | text s => rfl
  | list items h ih =>
      rw [ofDocument, document, documents_ofDocuments ih]
      rfl
  | object entries hkeys h ih =>
      rw [ofDocument, document]
      show (do return Document.object (← writtenEntries (entryDocuments false (ofEntries root path 0 entries)))) = _
      rw [writtenEntries_ofEntries ih]
      rfl

theorem finalized_ofDocument {d : Document} (h : d.IsJson) (root : String) (path : List Nat) :
    (ofDocument root path d).finalized = .ok d.plainText := by
  have hdocument := toDocument_ofDocument h root path
  cases h with
  | null => rfl
  | bool b => rfl
  | int i h => exact shownInt_of_isJson h
  | float x => rfl
  | text s => rfl
  | list items h =>
      rw [ofDocument] at hdocument ⊢
      rw [finalized, toJson, toDocument, hdocument]
      rfl
  | object entries hkeys h =>
      rw [ofDocument] at hdocument ⊢
      rw [finalized, toJson, toDocument, hdocument]
      rfl

/-! ### The text that names a value -/

theorem exists_shownAll_ofDocuments {root : String} {items : List Document}
    (h : ∀ d ∈ items, ∃ s, ∀ path, shown (ofDocument root path d) = .ok s) :
    ∃ texts, ∀ path position, shownAll (ofDocuments root path position items) = .ok texts := by
  induction items with
  | nil => exact ⟨[], fun _ _ => rfl⟩
  | cons d items ih =>
      obtain ⟨s, hs⟩ := h d List.mem_cons_self
      obtain ⟨texts, htexts⟩ := ih fun e he => h e (List.mem_cons_of_mem _ he)
      refine ⟨s :: texts, ?_⟩
      intro path position
      rw [ofDocuments, shownAll, hs, htexts]
      rfl

theorem exists_shownEntries_ofEntries {root : String} {entries : List (String × Document)}
    (h : ∀ e ∈ entries, ∃ s, ∀ path, shown (ofDocument root path e.2) = .ok s) :
    ∃ texts, ∀ path position, shownEntries (ofEntries root path position entries) = .ok texts := by
  induction entries with
  | nil => exact ⟨[], fun _ _ => rfl⟩
  | cons e entries ih =>
      obtain ⟨key, d⟩ := e
      obtain ⟨s, hs⟩ := h (key, d) List.mem_cons_self
      obtain ⟨texts, htexts⟩ := ih fun f hf => h f (List.mem_cons_of_mem _ hf)
      refine ⟨(Text.quoted key ++ ": " ++ s) :: texts, ?_⟩
      intro path position
      rw [ofEntries, shownEntries, hs, htexts]
      rfl

/-- Every document that JSON has a text for can be shown, wherever it stands. -/
theorem exists_shown_ofDocument {d : Document} (h : d.IsJson) (root : String) :
    ∃ s, ∀ path, shown (ofDocument root path d) = .ok s := by
  induction h with
  | null => exact ⟨_, fun _ => rfl⟩
  | bool b => exact ⟨_, fun _ => rfl⟩
  | int i h =>
      refine ⟨Number.writeInt i, fun path => ?_⟩
      rw [ofDocument, shown, shownInt_of_isJson h]
  | float x => exact ⟨_, fun _ => rfl⟩
  | text s => exact ⟨_, fun _ => rfl⟩
  | list items h ih =>
      obtain ⟨texts, htexts⟩ := exists_shownAll_ofDocuments ih
      refine ⟨"[" ++ Text.join ", " texts ++ "]", fun path => ?_⟩
      rw [ofDocument, shown, htexts]
      rfl
  | object entries hkeys h ih =>
      obtain ⟨texts, htexts⟩ := exists_shownEntries_ofEntries ih
      refine ⟨"\x7b" ++ Text.join ", " texts ++ "\x7d", fun path => ?_⟩
      rw [ofDocument, shown, htexts]
      rfl

/-- Every document that JSON has a text for stands for a text, wherever it stands. -/
theorem exists_toText_ofDocument {d : Document} (h : d.IsJson) (root : String) :
    ∃ s, ∀ path, (ofDocument root path d).toText = .ok s := by
  obtain ⟨s, hs⟩ := exists_shown_ofDocument h root
  cases d with
  | text t => exact ⟨t, fun _ => rfl⟩
  | _ => exact ⟨s, hs⟩

/-! ### The parts of a value -/

/-- A value is made of a document, somewhere in a root. -/
def IsOf (root : String) (d : Document) (v : Value) : Prop := ∃ path, v = ofDocument root path d

theorem exists_of_rel_some {root : String} {d : Document} {v : Option Value} (h : Option.Rel (IsOf root) (some d) v) :
    ∃ path, v = some (ofDocument root path d) := by
  cases h with
  | some hof =>
      obtain ⟨path, rfl⟩ := hof
      exact ⟨path, rfl⟩

/-- A value is made of a document, somewhere in some root. -/
def IsMadeOf (d : Document) (v : Value) : Prop := ∃ root, IsOf root d v

theorem rel_isMadeOf {root : String} {d : Option Document} {v : Option Value} (h : Option.Rel (IsOf root) d v) :
    Option.Rel IsMadeOf d v := by
  cases h with
  | none => exact .none
  | some hof => exact .some ⟨root, hof⟩

theorem lookup_ofEntries (root : String) (path : List Nat) (position : Nat) (key : String)
    (entries : List (String × Document)) :
    Option.Rel (IsOf root) (entryOf? key entries) (lookup (.newText key) (ofEntries root path position entries)) := by
  induction entries generalizing position with
  | nil => exact .none
  | cons e entries ih =>
      obtain ⟨k, d⟩ := e
      unfold lookup ofEntries
      rw [List.find?_cons]
      simp only [newText, alike_text, entryOf?]
      cases k == key with
      | true => exact .some ⟨_, rfl⟩
      | false => exact ih (position + 1)

/-- A key of an object leads to the value of what stands under it. -/
theorem exists_lookup_ofEntries (root : String) (path : List Nat) (position : Nat) {key : String}
    {entries : List (String × Document)} {d : Document} (h : entryOf? key entries = some d) :
    ∃ inner, lookup (.newText key) (ofEntries root path position entries) = some (ofDocument root inner d) := by
  have hrel := lookup_ofEntries root path position key entries
  rw [h] at hrel
  exact exists_of_rel_some hrel

/-- A key that an object does not have leads nowhere. -/
theorem lookup_ofEntries_eq_none (root : String) (path : List Nat) (position : Nat) {key : String}
    {entries : List (String × Document)} (h : entryOf? key entries = Option.none) :
    lookup (.newText key) (ofEntries root path position entries) = Option.none := by
  have hrel := lookup_ofEntries root path position key entries
  rw [h] at hrel
  generalize lookup (.newText key) (ofEntries root path position entries) = v at hrel
  cases hrel
  rfl

theorem getElem?_ofDocuments (root : String) (path : List Nat) (position : Nat) (items : List Document) (n : Nat) :
    Option.Rel (IsOf root) items[n]? (ofDocuments root path position items)[n]? := by
  induction items generalizing position n with
  | nil => exact .none
  | cons d items ih =>
      cases n with
      | zero => exact .some ⟨_, rfl⟩
      | succ n => exact ih (position + 1) n

/-- A segment leads to the same part of a document and of its value. -/
theorem step_ofDocument (root : String) (path : List Nat) (d : Document) (segment : String) :
    match d.step segment with
    | .ok part => ∃ v, Path.step (ofDocument root path d) segment = .ok v ∧ Option.Rel (IsOf root) part v
    | .error f => Path.step (ofDocument root path d) segment = .error f := by
  cases d with
  | object entries => exact ⟨_, rfl, lookup_ofEntries root path 0 segment entries⟩
  | list items =>
      simp only [Document.step, ofDocument, Path.step]
      cases Path.position? segment with
      | error f => rfl
      | ok n =>
          cases n with
          | none => exact ⟨_, rfl, .none⟩
          | some n => exact ⟨_, rfl, getElem?_ofDocuments root path 0 items n⟩
  | _ => exact ⟨_, rfl, .none⟩

/-- A path leads to the same part of a document and of its value. -/
theorem walk_ofDocument (root : String) (segments : List String) (path : List Nat) (d : Document) :
    match d.walk segments with
    | .ok part => ∃ v, Path.walk segments (ofDocument root path d) = .ok v ∧ Option.Rel (IsOf root) part v
    | .error f => Path.walk segments (ofDocument root path d) = .error f := by
  induction segments generalizing path d with
  | nil => exact ⟨_, rfl, .some ⟨path, rfl⟩⟩
  | cons segment rest ih =>
      have hstep := step_ofDocument root path d segment
      rw [Document.walk, Path.walk]
      cases hd : d.step segment with
      | error f =>
          rw [hd] at hstep
          rw [hstep]
          rfl
      | ok part =>
          rw [hd] at hstep
          obtain ⟨v, hv, hrel⟩ := hstep
          rw [hv]
          cases hrel with
          | none => exact ⟨_, rfl, .none⟩
          | some h =>
              obtain ⟨inner, rfl⟩ := h
              exact ih inner _

/-- What a path leads to in the value of a document is made of a document that has the same text: the one that it leads
to there, or `null` where it leads nowhere. -/
theorem exists_walk_ofDocument (root : String) (path : List Nat) {d : Document} (hd : d.IsJson)
    {segments : List String} {part : Option Document} (h : d.walk segments = .ok part) :
    ∃ v inner e, Path.walk segments (ofDocument root path d) = .ok v ∧ v.getD .none = ofDocument root inner e ∧
      e.IsJson ∧ (part.map Document.plainText).getD "" = e.plainText := by
  have hwalk := walk_ofDocument root segments path d
  rw [h] at hwalk
  obtain ⟨v, hv, hpart⟩ := hwalk
  cases hpart with
  | none => exact ⟨_, [], .null, hv, rfl, .null, rfl⟩
  | some hsome =>
      obtain ⟨inner, rfl⟩ := hsome
      exact ⟨_, inner, _, hv, rfl, hd.walk h, rfl⟩

end Language.Value

namespace Language.Path

theorem segments_ne_nil (path : String) : segments path ≠ [] := by
  unfold segments Text.splitBy
  rw [Ne, List.map_eq_nil_iff]
  exact List.splitOnP_ne_nil _ _

/-- A path is known by its segments. -/
theorem segments_injective : Function.Injective segments := by
  intro path other h
  have hsplit : path.toList.splitOn '.' = other.toList.splitOn '.' :=
    List.map_injective_iff.2 (fun _ _ => String.ofList_injective) h
  have hjoin : ['.'].intercalate (path.toList.splitOn '.') = other.toList := by
    rw [hsplit, List.intercalate_splitOn]
  rw [List.intercalate_splitOn] at hjoin
  exact String.toList_injective hjoin

/-- A path without points is one segment. -/
theorem segments_of_not_mem {path : String} (h : '.' ∉ path.toList) : segments path = [path] := by
  rw [segments, Text.splitBy, List.splitOn_eq_singleton h, List.map_singleton, String.ofList_toList]

/-- A path of one segment is that segment. -/
theorem eq_of_segments {path first : String} (h : segments path = [first]) : path = first := by
  have hjoin : ['.'].intercalate (path.toList.splitOn '.') = path.toList := List.intercalate_splitOn '.'
  obtain ⟨cs, hcs, rfl⟩ := List.map_eq_singleton_iff.1 h
  rw [hcs, List.intercalate_singleton] at hjoin
  rw [hjoin, String.ofList_toList]

theorem not_mem_of_mem_splitOn {stop : Char} {cs piece : List Char} (h : piece ∈ cs.splitOn stop) : stop ∉ piece := by
  induction cs generalizing piece with
  | nil =>
      rw [List.mem_singleton.1 h]
      exact List.not_mem_nil
  | cons c cs ih =>
      rw [List.splitOn_cons_eq_if_modifyHead] at h
      by_cases hc : c = stop
      · rw [if_pos (by simpa using hc)] at h
        rcases List.mem_cons.1 h with rfl | h
        · exact List.not_mem_nil
        · exact ih h
      · rw [if_neg (by simpa using hc)] at h
        cases hpieces : cs.splitOn stop with
        | nil => exact absurd hpieces (List.splitOn_ne_nil stop cs)
        | cons first pieces =>
            rw [hpieces] at h ih
            rcases List.mem_cons.1 h with rfl | h
            · simp [Ne.symm hc, ih List.mem_cons_self]
            · exact ih (List.mem_cons_of_mem _ h)

/-- A segment of a path is a path of one segment. -/
theorem segments_of_mem {path segment : String} (h : segment ∈ segments path) : segments segment = [segment] := by
  obtain ⟨piece, hpiece, rfl⟩ := List.mem_map.1 h
  refine segments_of_not_mem ?_
  rw [String.toList_ofList]
  exact not_mem_of_mem_splitOn hpiece

end Language.Path

/-! ### Contexts -/

namespace Language.Value

/-- The entries of an object are values of its documents under its keys. -/
theorem exists_ofEntries_eq (root : String) (path : List Nat) (position : Nat) (entries : List (String × Document)) :
    ∃ pairs, ofEntries root path position entries = named (fun _ => .placed root []) pairs ∧
      pairs.map (·.1) = entries.map (·.1) ∧ (∀ p ∈ pairs, ∃ d, IsOf root d p.2) ∧
      ∀ name, Option.Rel (IsOf root) (entryOf? name entries) (entryOf? name pairs) := by
  induction entries generalizing position with
  | nil => exact ⟨[], rfl, rfl, fun p hp => absurd hp List.not_mem_nil, fun _ => .none⟩
  | cons e entries ih =>
      obtain ⟨key, d⟩ := e
      obtain ⟨pairs, hpairs, hkeys, hvalues, hrel⟩ := ih (position + 1)
      refine ⟨(key, ofDocument root (position :: path) d) :: pairs, ?_, ?_, fun p hp => ?_, fun name => ?_⟩
      · rw [ofEntries, hpairs]
        rfl
      · rw [List.map_cons, List.map_cons, hkeys]
      · rcases List.mem_cons.1 hp with rfl | hp
        · exact ⟨d, _, rfl⟩
        · exact hvalues p hp
      · rw [entryOf?, entryOf?]
        split
        · exact .some ⟨_, rfl⟩
        · exact hrel name

end Language.Value

namespace Context

open Courier.Language

theorem rooted_ofDocument (name root : String) (path : List Nat) (d : Document) :
    rooted name (.ofDocument root path d) = .ofDocument root path d := by
  cases d with
  | float x =>
      rw [Value.ofDocument]
      split <;> rfl
  | _ => rfl

/-- The context of an object has the values of its entries. -/
theorem exists_ofValue_ofDocument (root : String) {entries : List (String × Document)}
    (h : (entries.map (·.1)).Nodup) :
    ∃ context, ofValue (.ofDocument root [] (.object entries)) = .ok context ∧
      ∀ name, Option.Rel (Value.IsOf root) (entryOf? name entries) (entryOf? name context) := by
  obtain ⟨pairs, hpairs, hkeys, hvalues, hrel⟩ := Value.exists_ofEntries_eq root [] 0 entries
  have hrooted : (pairs.map fun e => (e.1, rooted e.1 e.2)) = pairs := by
    refine (List.map_congr_left fun e he => ?_).trans (List.map_id _)
    obtain ⟨name, v⟩ := e
    obtain ⟨d, path, rfl⟩ := hvalues (name, v) he
    rw [rooted_ofDocument]
    rfl
  refine ⟨pairs, ?_, hrel⟩
  rw [Value.ofDocument, hpairs, ofValue_named (hkeys ▸ h), hrooted]

end Context

/-! ### Maps that are put together -/

namespace Language.Value

/-- An entry of a map that is made of an entry of an object: its key is that key, and what a template finds under it is
made of that document. -/
def IsEntryOf (d : String × Document) (e : Value × Value) : Prop :=
  (∃ i, e.1 = .text i d.1) ∧ IsMadeOf d.2 (Context.rooted d.1 e.2)

/-- Entries of a map that are made of the entries of an object. -/
abbrev AreEntriesOf (ds : List (String × Document)) (es : List (Value × Value)) : Prop := List.Forall₂ IsEntryOf ds es

theorem areEntriesOf_ofEntries (root : String) (path : List Nat) (position : Nat)
    (entries : List (String × Document)) : AreEntriesOf entries (ofEntries root path position entries) := by
  induction entries generalizing position with
  | nil => exact .nil
  | cons e entries ih =>
      refine .cons ⟨⟨_, rfl⟩, root, position :: path, ?_⟩ (ih (position + 1))
      exact Context.rooted_ofDocument e.1 root (position :: path) e.2

theorem areEntriesOf_texts (pairs : List (String × String)) :
    AreEntriesOf (pairs.map fun p => (p.1, .text p.2)) (pairs.map fun p => (newText p.1, newText p.2)) := by
  induction pairs with
  | nil => exact .nil
  | cons p pairs ih => exact .cons ⟨⟨_, rfl⟩, p.1, [], rfl⟩ ih

theorem areEntriesOf_putKey {ds : List (String × Document)} {es : List (Value × Value)} (h : AreEntriesOf ds es)
    {d : String × Document} {e : Value × Value} (he : IsEntryOf d e) :
    AreEntriesOf (putEntry d.1 d.2 ds) (putKey e.1 e.2 es) := by
  obtain ⟨key, part⟩ := d
  obtain ⟨_, v⟩ := e
  obtain ⟨⟨i, rfl⟩, hv⟩ := he
  induction h with
  | nil => exact .cons ⟨⟨i, rfl⟩, hv⟩ .nil
  | @cons first entry ds es hfirst hrest ih =>
      obtain ⟨other, between⟩ := first
      obtain ⟨_, w⟩ := entry
      obtain ⟨⟨j, rfl⟩, hw⟩ := hfirst
      by_cases hkey : other = key
      · subst hkey
        simp only [putEntry, putKey, alike_text, beq_self_eq_true, if_true]
        exact .cons ⟨⟨j, rfl⟩, hv⟩ hrest
      · simp only [putEntry, putKey, alike_text, beq_eq_false_iff_ne.2 hkey, Bool.false_eq_true, if_false]
        exact .cons ⟨⟨j, rfl⟩, hw⟩ ih

theorem areEntriesOf_putKeys {pairs ds : List (String × Document)} {values es : List (Value × Value)}
    (hpairs : AreEntriesOf pairs values) (h : AreEntriesOf ds es) :
    AreEntriesOf (putEntries pairs ds) (putKeys values es) := by
  induction hpairs generalizing ds es with
  | nil => exact h
  | cons hfirst _ ih => exact ih (areEntriesOf_putKey h hfirst)

end Language.Value

namespace Context

open Courier.Language Courier.Language.Value

/-- What is found under a name in a context that is made of the entries of an object. -/
theorem rel_of_forall₂ {ds : List (String × Document)} {context : Context}
    (h : List.Forall₂ (fun d e => e.1 = d.1 ∧ IsMadeOf d.2 e.2) ds context) (name : String) :
    Option.Rel IsMadeOf (entryOf? name ds) (entryOf? name context) := by
  induction h with
  | nil => exact .none
  | @cons d e ds context hfirst _ ih =>
      obtain ⟨key, part⟩ := d
      obtain ⟨_, v⟩ := e
      obtain ⟨rfl, hv⟩ := hfirst
      simp only [entryOf?]
      split
      · exact .some hv
      · exact ih

theorem exists_mapM_rooted {ds : List (String × Document)} {es : List (Value × Value)} (h : AreEntriesOf ds es) :
    ∃ context : Context, es.mapM (fun (k, w) => match k.text? with
      | some n => Except.ok (n, rooted n w)
      | Option.none => Except.error Fault.keywordsNotText) = .ok context ∧
      List.Forall₂ (fun d e => e.1 = d.1 ∧ IsMadeOf d.2 e.2) ds context := by
  induction h with
  | nil => exact ⟨[], rfl, .nil⟩
  | @cons d e ds entries hfirst _ ih =>
      obtain ⟨_, v⟩ := e
      obtain ⟨⟨i, rfl⟩, hv⟩ := hfirst
      obtain ⟨context, hcontext, hall⟩ := ih
      refine ⟨(d.1, rooted d.1 v) :: context, ?_, .cons ⟨rfl, hv⟩ hall⟩
      rw [List.mapM_cons, hcontext]
      rfl

/-- The context of a map that is made of the entries of an object is made of them too. -/
theorem exists_ofValue_of_areEntriesOf {ds : List (String × Document)} {es : List (Value × Value)}
    (h : AreEntriesOf ds es) (hkeys : (ds.map (·.1)).Nodup) (identity : Identity) :
    ∃ context, ofValue (.map identity es) = .ok context ∧
      ∀ name, Option.Rel IsMadeOf (entryOf? name ds) (entryOf? name context) := by
  have hput : AreEntriesOf ds (Value.putKeys es []) := by
    have hput := areEntriesOf_putKeys h .nil
    rwa [putEntries_of_nodup (by simpa using hkeys), List.nil_append] at hput
  obtain ⟨context, hcontext, hall⟩ := exists_mapM_rooted hput
  exact ⟨context, hcontext, rel_of_forall₂ hall⟩

end Context

end Courier
