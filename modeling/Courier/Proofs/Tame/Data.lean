import Courier.Proofs.Tame.Steps
import Courier.Step
import Courier.Template.Render

/-! Data that programs only read: values of JSON, and values that come to rest without a stream among them. -/

namespace Courier

open Courier.Language

namespace Language.Value

/-! ### Values -/

mutual

/-- Whether a value that comes to rest is a stream or has one in it. -/
def holdsStream : Value → Bool
  | tuple _ items | list _ items => anyHoldsStream items
  | map _ entries => anyEntryHoldsStream entries
  | view _ _ owner => owner.holdsStream
  | stream _ _ _ => true
  | _ => false

def anyHoldsStream : List Value → Bool
  | [] => false
  | v :: rest => v.holdsStream || anyHoldsStream rest

def anyEntryHoldsStream : List (Value × Value) → Bool
  | [] => false
  | (_, v) :: rest => v.holdsStream || anyEntryHoldsStream rest

end

/-- Whether reading a value that rests at a place changes nothing, and calling it does not either. -/
def isInert (v : Value) : Bool := !v.holdsStream && v.isIdle

/-- A value that programs may find under any name. -/
structure IsDatum (v : Value) : Prop where
  isTame : v.IsTame
  isIdle : v.isIdle

theorem IsDatum.suits {v : Value} (h : v.IsDatum) (slot : String) : Suits slot v := suits_of_isIdle slot h.isTame h.isIdle

mutual

theorem isTame_ofDocument (root : String) (path : List Nat) (d : Document) : (ofDocument root path d).IsTame := by
  cases d with
  | list items =>
    simp only [ofDocument, IsTame]
    exact areTame_ofDocuments root path 0 items
  | object entries =>
    simp only [ofDocument, IsTame]
    exact entriesAreTame_ofEntries root path 0 entries
  | _ => simp [ofDocument]

theorem areTame_ofDocuments (root : String) (path : List Nat) (position : Nat) (items : List Document) :
    AreTame (ofDocuments root path position items) := by
  cases items with
  | nil => trivial
  | cons d items =>
    exact ⟨isTame_ofDocument root (position :: path) d, areTame_ofDocuments root path (position + 1) items⟩

theorem entriesAreTame_ofEntries (root : String) (path : List Nat) (position : Nat)
    (entries : List (String × Document)) : EntriesAreTame (ofEntries root path position entries) := by
  cases entries with
  | nil => trivial
  | cons e entries =>
    exact ⟨⟨by simp, isTame_ofDocument root (position :: path) e.2⟩,
      entriesAreTame_ofEntries root path (position + 1) entries⟩

end

mutual

theorem holdsStream_ofDocument (root : String) (path : List Nat) (d : Document) :
    (ofDocument root path d).holdsStream = false := by
  cases d with
  | list items => exact anyHoldsStream_ofDocuments root path 0 items
  | object entries => exact anyEntryHoldsStream_ofEntries root path 0 entries
  | _ => rfl

theorem anyHoldsStream_ofDocuments (root : String) (path : List Nat) (position : Nat) (items : List Document) :
    anyHoldsStream (ofDocuments root path position items) = false := by
  cases items with
  | nil => rfl
  | cons d items =>
    exact Bool.or_eq_false_iff.2 ⟨holdsStream_ofDocument root (position :: path) d,
      anyHoldsStream_ofDocuments root path (position + 1) items⟩

theorem anyEntryHoldsStream_ofEntries (root : String) (path : List Nat) (position : Nat)
    (entries : List (String × Document)) : anyEntryHoldsStream (ofEntries root path position entries) = false := by
  cases entries with
  | nil => rfl
  | cons e entries =>
    exact Bool.or_eq_false_iff.2 ⟨holdsStream_ofDocument root (position :: path) e.2,
      anyEntryHoldsStream_ofEntries root path (position + 1) entries⟩

end

/-- Values of JSON are no streams and cannot be called. -/
theorem isInert_ofDocument (root : String) (path : List Nat) (d : Document) : (ofDocument root path d).isInert := by
  have hidle : (ofDocument root path d).isIdle := by cases d <;> rfl
  simp [isInert, holdsStream_ofDocument, hidle]

/-- Values of JSON are data. -/
theorem isDatum_ofDocument (root : String) (path : List Nat) (d : Document) : (ofDocument root path d).IsDatum := by
  refine ⟨isTame_ofDocument root path d, ?_⟩
  cases d <;> rfl

mutual

theorem isTame_place (root : String) (path : List Nat) (v : Value) (h : v.IsTame) (hstream : v.holdsStream = false) :
    (v.place root path).IsTame := by
  cases v with
  | tuple names items =>
    simp only [place, IsTame] at h ⊢
    exact areTame_placeAll root path 0 items h hstream
  | list identity items =>
    simp only [place, IsTame] at h ⊢
    exact areTame_placeAll root path 0 items h hstream
  | map identity entries =>
    simp only [place, IsTame] at h ⊢
    exact entriesAreTame_placeEntries root path 0 entries h hstream
  | view identity kind owner =>
    simp only [place, IsTame] at h ⊢
    exact isTame_place root path owner h hstream
  | stream identity type left => cases hstream
  | int _ _ | float _ _ | text _ _ => simp [place]
  | _ => exact h

theorem areTame_placeAll (root : String) (path : List Nat) (position : Nat) (vs : List Value) (h : AreTame vs)
    (hstream : anyHoldsStream vs = false) : AreTame (placeAll root path position vs) := by
  cases vs with
  | nil => trivial
  | cons v vs =>
    rw [anyHoldsStream, Bool.or_eq_false_iff] at hstream
    exact ⟨isTame_place root (position :: path) v h.1 hstream.1,
      areTame_placeAll root path (position + 1) vs h.2 hstream.2⟩

theorem entriesAreTame_placeEntries (root : String) (path : List Nat) (position : Nat) (entries : List (Value × Value))
    (h : EntriesAreTame entries) (hstream : anyEntryHoldsStream entries = false) :
    EntriesAreTame (placeEntries root path position entries) := by
  cases entries with
  | nil => trivial
  | cons e entries =>
    rw [anyEntryHoldsStream, Bool.or_eq_false_iff] at hstream
    exact ⟨⟨h.1.1, isTame_place root (position :: path) e.2 h.1.2 hstream.1⟩,
      entriesAreTame_placeEntries root path (position + 1) entries h.2 hstream.2⟩

end

/-- What comes to rest is a datum, unless it is a stream or can be called. -/
theorem isDatum_place {v : Value} (h : v.IsTame) (hinert : v.isInert) (root : String) (path : List Nat) :
    (v.place root path).IsDatum := by
  simp only [isInert, Bool.and_eq_true, Bool.not_eq_true'] at hinert
  refine ⟨isTame_place root path v h hinert.1, ?_⟩
  cases v <;> exact hinert.2

/-! ### Maps of values -/

/-- The data of a program: a map of values that are no streams and cannot be called. -/
def IsData (v : Value) : Prop := ∃ identity entries, v = .map identity entries ∧ ∀ e ∈ entries, e.2.IsDatum

/-- The values alone are data, whatever the keys are. -/
theorem forall_isDatum_putKey (key : Value) {v : Value} (hv : v.IsDatum) {entries : List (Value × Value)}
    (h : ∀ e ∈ entries, e.2.IsDatum) : ∀ e ∈ putKey key v entries, e.2.IsDatum := fun e he =>
  (forall_putKey (P := fun _ => True) trivial hv (fun e he => ⟨trivial, h e he⟩) e he).2

theorem forall_isDatum_putKeys {pairs entries : List (Value × Value)} (hpairs : ∀ e ∈ pairs, e.2.IsDatum)
    (h : ∀ e ∈ entries, e.2.IsDatum) : ∀ e ∈ putKeys pairs entries, e.2.IsDatum := fun e he =>
  (forall_putKeys (P := fun _ => True) (fun e he => ⟨trivial, hpairs e he⟩) (fun e he => ⟨trivial, h e he⟩) e he).2

theorem isData_newMap {entries : List (Value × Value)} (h : ∀ e ∈ entries, e.2.IsDatum) : (newMap entries).IsData :=
  ⟨_, _, rfl, h⟩

theorem forall_ofEntries (root : String) (path : List Nat) (position : Nat) (entries : List (String × Document)) :
    ∀ e ∈ ofEntries root path position entries, e.2.IsDatum := by
  induction entries generalizing position with
  | nil => exact List.forall_mem_nil _
  | cons e entries ih => exact List.forall_mem_cons.2 ⟨isDatum_ofDocument _ _ _, ih _⟩

/-- The data of a caller are entries of JSON. -/
theorem isData_ofDocument (root : String) (path : List Nat) (entries : List (String × Document)) :
    (ofDocument root path (.object entries)).IsData :=
  ⟨_, _, rfl, forall_ofEntries root path 0 entries⟩

end Language.Value

namespace Context

theorem isDatum_rooted {v : Value} (h : v.IsDatum) (name : String) : (rooted name v).IsDatum := by
  unfold rooted
  split
  · exact ⟨by simp, rfl⟩
  · exact ⟨by simp, rfl⟩
  · exact ⟨by simp, rfl⟩
  · exact h

/-- What data stand for are values that are no streams and cannot be called. -/
theorem gives_ofValue {v : Value} (h : v.IsData) : Gives (fun context => ∀ e ∈ context, e.2.IsDatum) (ofValue v) := by
  obtain ⟨identity, entries, rfl, h⟩ := h
  refine gives_mapM (P := fun e => e.2.IsDatum) (fun e he => ?_) (Value.forall_isDatum_putKeys h (List.forall_mem_nil _))
  obtain ⟨k, w⟩ := e
  dsimp only
  split
  · exact gives_ok (isDatum_rooted he _)
  · exact gives_error _

/-- What names stand for is what it may be. -/
theorem suits_find {context : Context} (h : ∀ e ∈ context, e.2.IsDatum) (name : String) :
    ∀ v ∈ context.find name, Suits (Scope.slot name) v := by
  intro v hv
  unfold find at hv
  cases hentry : entryOf? name context with
  | some w =>
      rw [hentry] at hv
      cases hv
      exact (h _ (mem_of_entryOf? hentry)).suits _
  | none =>
      rw [hentry] at hv
      obtain ⟨b, -, rfl⟩ := Option.map_eq_some_iff.1 hv
      exact suits_of_isIdle _ (by simp) rfl

theorem suits_findInTemplate {context : Context} (h : ∀ e ∈ context, e.2.IsDatum) (name : String) :
    ∀ v ∈ context.findInTemplate name, Suits (Scope.slot name) v := by
  intro v hv
  unfold findInTemplate at hv
  cases hentry : entryOf? name context with
  | some w =>
      rw [hentry] at hv
      cases hv
      exact (h _ (mem_of_entryOf? hentry)).suits _
  | none =>
      rw [hentry] at hv
      change v ∈ (if name == Template.lookupName then some (.builtin .pathLookup)
        else (builtin? name).map .builtin) at hv
      split at hv
      · cases hv
        exact suits_of_isIdle _ (by simp) rfl
      · obtain ⟨b, -, rfl⟩ := Option.map_eq_some_iff.1 hv
        exact suits_of_isIdle _ (by simp) rfl

end Context

end Courier
