import Courier.Proofs.Results
import Courier.Proofs.Text.Percent
import Courier.Url.Address

/-! The query of some pairs is read as those pairs, in their order, whatever the names and values are: the signs
between and in the pairs are no characters of forms, so that the query is cut where it was put together. -/

namespace Courier.Url

open Courier.Text

theorem exists_of_writePair {name value piece : String} (h : writePair name value = .ok piece) :
    ∃ n v, formText name = .ok n ∧ formText value = .ok v ∧ piece.toList = n.toList ++ '=' :: v.toList := by
  obtain ⟨n, hn, h⟩ := exists_of_bind_ok h
  obtain ⟨v, hv, h⟩ := exists_of_bind_ok h
  cases h
  exact ⟨n, v, hn, hv, by simp⟩

theorem not_mem_of_formText {s t : String} (h : formText s = .ok t) {c : Char} (hc : isFormChar c = false) :
    c ∉ t.toList := by
  intro hin
  rw [isFormChar_of_formText h c hin] at hc
  cases hc

/-- The characters of a query that was written. -/
def isQueryChar (c : Char) : Bool := isFormChar c || c == '=' || c == '&'

theorem isQueryChar_of_writePair {name value piece : String} (h : writePair name value = .ok piece) {c : Char}
    (hc : c ∈ piece.toList) : isFormChar c ∨ c = '=' := by
  obtain ⟨n, v, hn, hv, hpiece⟩ := exists_of_writePair h
  rw [hpiece, List.mem_append, List.mem_cons] at hc
  rcases hc with hc | rfl | hc
  · exact Or.inl (isFormChar_of_formText hn c hc)
  · exact Or.inr rfl
  · exact Or.inl (isFormChar_of_formText hv c hc)

theorem toList_join (pieces : List String) :
    (join "&" pieces).toList = ['&'].intercalate (pieces.map String.toList) :=
  String.toList_intercalate

/-- A pair of a query, read from its piece. -/
def readPair (piece : String) : String × String :=
  (ofFormText (String.ofList (piece.toList.takeWhile (· != '='))),
    ofFormText (String.ofList ((piece.toList.dropWhile (· != '=')).drop 1)))

theorem readPair_of_writePair {name value piece : String} (h : writePair name value = .ok piece) :
    readPair piece = (name, value) := by
  obtain ⟨n, v, hn, hv, hpiece⟩ := exists_of_writePair h
  have hname : ∀ c ∈ n.toList, (c != '=') = true := fun c hc =>
    bne_iff_ne.2 fun heq => not_mem_of_formText hn (c := '=') rfl (heq ▸ hc)
  have htake : (n.toList ++ '=' :: v.toList).takeWhile (· != '=') = n.toList := by
    rw [List.takeWhile_append_of_pos hname]
    simp
  have hdrop : (n.toList ++ '=' :: v.toList).dropWhile (· != '=') = '=' :: v.toList := by
    rw [List.dropWhile_append_of_pos hname]
    simp
  simp only [readPair, hpiece, htake, hdrop, List.drop_succ_cons, List.drop_zero, String.ofList_toList,
    ofFormText_formText hn, ofFormText_formText hv]

theorem mem_intercalate {separator c : Char} {pieces : List (List Char)} (h : c ∈ [separator].intercalate pieces) :
    c = separator ∨ ∃ piece ∈ pieces, c ∈ piece := by
  induction pieces with
  | nil => cases h
  | cons piece rest ih =>
      cases rest with
      | nil => exact Or.inr ⟨piece, List.mem_cons_self, by simpa using h⟩
      | cons next rest =>
          rw [List.intercalate_cons_cons, List.append_assoc, List.mem_append, List.singleton_append, List.mem_cons] at h
          rcases h with h | rfl | h
          · exact Or.inr ⟨piece, List.mem_cons_self, h⟩
          · exact Or.inl rfl
          · refine (ih h).imp id fun ⟨p, hp, hc⟩ => ⟨p, List.mem_cons_of_mem _ hp, hc⟩

/-- Each piece of a query that was written is the piece of a pair. -/
theorem isQueryChar_of_writeQuery {pairs : List (String × String)} {query : String} (h : writeQuery pairs = .ok query) :
    ∀ c ∈ query.toList, isQueryChar c := by
  obtain ⟨pieces, hpieces, h⟩ := exists_of_bind_ok h
  cases h
  intro c hc
  rw [toList_join] at hc
  rcases mem_intercalate hc with rfl | ⟨_, hpiece, hc⟩
  · rfl
  · obtain ⟨piece, hin, rfl⟩ := List.mem_map.1 hpiece
    obtain ⟨pair, hpair⟩ := exists_of_mem_forall₂ (forall₂_of_mapM hpieces).flip hin
    rcases isQueryChar_of_writePair hpair hc with hform | rfl
    · simp [isQueryChar, hform]
    · rfl

theorem readPairs_of_forall₂ {pairs : List (String × String)} {pieces : List String}
    (h : List.Forall₂ (fun pair piece => writePair pair.1 pair.2 = .ok piece) pairs pieces) :
    (pieces.filter fun piece => !piece.isEmpty).map readPair = pairs := by
  induction h with
  | nil => rfl
  | @cons pair piece _ _ hpair _ ih =>
      have hne : piece.isEmpty = false := by
        obtain ⟨n, v, -, -, hpiece⟩ := exists_of_writePair hpair
        refine Bool.eq_false_iff.2 fun hempty => ?_
        rw [String.isEmpty_iff.1 hempty] at hpiece
        simp at hpiece
      rw [List.filter_cons_of_pos (by simp [hne]), List.map_cons, readPair_of_writePair hpair, ih]

/-- A query is read piece by piece. -/
theorem readQuery_join {pieces : List String} (h : ∀ piece ∈ pieces, '&' ∉ piece.toList) :
    readQuery (join "&" pieces) = (pieces.filter fun piece => !piece.isEmpty).map readPair := by
  cases pieces with
  | nil => rfl
  | cons piece rest =>
      have hsign : ∀ cs ∈ (piece :: rest).map String.toList, '&' ∉ cs := by
        intro cs hcs
        obtain ⟨p, hp, rfl⟩ := List.mem_map.1 hcs
        exact h p hp
      have hcut : splitBy '&' (join "&" (piece :: rest)) = piece :: rest := by
        rw [splitBy, toList_join, List.splitOn_intercalate _ hsign (List.cons_ne_nil _ _), List.map_map]
        exact (List.map_congr_left fun p _ => String.ofList_toList).trans (List.map_id _)
      show ((splitBy '&' (join "&" (piece :: rest))).filter fun p => !p.isEmpty).map readPair = _
      rw [hcut]

/-- The query of some pairs is read as those pairs. -/
theorem readQuery_writeQuery {pairs : List (String × String)} {query : String} (h : writeQuery pairs = .ok query) :
    readQuery query = pairs := by
  obtain ⟨pieces, hpieces, h⟩ := exists_of_bind_ok h
  cases h
  have hall := forall₂_of_mapM hpieces
  have hsign : ∀ piece ∈ pieces, '&' ∉ piece.toList := by
    intro piece hpiece hin
    obtain ⟨pair, hpair⟩ := exists_of_mem_forall₂ hall.flip hpiece
    rcases isQueryChar_of_writePair hpair hin with hform | hform
    · exact absurd hform (by decide)
    · exact absurd hform (by decide)
  rw [readQuery_join hsign, readPairs_of_forall₂ hall]

end Courier.Url
