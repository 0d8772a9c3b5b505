import Courier.Proofs.Language.Assignment
import Courier.Proofs.Language.Documents

/-! Settled values. A document none of whose containers has changed is settled as it is, and paths lead to the same
parts of it as before. In the settled map at the top a path leads to what it leads to through the maps that were made
for it. -/

namespace Courier.Language

/-- No container of a root has changed. -/
def Changes.Spares (changes : Changes) (root : String) : Prop := ∀ path, changes.find? (.placed root path) = none

theorem Changes.spares_nil (root : String) : Changes.Spares [] root := fun _ => rfl

namespace Value

variable {changes : Changes} {root : String}

theorem one_le_size (v : Value) : 1 ≤ v.size := by
  cases v <;> simp [size]

theorem length_le_sizes (vs : List Value) : vs.length ≤ sizes vs := by
  induction vs with
  | nil => exact Nat.le_refl _
  | cons v vs ih =>
      have hsize := v.one_le_size
      rw [List.length_cons, sizes]
      omega

/-- A container that is not around itself is settled where it stands. -/
theorem levelsUp_of_not_mem {identity : Identity} {ids : List Identity} (h : identity ∉ ids) :
    levelsUp identity ids = Option.none := by
  have hnone : ids.findIdx? (· == identity) = Option.none := by
    rw [List.findIdx?_eq_none_iff]
    intro other hother
    exact beq_false_of_ne fun heq => h (heq ▸ hother)
  rw [levelsUp, hnone]
  split <;> rfl

theorem exists_of_lookup {key v : Value} {entries : List (Value × Value)} (h : lookup key entries = some v) :
    ∃ e ∈ entries, e.2 = v := by
  obtain ⟨e, he, hv⟩ := Option.map_eq_some_iff.1 h
  exact ⟨e, List.mem_of_find?_eq_some he, hv⟩

/-- A look-up among changed entries finds what was changed. -/
theorem lookup_map (key : Value) (f : Value → Value) (entries : List (Value × Value)) :
    lookup key (entries.map fun e => (e.1, f e.2)) = (lookup key entries).map f := by
  rw [lookup, lookup, List.find?_map, Option.map_map, Option.map_map]
  rfl

/-! ### Documents without changes -/

theorem exists_of_mem_ofDocuments {path : List Nat} {position : Nat} {items : List Document} {v : Value}
    (h : v ∈ ofDocuments root path position items) : ∃ n d, v = ofDocument root (n :: path) d := by
  induction items generalizing position with
  | nil => cases h
  | cons d items ih =>
      rcases List.mem_cons.1 h with rfl | h
      · exact ⟨_, _, rfl⟩
      · exact ih h

theorem exists_of_mem_ofEntries {path : List Nat} {position : Nat} {entries : List (String × Document)}
    {e : Value × Value} (h : e ∈ ofEntries root path position entries) :
    ∃ n d, e.2 = ofDocument root (n :: path) d := by
  induction entries generalizing position with
  | nil => cases h
  | cons entry entries ih =>
      rcases List.mem_cons.1 h with rfl | h
      · exact ⟨_, _, rfl⟩
      · exact ih h

theorem current_ofDocument (h : changes.Spares root) (path : List Nat) (d : Document) :
    (ofDocument root path d).current changes = ofDocument root path d := by
  cases d with
  | list items => simp [ofDocument, current, identity?, h path]
  | object entries => simp [ofDocument, current, identity?, h path]
  | _ => rfl

/-- The containers of a document are settled as they are: none of them has changed, and none stands in itself. -/
theorem settleAt_ofDocument (h : changes.Spares root) (fuel : Nat) (ids : List Identity)
    {path : List Nat} (hids : ∀ around, .placed root around ∈ ids → around.length < path.length) (d : Document) :
    settleAt changes fuel ids (ofDocument root path d) = ofDocument root path d := by
  induction fuel generalizing ids path d with
  | zero => rfl
  | succ fuel ih =>
      have hout : Identity.placed root path ∉ ids := fun hin => Nat.lt_irrefl _ (hids path hin)
      have hinner (n : Nat) (d : Document) :
          settleAt changes fuel (.placed root path :: ids) (ofDocument root (n :: path) d) =
            ofDocument root (n :: path) d := by
        refine ih _ (fun around hin => ?_) d
        rcases List.mem_cons.1 hin with heq | hin
        · cases heq
          exact Nat.lt_succ_self _
        · exact Nat.lt_succ_of_lt (hids around hin)
      rw [settleAt, current_ofDocument h]
      cases d with
      | list items =>
          simp only [ofDocument, levelsUp_of_not_mem hout]
          congr 1
          refine (List.map_congr_left fun v hv => ?_).trans (List.map_id _)
          obtain ⟨n, d, rfl⟩ := exists_of_mem_ofDocuments hv
          exact hinner n d
      | object entries =>
          simp only [ofDocument, levelsUp_of_not_mem hout]
          congr 1
          refine (List.map_congr_left fun e he => ?_).trans (List.map_id _)
          obtain ⟨n, d, hd⟩ := exists_of_mem_ofEntries he
          obtain ⟨key, v⟩ := e
          obtain rfl := hd
          rw [hinner]
          rfl
      | _ => rfl

theorem settle_ofDocument (h : changes.Spares root) (d : Document) :
    settle changes (ofDocument root [] d) = ofDocument root [] d := by
  cases changes with
  | nil => rfl
  | cons change changes => exact settleAt_ofDocument h _ [] (fun _ hin => absurd hin List.not_mem_nil) d

end Value

namespace Path

/-! ### Looking up -/

/-- A segment leads to the same part of what is stored, if nothing was set there. -/
theorem stepShared_ofDocument (root : String) (path : List Nat) (d : Document) (segment : String) :
    stepShared [] (.ofDocument root path d) segment = step (.ofDocument root path d) segment := by
  rw [stepShared, Value.current_ofDocument (Changes.spares_nil root)]
  cases d <;> rfl

/-- A path leads to the same part of what is stored, if nothing was set there. -/
theorem walkShared_ofDocument (root : String) (segments : List String) (path : List Nat) (d : Document) :
    walkShared [] segments (.ofDocument root path d) = walk segments (.ofDocument root path d) := by
  induction segments generalizing path d with
  | nil => rfl
  | cons segment rest ih =>
      have hstep := Value.step_ofDocument root path d segment
      rw [walkShared, walk, stepShared_ofDocument]
      split at hstep
      · obtain ⟨v, hv, hrel⟩ := hstep
        rw [hv]
        cases hrel with
        | none => rfl
        | some hof =>
            obtain ⟨inner, rfl⟩ := hof
            exact ih inner _
      · rw [hstep]
        rfl

section

variable {changes : Changes} {roots : List String}

/-- A value that is made of a document, in one of some roots. -/
def IsRooted (roots : List String) (v : Value) : Prop := ∃ root ∈ roots, ∃ d, Value.IsOf root d v

variable (h : ∀ root ∈ roots, changes.Spares root)

include h

theorem IsRooted.stepShared_eq {v : Value} (hv : IsRooted roots v) (segment : String) :
    stepShared changes v segment = stepShared [] v segment := by
  obtain ⟨root, hroot, d, path, rfl⟩ := hv
  rw [stepShared, stepShared, Value.current_ofDocument (h root hroot),
    Value.current_ofDocument (Changes.spares_nil root)]

omit h in
theorem IsRooted.stepShared {v w : Value} (hv : IsRooted roots v) {segment : String}
    (hw : Path.stepShared [] v segment = .ok (some w)) : IsRooted roots w := by
  obtain ⟨root, hroot, d, path, rfl⟩ := hv
  have hstep := Value.step_ofDocument root path d segment
  rw [← stepShared_ofDocument, hw] at hstep
  split at hstep
  · obtain ⟨part, hpart, hrel⟩ := hstep
    cases hpart
    cases hrel with
    | some hof => exact ⟨root, hroot, _, hof⟩
  · cases hstep

theorem IsRooted.walkShared_eq {v : Value} (hv : IsRooted roots v) (segments : List String) :
    walkShared changes segments v = walkShared [] segments v := by
  induction segments generalizing v with
  | nil => rfl
  | cons segment rest ih =>
      rw [walkShared, walkShared, hv.stepShared_eq h]
      cases hstep : Path.stepShared [] v segment with
      | error f => rfl
      | ok part =>
          cases part with
          | none => rfl
          | some w => exact ih (hv.stepShared hstep)

omit h in
theorem IsRooted.walkShared {v w : Value} (hv : IsRooted roots v) {segments : List String}
    (hw : Path.walkShared [] segments v = .ok (some w)) : IsRooted roots w := by
  induction segments generalizing v with
  | nil =>
      cases hw
      exact hv
  | cons segment rest ih =>
      rw [Path.walkShared] at hw
      cases hstep : Path.stepShared [] v segment with
      | error f =>
          rw [hstep] at hw
          cases hw
      | ok part =>
          rw [hstep] at hw
          cases part with
          | none => cases hw
          | some u => exact ih (hv.stepShared hstep) hw

omit h in
theorem walkShared_newMap (changes : Changes) (segment : String) (rest : List String)
    (entries : List (Value × Value)) : walkShared changes (segment :: rest) (.newMap entries) =
      match Value.lookup (.newText segment) entries with
      | some w => walkShared changes rest w
      | none => .ok none := rfl

/-- What a map of documents has at a path does not depend on changes of other maps. -/
theorem find_newMap_eq {entries : List (Value × Value)} (hentries : ∀ e ∈ entries, IsRooted roots e.2) (path : String)
    (default : Value) : find changes (.newMap entries) path default = find [] (.newMap entries) path default := by
  have hwalk : walkShared changes (segments path) (.newMap entries) =
      walkShared [] (segments path) (.newMap entries) := by
    obtain ⟨segment, rest, hsegments⟩ := List.exists_cons_of_ne_nil (segments_ne_nil path)
    rw [hsegments, walkShared_newMap, walkShared_newMap]
    cases hlookup : Value.lookup (.newText segment) entries with
    | none => rfl
    | some w =>
        obtain ⟨e, he, rfl⟩ := Value.exists_of_lookup hlookup
        exact (hentries e he).walkShared_eq h rest
  rw [find, find, hwalk]
  rfl

omit h in
/-- What a map of documents has at a path is made of a document. -/
theorem find_newMap {entries : List (Value × Value)} (hentries : ∀ e ∈ entries, IsRooted roots e.2) {path : String}
    {default v : Value} (hv : find [] (.newMap entries) path default = .ok v) : v = default ∨ IsRooted roots v := by
  rw [find] at hv
  cases hwhole : wholeKey? [] (.newMap entries) path with
  | some w =>
      rw [hwhole] at hv
      cases hv
      obtain ⟨e, he, rfl⟩ := Value.exists_of_lookup (show Value.lookup (.newText path) entries = some v from hwhole)
      exact Or.inr (hentries e he)
  | none =>
      rw [hwhole] at hv
      obtain ⟨segment, rest, hsegments⟩ := List.exists_cons_of_ne_nil (segments_ne_nil path)
      rw [hsegments, walkShared_newMap] at hv
      cases hlookup : Value.lookup (.newText segment) entries with
      | none =>
          rw [hlookup] at hv
          cases hv
          exact Or.inl rfl
      | some w =>
          obtain ⟨e, he, rfl⟩ := Value.exists_of_lookup hlookup
          rw [hlookup] at hv
          cases hrest : Path.walkShared [] rest e.2 with
          | error f =>
              simp only [hrest] at hv
              cases hv
          | ok part =>
              simp only [hrest] at hv
              cases hv
              cases part with
              | none => exact Or.inl rfl
              | some u => exact Or.inr ((hentries e he).walkShared hrest)

end

/-! ### The settled map at the top -/

section

variable {t : Top} {place : Owner → List String} {maps : List String → Prop} {changes : Changes} {o : Owner}
  {path : List String} {w : Value}

/-- Only the map at the top and those that are made on the way change. -/
theorem Arranged.spares (h : Arranged t place maps changes) {root : String} (htop : root ≠ t.root)
    (hmade : root ≠ "made") : changes.Spares root := by
  refine fun path => h.others _ fun o => ?_
  cases o <;> simp [Top.identity, htop, hmade]

/-- A path is no longer than the changes that it took to make the maps on it. -/
theorem Leads.length_le (hleads : Leads t changes w o path) (h : Arranged t place maps changes)
    (hused : o.IsUsed changes.length) : (place o).length + path.length ≤ changes.length + 1 := by
  induction hleads with
  | last => exact Nat.succ_le_succ (h.length_place_le hused)
  | inner hlookup _ ih =>
      obtain ⟨hn, hmade⟩ := h.made hlookup
      have hlength := ih hn
      rw [hmade, List.length_append] at hlength
      simp only [List.length_cons, List.length_nil] at hlength ⊢
      omega

/-- A map that is not around itself is settled with its present content. -/
theorem Arranged.settleAt_value (h : Arranged t place maps changes) {ids : List Identity}
    (hids : ∀ i ∈ ids, ∃ around : Owner, i = t.identity around ∧ (place around).length < (place o).length)
    (fuel : Nat) : Value.settleAt changes (fuel + 1) ids (t.value o) = .map (t.identity o)
      ((t.held changes o).map fun e => (e.1, Value.settleAt changes fuel (t.identity o :: ids) e.2)) := by
  have hout : t.identity o ∉ ids := by
    intro hin
    obtain ⟨around, heq, hlength⟩ := hids _ hin
    obtain rfl := t.identity_injective heq
    exact Nat.lt_irrefl _ hlength
  rw [Value.settleAt, h.current o]
  simp only [Value.levelsUp_of_not_mem hout]

/-- A path leads to the same part of a settled map, if that part is settled as it is. -/
theorem Leads.walk_settleAt (hleads : Leads t changes w o path) (h : Arranged t place maps changes)
    (hused : o.IsUsed changes.length) {fuel : Nat} (hfuel : path.length ≤ fuel) {ids : List Identity}
    (hids : ∀ i ∈ ids, ∃ around : Owner, i = t.identity around ∧ (place around).length < (place o).length)
    (hw : ∀ fuel ids, (∀ i ∈ ids, ∃ around, i = t.identity around) → Value.settleAt changes fuel ids w = w) :
    walk path (Value.settleAt changes fuel ids (t.value o)) = .ok (some w) := by
  induction hleads generalizing fuel ids with
  | @last o key hlookup =>
      obtain ⟨fuel, rfl⟩ := Nat.exists_eq_succ_of_ne_zero (Nat.one_le_iff_ne_zero.1 hfuel)
      rw [h.settleAt_value hids, walk, step, Value.lookup_map, hlookup]
      show Except.ok (some (Value.settleAt changes fuel (t.identity o :: ids) w)) = _
      rw [hw fuel _ (List.forall_mem_cons.2 ⟨⟨o, rfl⟩, fun i hi => (hids i hi).imp fun _ h => h.1⟩)]
  | @inner o key rest n hlookup _ ih =>
      obtain ⟨fuel, rfl⟩ := Nat.exists_eq_succ_of_ne_zero (Nat.ne_of_gt (Nat.lt_of_lt_of_le (Nat.succ_pos _) hfuel))
      obtain ⟨hn, hmade⟩ := h.made hlookup
      have hlength : (place o).length < (place (.made n)).length := by simp [hmade]
      rw [h.settleAt_value hids, walk, step, Value.lookup_map, hlookup]
      refine ih hn (Nat.le_of_succ_le_succ hfuel) (List.forall_mem_cons.2 ⟨⟨o, rfl, hlength⟩, fun i hi => ?_⟩)
      obtain ⟨around, hi, haround⟩ := hids i hi
      exact ⟨around, hi, haround.trans hlength⟩

/-- A path from the top leads to what it leads to in the settled map, if that is settled as it is. -/
theorem Leads.walk_settle (hleads : Leads t changes w .top path) (h : Arranged t place maps changes)
    (hw : ∀ fuel ids, (∀ i ∈ ids, ∃ around, i = t.identity around) → Value.settleAt changes fuel ids w = w) :
    walk path ((t.value .top).settle changes) = .ok (some w) := by
  have hlength := hleads.length_le h trivial
  rw [h.top, List.length_nil, Nat.zero_add] at hlength
  cases changes with
  | nil =>
      -- without changes no map has been made, so that the path is a key of the top
      cases hleads with
      | last hlookup =>
          rw [Value.settle_nil, Top.value, walk, step, show Value.lookup _ t.entries = some w from hlookup]
          rfl
      | inner hlookup _ => exact absurd (h.made hlookup).1 (Nat.not_lt_zero _)
  | cons change changes =>
      have hsizes := Value.length_le_sizes ((change :: changes).map (·.2))
      rw [List.length_map] at hsizes
      exact hleads.walk_settleAt h trivial (by omega) (List.forall_mem_nil _) hw

end

end Path

end Courier.Language
