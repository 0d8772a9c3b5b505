import Courier.Document.Path
import Courier.Proofs.Language.Documents

/-! Setting and finding the ends of paths. A path that was set leads to what it was set to. Another path leads where it
led before, if neither goes on from the other and no list stands where the two part or on the way there: what is no
object gives way to one, and a list is the only other thing that something can be found in. -/

namespace Courier.Document

open Courier.Language Courier.Language.Path

variable {entries old new after : List (String × Document)} {key first : String} {path other rest : List String}
  {part : Document}

/-! ### Setting -/

/-- The ways to set the end of a path: under its only key, or below its first key, in the object that stands there or in
an empty one in the place of what is no object. -/
inductive Assigned (part : Document) :
    List String → List (String × Document) → List (String × Document) → Prop
  | last (key : String) (entries : List (String × Document)) :
      Assigned part [key] entries (putEntry key part entries)
  | inner {key : String} {rest : List String} {entries old new : List (String × Document)}
      (hinner : Document.inner entries key = .object old) (hrest : Assigned part rest old new) :
      Assigned part (key :: rest) entries (putEntry key (.object new) entries)

/-- What is gone into below a key is the object that stands there, or an empty object where none stands. -/
theorem inner_spec (h : inner entries key = .object old) :
    entryOf? key entries = some (.object old) ∨ old = [] ∧ ∀ found, entryOf? key entries ≠ some (.object found) := by
  unfold inner at h
  split at h
  · rename_i found hfound
    cases h
    exact Or.inl hfound
  · rename_i hnone
    cases h
    exact Or.inr ⟨rfl, fun found hfound => hnone found hfound⟩

theorem exists_inner (entries : List (String × Document)) (key : String) : ∃ old, inner entries key = .object old := by
  unfold inner
  split
  · exact ⟨_, rfl⟩
  · exact ⟨[], rfl⟩

/-- A path can be set in every object, and there is one way to do it. -/
theorem exists_assigned (part : Document) (hne : path ≠ []) (entries : List (String × Document)) :
    ∃ after, assign path (.object entries) part = .ok (.object after) ∧ Assigned part path entries after := by
  induction path generalizing entries with
  | nil => exact absurd rfl hne
  | cons key rest ih =>
      cases rest with
      | nil => exact ⟨_, rfl, .last key entries⟩
      | cons next rest =>
          obtain ⟨old, hinner⟩ := exists_inner entries key
          obtain ⟨new, hnew, hassigned⟩ := ih (List.cons_ne_nil _ _) old
          refine ⟨_, ?_, .inner hinner hassigned⟩
          rw [assign, hinner, hnew]
          · rfl
          · exact fun h => absurd h (List.cons_ne_nil _ _)

namespace Assigned

/-- Setting a path changes one entry of an object: that of its first key. -/
theorem entryOf?_of_ne (h : Assigned part (key :: rest) entries after) (hne : first ≠ key) :
    entryOf? first after = entryOf? first entries := by
  cases h with
  | last => exact entryOf?_putEntry_of_ne hne _ _
  | inner => exact entryOf?_putEntry_of_ne hne _ _

/-- A path leads to what it was set to. -/
theorem walk (h : Assigned part path entries after) : Document.walk path (.object after) = .ok (some part) := by
  induction h with
  | last key entries =>
      rw [walk_object_cons, entryOf?_putEntry_self]
      rfl
  | inner _ _ ih =>
      rw [walk_object_cons, entryOf?_putEntry_self]
      exact ih

end Assigned

/-! ### Paths that part -/

/-- No list stands where two paths part, nor behind the first key of their common way. -/
def PartsWithoutLists (d : Document) (path other : List String) : Prop :=
  ∀ shared, shared ≠ [] → shared <+: path → shared <+: other → ∀ items, d.walk shared ≠ .ok (some (.list items))

/-- In what is neither an object nor a list nothing is found. -/
theorem walk_of_single {d : Document} (hobject : ∀ found, d ≠ .object found) (hlist : ∀ items, d ≠ .list items)
    (first : String) (rest : List String) : d.walk (first :: rest) = .ok none := by
  cases d with
  | object found => exact absurd rfl (hobject found)
  | list items => exact absurd rfl (hlist items)
  | _ => rfl

/-- Below a key a path leads where it leads in the object that is gone into, if no list stands under the key. -/
theorem walk_inner (hinner : inner entries key = .object old)
    (hlist : ∀ items, entryOf? key entries ≠ some (.list items)) (first : String) (rest : List String) :
    (Document.object entries).walk (key :: first :: rest) = (Document.object old).walk (first :: rest) := by
  rw [walk_object_cons]
  rcases inner_spec hinner with hold | ⟨rfl, hobject⟩
  · rw [hold]
  · cases hentry : entryOf? key entries with
    | none => rfl
    | some d =>
        refine walk_of_single (fun found heq => hobject found ?_) (fun items heq => hlist items ?_) first rest
        · rw [hentry, heq]
        · rw [hentry, heq]

/-- No list stands under a key that two paths share, if they part without lists. -/
theorem PartsWithoutLists.entryOf?_ne (h : (Document.object entries).PartsWithoutLists (key :: path) (key :: other))
    (items : List Document) : entryOf? key entries ≠ some (.list items) := by
  intro hentry
  refine h [key] (List.cons_ne_nil _ _) (by simp) (by simp) items ?_
  rw [walk_object_cons, hentry]
  rfl

/-- Below the key that two paths share they part without lists too. -/
theorem PartsWithoutLists.below (h : (Document.object entries).PartsWithoutLists (key :: path) (key :: other))
    (hinner : inner entries key = .object old) : (Document.object old).PartsWithoutLists path other := by
  intro shared hne hpath hother items hwalk
  obtain ⟨first, rest, rfl⟩ := List.exists_cons_of_ne_nil hne
  refine h (key :: first :: rest) (List.cons_ne_nil _ _) ?_ ?_ items ?_
  · exact (List.prefix_cons_inj key).2 hpath
  · exact (List.prefix_cons_inj key).2 hother
  · rw [walk_inner hinner h.entryOf?_ne, hwalk]

/-- Setting a path changes nothing of what another leads to, if neither goes on from the other and they part without
lists. -/
theorem Assigned.walk_eq (h : Assigned part path entries after) (hpath : ¬ path <+: other) (hother : ¬ other <+: path)
    (hparts : (Document.object entries).PartsWithoutLists path other) :
    Document.walk other (.object after) = Document.walk other (.object entries) := by
  induction h generalizing other with
  | last key entries =>
      cases other with
      | nil => exact absurd List.nil_prefix hother
      | cons first rest =>
          have hne : first ≠ key := by
            rintro rfl
            exact hpath (by simp)
          rw [walk_object_cons, walk_object_cons, entryOf?_putEntry_of_ne hne]
  | @inner key path entries old new hinner hassigned ih =>
      cases other with
      | nil => exact absurd List.nil_prefix hother
      | cons first rest =>
          by_cases hne : first = key
          · subst hne
            rw [List.prefix_cons_inj] at hpath hother
            cases rest with
            | nil => exact absurd List.nil_prefix hother
            | cons next rest =>
                calc Document.walk (first :: next :: rest) (.object (putEntry first (.object new) entries))
                    = Document.walk (next :: rest) (.object new) := by
                      rw [walk_object_cons, entryOf?_putEntry_self]
                  _ = Document.walk (next :: rest) (.object old) := ih hpath hother (hparts.below hinner)
                  _ = Document.walk (first :: next :: rest) (.object entries) :=
                      (walk_inner hinner hparts.entryOf?_ne next rest).symm
          · rw [walk_object_cons, walk_object_cons, entryOf?_putEntry_of_ne hne]

/-! ### Finding what was set -/

/-- A path that was set is found to lead to what it was set to, unless the whole path with its dots is a key that is
found before its segments. Every other path that neither goes on from it nor leads to it is found as it was before,
where no list stands on what the two share. -/
theorem find_assign (entries : List (String × Document)) (path : String) (part : Document) :
    ∃ after, assign (segments path) (.object entries) part = .ok (.object after) ∧
      ('.' ∉ path.toList ∨ entryOf? path entries = none →
        ∀ default, (Document.object after).find path default = .ok part) ∧
      ∀ other, ¬ segments path <+: segments other → ¬ segments other <+: segments path →
        (Document.object entries).PartsWithoutLists (segments path) (segments other) →
        ∀ default, (Document.object after).find other default = (Document.object entries).find other default := by
  obtain ⟨after, hassign, hassigned⟩ := exists_assigned part (segments_ne_nil path) entries
  obtain ⟨key, rest, hsegments⟩ := List.exists_cons_of_ne_nil (segments_ne_nil path)
  have hkey : segments key = [key] := segments_of_mem (by rw [hsegments]; exact List.mem_cons_self)
  have hwalk : Document.walk (segments path) (.object after) = .ok (some part) := hassigned.walk
  refine ⟨after, hassign, fun hwhole default => ?_, fun other hpath hother hparts default => ?_⟩
  · by_cases hwholekey : path = key
    · subst hwholekey
      rw [hkey] at hassigned
      cases hassigned with
      | last => rw [find, get?, entryOf?_putEntry_self]
      | inner _ hrest => cases hrest
    · have hnone : entryOf? path entries = none := by
        refine hwhole.resolve_left fun hplain => hwholekey ?_
        rw [segments_of_not_mem hplain] at hsegments
        exact List.head_eq_of_cons_eq hsegments
      have hentry : entryOf? path after = none := by
        rw [hsegments] at hassigned
        rw [hassigned.entryOf?_of_ne hwholekey, hnone]
      rw [find, get?, hentry, hwalk]
      rfl
  · have hne : other ≠ key := by
      rintro rfl
      exact hother (by rw [hkey, hsegments]; simp)
    have hentry : entryOf? other after = entryOf? other entries := by
      rw [hsegments] at hassigned
      exact hassigned.entryOf?_of_ne hne
    unfold find
    rw [get?, get?, hentry, hassigned.walk_eq hpath hother hparts]

theorem find_assign_beside :
    (∃ after, assign (segments "a.b.x") (.object [("a", .object [("b", .int 1), ("c", .list [.int 2])])]) (.text "v") =
        .ok (.object after) ∧
      (Document.object after).find "a.b.x" .null = .ok (.text "v") ∧
      (Document.object after).find "a.c.0" .null = .ok (.int 2)) := by
  obtain ⟨after, hassign, hset, hbeside⟩ :=
    find_assign [("a", .object [("b", .int 1), ("c", .list [.int 2])])] "a.b.x" (.text "v")
  refine ⟨after, hassign, hset (Or.inr (by decide)) .null, ?_⟩
  rw [hbeside "a.c.0" (by decide) (by decide) ?_ .null]
  · rfl
  · intro shared hne hpath hother items hwalk
    rw [show segments "a.b.x" = ["a", "b", "x"] by decide] at hpath
    rw [show segments "a.c.0" = ["a", "c", "0"] by decide] at hother
    match shared, hne with
    | [first], _ =>
        obtain rfl : first = "a" := by simpa using hpath
        cases hwalk
    | first :: second :: rest, _ =>
        simp only [List.cons_prefix_cons] at hpath hother
        exact absurd (hpath.2.1.symm.trans hother.2.1) (by decide)

end Courier.Document
