import Courier.Document
import Mathlib.Data.List.Nodup
import Mathlib.Data.List.Perm.Basic

/-! Entries under keys that differ. What entries say is what is found under each key: entries of which this is the same
are the same up to their order, and of pairs that are put under their keys the last one of a key is found. -/

namespace Courier

variable {α : Type} {key other : String} {a : α} {entries : List (String × α)}

theorem mem_of_entryOf? (h : entryOf? key entries = some a) : (key, a) ∈ entries := by
  induction entries with
  | nil => cases h
  | cons e entries ih =>
      obtain ⟨k, b⟩ := e
      rw [entryOf?] at h
      split at h
      · obtain rfl := beq_iff_eq.1 ‹_›
        cases h
        exact List.mem_cons_self
      · exact List.mem_cons_of_mem _ (ih h)

theorem entryOf?_of_mem (hkeys : (entries.map (·.1)).Nodup) (h : (key, a) ∈ entries) :
    entryOf? key entries = some a := by
  induction entries with
  | nil => cases h
  | cons e entries ih =>
      obtain ⟨k, b⟩ := e
      rw [List.map_cons, List.nodup_cons] at hkeys
      rw [entryOf?]
      rcases List.mem_cons.1 h with heq | h
      · cases heq
        rw [if_pos (beq_self_eq_true key)]
      · have hne : k ≠ key := fun heq => hkeys.1 (heq ▸ List.mem_map_of_mem (f := (·.1)) h)
        rw [if_neg (by simpa using hne), ih hkeys.2 h]

/-- Of names that have values, each has its own, wherever it stands among them. -/
theorem entryOf?_filterMap (f : String → Option α) (key : String) (names : List String) :
    entryOf? key (names.filterMap fun name => (f name).map fun a => (name, a)) =
      if key ∈ names then f key else none := by
  induction names with
  | nil => rfl
  | cons name names ih =>
      by_cases h : name = key
      · subst h
        cases hname : f name with
        | none => simp [hname, ih]
        | some a => simp [hname, entryOf?]
      · cases hname : f name with
        | none => simp [hname, ih, Ne.symm h]
        | some a => simp [hname, entryOf?, ih, h, Ne.symm h]

/-! ### Putting entries -/

theorem mem_keys_putEntry (h : other ∈ (putEntry key a entries).map (·.1)) :
    other = key ∨ other ∈ entries.map (·.1) := by
  induction entries with
  | nil => simpa [putEntry] using h
  | cons e entries ih =>
      obtain ⟨k, v⟩ := e
      rw [putEntry] at h
      split at h
      · exact Or.inr h
      · rcases List.mem_cons.1 h with rfl | h
        · exact Or.inr List.mem_cons_self
        · exact (ih h).imp_right (List.mem_cons_of_mem _)

theorem mem_keys_putEntry_of_mem (h : other ∈ entries.map (·.1)) : other ∈ (putEntry key a entries).map (·.1) := by
  induction entries with
  | nil => cases h
  | cons e entries ih =>
      obtain ⟨k, v⟩ := e
      rw [putEntry]
      split
      · exact h
      · rcases List.mem_cons.1 h with rfl | h
        · exact List.mem_cons_self
        · exact List.mem_cons_of_mem _ (ih h)

theorem mem_keys_putEntry_self : key ∈ (putEntry key a entries).map (·.1) :=
  List.mem_map_of_mem (mem_of_entryOf? (entryOf?_putEntry_self key a entries))

theorem nodup_keys_putEntry (h : (entries.map (·.1)).Nodup) : ((putEntry key a entries).map (·.1)).Nodup := by
  induction entries with
  | nil => simp [putEntry]
  | cons e entries ih =>
      obtain ⟨k, v⟩ := e
      rw [List.map_cons, List.nodup_cons] at h
      rw [putEntry]
      split
      · exact List.nodup_cons.2 h
      · rename_i hne
        refine List.nodup_cons.2 ⟨fun hk => ?_, ih h.2⟩
        rcases mem_keys_putEntry hk with rfl | hk
        · exact hne (beq_self_eq_true k)
        · exact h.1 hk

theorem mem_putEntry {e : String × α} (h : e ∈ putEntry key a entries) : e = (key, a) ∨ e ∈ entries := by
  induction entries with
  | nil => exact Or.inl (List.mem_singleton.1 h)
  | cons first entries ih =>
      obtain ⟨k, v⟩ := first
      rw [putEntry] at h
      split at h
      · rename_i hk
        obtain rfl := beq_iff_eq.1 hk
        rcases List.mem_cons.1 h with rfl | h
        · exact Or.inl rfl
        · exact Or.inr (List.mem_cons_of_mem _ h)
      · rcases List.mem_cons.1 h with rfl | h
        · exact Or.inr List.mem_cons_self
        · exact (ih h).imp_right (List.mem_cons_of_mem _)

theorem mem_putEntries {pairs : List (String × α)} {e : String × α} (h : e ∈ putEntries pairs entries) :
    e ∈ pairs ∨ e ∈ entries := by
  induction pairs generalizing entries with
  | nil => exact Or.inr h
  | cons pair pairs ih =>
      rcases ih h with h | h
      · exact Or.inl (List.mem_cons_of_mem _ h)
      · rcases mem_putEntry h with rfl | h
        · exact Or.inl List.mem_cons_self
        · exact Or.inr h

theorem nodup_keys_putEntries {pairs : List (String × α)} (h : (entries.map (·.1)).Nodup) :
    ((putEntries pairs entries).map (·.1)).Nodup := by
  induction pairs generalizing entries with
  | nil => exact h
  | cons p pairs ih => exact ih (nodup_keys_putEntry h)

/-- The keys behind some pairs are those of the pairs and those from before. -/
theorem mem_keys_putEntries {pairs : List (String × α)} :
    key ∈ (putEntries pairs entries).map (·.1) ↔ key ∈ pairs.map (·.1) ∨ key ∈ entries.map (·.1) := by
  induction pairs generalizing entries with
  | nil => simp [putEntries]
  | cons p pairs ih =>
      show key ∈ (putEntries pairs (putEntry p.1 p.2 entries)).map (·.1) ↔ _
      rw [ih, List.map_cons, List.mem_cons]
      constructor
      · rintro (h | h)
        · exact Or.inl (Or.inr h)
        · exact (mem_keys_putEntry h).imp_left Or.inl
      · rintro ((rfl | h) | h)
        · exact Or.inr mem_keys_putEntry_self
        · exact Or.inl h
        · exact Or.inr (mem_keys_putEntry_of_mem h)

/-- Setting a key changes nothing under the other keys, nor their order. -/
theorem filter_putEntry (key : String) (a : α) (entries : List (String × α)) :
    (putEntry key a entries).filter (·.1 != key) = entries.filter (·.1 != key) := by
  induction entries with
  | nil => simp [putEntry]
  | cons e entries ih =>
      obtain ⟨k, b⟩ := e
      rw [putEntry]
      by_cases hk : k = key
      · simp [hk]
      · simp [hk, ih]

theorem putEntry_of_not_mem (h : key ∉ entries.map (·.1)) : putEntry key a entries = entries ++ [(key, a)] := by
  induction entries with
  | nil => rfl
  | cons e entries ih =>
      obtain ⟨k, v⟩ := e
      rw [List.map_cons, List.mem_cons, not_or] at h
      rw [putEntry, if_neg (by simpa using Ne.symm h.1), ih h.2, List.cons_append]

/-- Pairs with new and different keys go to the end. -/
theorem putEntries_of_nodup {pairs : List (String × α)} (h : ((entries ++ pairs).map (·.1)).Nodup) :
    putEntries pairs entries = entries ++ pairs := by
  induction pairs generalizing entries with
  | nil => exact (List.append_nil entries).symm
  | cons p pairs ih =>
      obtain ⟨k, v⟩ := p
      have hnew : k ∉ entries.map (·.1) := by
        rw [List.map_append, List.map_cons, List.nodup_append] at h
        exact fun hin => h.2.2 k hin k List.mem_cons_self rfl
      show putEntries pairs (putEntry k v entries) = _
      rw [putEntry_of_not_mem hnew, ih (by rwa [List.append_assoc]), List.append_assoc]
      rfl

theorem putEntries_append (first second entries : List (String × α)) :
    putEntries (first ++ second) entries = putEntries second (putEntries first entries) := List.foldl_append

/-- The last value of a key among some pairs. -/
def lastOf? (key : String) (pairs : List (String × α)) : Option α :=
  (pairs.reverse.find? fun p => p.1 == key).map (·.2)

theorem lastOf?_append (key : String) (first second : List (String × α)) :
    lastOf? key (first ++ second) = (lastOf? key second).or (lastOf? key first) := by
  rw [lastOf?, lastOf?, lastOf?, List.reverse_append, List.find?_append, Option.map_or]

theorem lastOf?_cons (key other : String) (a : α) (pairs : List (String × α)) :
    lastOf? key ((other, a) :: pairs) = (lastOf? key pairs).or (if other == key then some a else none) := by
  have hone : lastOf? key [(other, a)] = if other == key then some a else none := by
    cases h : other == key <;> simp [lastOf?, h]
  rw [← hone, ← lastOf?_append]
  rfl

/-- Under a key that some pairs were put at, the last value of it is found. -/
theorem entryOf?_putEntries (key : String) (pairs entries : List (String × α)) :
    entryOf? key (putEntries pairs entries) = (lastOf? key pairs).or (entryOf? key entries) := by
  induction pairs generalizing entries with
  | nil => rfl
  | cons p pairs ih =>
      obtain ⟨k, v⟩ := p
      show entryOf? key (putEntries pairs (putEntry k v entries)) = _
      rw [ih, lastOf?_cons, Option.or_assoc]
      by_cases hk : k = key
      · subst hk
        simp [entryOf?_putEntry_self]
      · simp [entryOf?_putEntry_of_ne (Ne.symm hk), hk]

/-! ### The order of entries -/

theorem perm_of_entryOf? {first second : List (String × α)} (hfirst : (first.map (·.1)).Nodup)
    (hsecond : (second.map (·.1)).Nodup) (h : ∀ key, entryOf? key first = entryOf? key second) :
    first.Perm second := by
  rw [List.perm_ext_iff_of_nodup hfirst.of_map hsecond.of_map]
  intro e
  obtain ⟨key, a⟩ := e
  constructor
  · exact fun hin => mem_of_entryOf? (h key ▸ entryOf?_of_mem hfirst hin)
  · exact fun hin => mem_of_entryOf? ((h key).symm ▸ entryOf?_of_mem hsecond hin)

theorem entryOf?_perm {first second : List (String × α)} (hkeys : (first.map (·.1)).Nodup) (h : first.Perm second)
    (key : String) : entryOf? key first = entryOf? key second := by
  have hsecond : (second.map (·.1)).Nodup := (h.map _).nodup_iff.1 hkeys
  cases hfound : entryOf? key first with
  | some a => exact (entryOf?_of_mem hsecond (h.mem_iff.1 (mem_of_entryOf? hfound))).symm
  | none =>
      cases hother : entryOf? key second with
      | none => rfl
      | some a =>
          rw [entryOf?_of_mem hkeys (h.mem_iff.2 (mem_of_entryOf? hother))] at hfound
          cases hfound

/-- Among pairs whose keys differ, the last value of a key is the only one. -/
theorem lastOf?_of_nodup (hkeys : (entries.map (·.1)).Nodup) (key : String) :
    lastOf? key entries = entryOf? key entries := by
  have hfind (pairs : List (String × α)) : (pairs.find? fun p => p.1 == key).map (·.2) = entryOf? key pairs := by
    induction pairs with
    | nil => rfl
    | cons p pairs ih =>
        obtain ⟨k, a⟩ := p
        rw [List.find?_cons, entryOf?]
        cases hk : k == key with
        | true => rfl
        | false => exact ih
  rw [lastOf?, hfind]
  exact (entryOf?_perm hkeys (List.reverse_perm entries).symm key).symm

theorem lastOf?_map {β : Type} (f : α → β) (key : String) (pairs : List (String × α)) :
    lastOf? key (pairs.map fun p => (p.1, f p.2)) = (lastOf? key pairs).map f := by
  rw [lastOf?, lastOf?, ← List.map_reverse, List.find?_map, Option.map_map, Option.map_map]
  rfl

theorem lastOf?_eq_none {pairs : List (String × α)} (h : key ∉ pairs.map (·.1)) : lastOf? key pairs = none := by
  have hfind : pairs.reverse.find? (fun p => p.1 == key) = none := by
    rw [List.find?_eq_none]
    intro p hp heq
    exact h (List.mem_map.2 ⟨p, List.mem_reverse.1 hp, beq_iff_eq.1 heq⟩)
  rw [lastOf?, hfind]
  rfl

end Courier
