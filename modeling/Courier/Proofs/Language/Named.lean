import Courier.Proofs.Document.Entries
import Courier.Template.Render

/-! Maps under names. A template sees nothing of the map that it is rendered against but what stands under each name,
so that the order of its entries does not matter. -/

namespace Courier

namespace Language.Value

/-- Entries under texts, each of which is the object that its spelling tells. -/
def named (spelling : String → Identity) (entries : List (String × Value)) : List (Value × Value) :=
  entries.map fun e => (.text (spelling e.1) e.1, e.2)

variable {spelling : String → Identity}

theorem alike_of_text (i : Identity) (s : String) (v : Value) : alike (.text i s) v = (v.text? == some s) := by
  rw [alike, same]
  all_goals simp

theorem alike_text (i j : Identity) (s t : String) : alike (.text i s) (.text j t) = (t == s) :=
  (alike_of_text i s _).trans Option.some_beq_some

/-- Under the key that was set the new value is found. -/
theorem lookup_putKey_self (s : String) (v : Value) (entries : List (Value × Value)) :
    lookup (newText s) (putKey (newText s) v entries) = some v := by
  induction entries with
  | nil => simp [putKey, lookup, newText, alike_text]
  | cons e entries ih =>
      obtain ⟨k, w⟩ := e
      rw [putKey]
      cases hk : alike (newText s) k with
      | true => simp [lookup, hk]
      | false => simpa [lookup, hk] using ih

/-- Setting a key changes nothing under the other ones. -/
theorem lookup_putKey_of_ne {s t : String} (h : t ≠ s) (v : Value) (entries : List (Value × Value)) :
    lookup (newText t) (putKey (newText s) v entries) = lookup (newText t) entries := by
  have hother {k : Value} (hk : alike (newText s) k) : alike (newText t) k = false := by
    rw [newText, alike_of_text, beq_iff_eq] at hk
    rw [newText, alike_of_text, hk]
    simpa using Ne.symm h
  induction entries with
  | nil => simp [putKey, lookup, newText, alike_text, Ne.symm h]
  | cons e entries ih =>
      obtain ⟨k, w⟩ := e
      rw [putKey]
      cases hk : alike (newText s) k with
      | true => simp [lookup, hother hk]
      | false =>
          rw [if_neg Bool.false_ne_true, lookup, lookup, List.find?_cons, List.find?_cons]
          cases alike (newText t) k with
          | true => rfl
          | false => exact ih

/-- A text that is there keeps its spelling, and a new one brings its own. -/
theorem putKey_named {i : Identity} {key : String} {entries : List (String × Value)}
    (h : key ∈ entries.map (·.1) ∨ spelling key = i) (v : Value) :
    putKey (.text i key) v (named spelling entries) = named spelling (putEntry key v entries) := by
  induction entries with
  | nil =>
      have hkey : spelling key = i := h.resolve_left List.not_mem_nil
      simp [named, putKey, putEntry, hkey]
  | cons e entries ih =>
      obtain ⟨k, w⟩ := e
      show putKey (.text i key) v ((.text (spelling k) k, w) :: named spelling entries) = _
      rw [putKey, putEntry, alike_text]
      by_cases hk : k = key
      · rw [if_pos (by simpa using hk), if_pos (by simpa using hk)]
        rfl
      · have hrest := ih (h.imp_left fun hin => (List.mem_cons.1 hin).resolve_left (Ne.symm hk))
        rw [if_neg (by simpa using hk), if_neg (by simpa using hk), hrest]
        rfl

theorem putKeys_named (pairs entries : List (String × Value)) :
    putKeys (named spelling pairs) (named spelling entries) = named spelling (putEntries pairs entries) := by
  induction pairs generalizing entries with
  | nil => rfl
  | cons p pairs ih =>
      show putKeys (named spelling pairs) (putKey _ p.2 (named spelling entries)) = _
      rw [putKey_named (Or.inr rfl), ih]
      rfl

/-! ### Settling -/

theorem entrySizes_perm {first second : List (Value × Value)} (h : first.Perm second) :
    entrySizes first = entrySizes second := by
  induction h with
  | nil => rfl
  | cons e _ ih => rw [entrySizes, entrySizes, ih]
  | swap e f rest =>
      simp only [entrySizes]
      omega
  | trans _ _ ih ih' => exact ih.trans ih'

/-- The entries of a map are settled one by one, in a way that depends on their size together. -/
theorem exists_settle_newMap (changes : Changes) (size : Nat) : ∃ f : Value → Value, ∀ entries,
    entrySizes entries = size → settle changes (newMap entries) = newMap (entries.map fun e => (e.1, f e.2)) := by
  cases changes with
  | nil =>
      refine ⟨id, fun entries _ => ?_⟩
      rw [settle_nil]
      simp
  | cons change changes =>
      refine ⟨settleAt (change :: changes) (size + 1 + sizes ((change :: changes).map (·.2))) [.loose],
        fun entries hsize => ?_⟩
      have hfuel : (newMap entries).size = size + 1 := by
        rw [newMap, Value.size, hsize]
      unfold settle
      rw [hfuel, settleAt]
      rfl

end Language.Value

namespace Context

open Courier.Language

/-- The context of a map under names that differ. -/
theorem ofValue_named {spelling : String → Identity} {entries : List (String × Value)}
    (h : (entries.map (·.1)).Nodup) (identity : Identity) :
    ofValue (.map identity (Value.named spelling entries)) = .ok (entries.map fun e => (e.1, rooted e.1 e.2)) := by
  have hkeys : Value.putKeys (Value.named spelling entries) [] = Value.named spelling entries := by
    show Value.putKeys _ (Value.named spelling []) = _
    rw [Value.putKeys_named, putEntries_of_nodup (by simpa using h), List.nil_append]
  unfold ofValue
  show (Value.putKeys (Value.named spelling entries) []).mapM _ = _
  rw [hkeys]
  clear h hkeys
  induction entries with
  | nil => rfl
  | cons e entries ih =>
      rw [Value.named, List.map_cons, List.mapM_cons]
      show (do
        let first ← Except.ok (e.1, rooted e.1 e.2)
        let rest ← (Value.named spelling entries).mapM _
        pure (first :: rest)) = _
      rw [ih]
      rfl

theorem findInTemplate_perm {first second : Context} (hkeys : (first.map (·.1)).Nodup) (h : first.Perm second) :
    first.findInTemplate = second.findInTemplate := by
  funext name
  rw [findInTemplate, findInTemplate, entryOf?_perm hkeys h]

end Context

namespace Template

open Courier.Language

variable {spelling : String → Identity} {first second : List (String × Value)}

theorem runOn_perm (hkeys : (first.map (·.1)).Nodup) (h : first.Perm second) (p : Program) (memory : Memory) :
    runOn p (.newMap (Value.named spelling first)) memory = runOn p (.newMap (Value.named spelling second)) memory := by
  obtain ⟨f, hf⟩ := Value.exists_settle_newMap memory.changes (Value.entrySizes (Value.named spelling first))
  have hsettle {entries : List (String × Value)} (hperm : first.Perm entries) :
      Context.ofValue (memory.settle (.newMap (Value.named spelling entries))) =
        .ok (entries.map fun e => (e.1, Context.rooted e.1 (f e.2))) := by
    have hkeys' : ((entries.map fun e => (e.1, f e.2)).map (·.1)).Nodup := by
      rw [List.map_map]
      exact (hperm.map _).nodup_iff.1 hkeys
    have hnamed : (Value.named spelling entries).map (fun e => (e.1, f e.2)) =
        Value.named spelling (entries.map fun e => (e.1, f e.2)) := by
      simp [Value.named]
    have hsize : Value.entrySizes (Value.named spelling entries) = Value.entrySizes (Value.named spelling first) :=
      (Value.entrySizes_perm (hperm.map _)).symm
    rw [Memory.settle, hf _ hsize, hnamed, Value.newMap, Context.ofValue_named hkeys', List.map_map]
    rfl
  have hfind : Context.findInTemplate (first.map fun e => (e.1, Context.rooted e.1 (f e.2))) =
      Context.findInTemplate (second.map fun e => (e.1, Context.rooted e.1 (f e.2))) := by
    refine Context.findInTemplate_perm ?_ (h.map _)
    rw [List.map_map]
    exact hkeys
  unfold runOn
  rw [hsettle (List.Perm.refl first), hsettle h]
  simp only [hfind]

/-- A template is rendered alike against entries in any order. -/
theorem render_perm (hkeys : (first.map (·.1)).Nodup) (h : first.Perm second) (source : String) (memory : Memory) :
    render source (.newMap (Value.named spelling first)) memory =
      render source (.newMap (Value.named spelling second)) memory := by
  unfold render
  split
  · rfl
  · split
    · rfl
    · rw [runOn_perm hkeys h]

end Template

end Courier
