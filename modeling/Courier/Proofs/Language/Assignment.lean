import Courier.Language.Assignment
import Courier.Proofs.Language.Named
import Mathlib.Logic.Function.Basic

/-! Setting the ends of paths in a map. The maps that are made on the way are known by numbers, and each of them stays
at the place where it was made, so that setting one path changes what stands at another only if one of the two goes on
from the other. That holds as long as no path goes through a map that was put there whole, which may be at other places
too. -/

namespace Courier.Language

theorem Changes.find?_cons (i j : Identity) (v : Value) (changes : Changes) :
    Changes.find? ((i, v) :: changes) j = if i = j then some v else changes.find? j := by
  unfold Changes.find?
  rw [List.find?_cons]
  by_cases h : i = j
  · simp [h]
  · simp [h, beq_eq_false_iff_ne.2 h]

def Value.IsMap (v : Value) : Prop := ∃ identity entries, v = .map identity entries

namespace Path

/-! ### Maps and their numbers -/

/-- The maps that paths are set in: the one at the top, and those that are made on the way. -/
inductive Owner
  | top
  | made (number : Nat)
  deriving DecidableEq

/-- Whether a map has been made after so many changes. -/
def Owner.IsUsed (count : Nat) : Owner → Prop
  | top => True
  | made n => n < count

/-- A map that was made on the way, with the content that it had at first. -/
def madeMap (n : Nat) : Value := .map (.placed "made" [n]) []

theorem madeMap_inj {n m : Nat} (h : madeMap n = madeMap m) : n = m := by
  simpa [madeMap] using h

/-- The map at the top, with the content that it has at first. -/
structure Top where
  root : String
  entries : List (Value × Value)

namespace Top

variable (t : Top)

def identity : Owner → Identity
  | .top => .placed t.root []
  | .made n => .placed "made" [n]

/-- A map as others hold it. What is put into it later does not show there. -/
def value : Owner → Value
  | .top => .map (.placed t.root []) t.entries
  | .made n => madeMap n

/-- The present content of a map. -/
def held (changes : Changes) (o : Owner) : List (Value × Value) :=
  match (t.value o).current changes with
  | .map _ entries => entries
  | _ => []

/-- The changes after a key of a map has been set. -/
def put (changes : Changes) (o : Owner) (key : String) (v : Value) : Changes :=
  (t.identity o, .map (t.identity o) (Value.putKey (.newText key) v (t.held changes o))) :: changes

theorem identity_injective : Function.Injective t.identity := by
  intro first second h
  cases first with
  | top =>
      cases second with
      | top => rfl
      | made n => simp [identity] at h
  | made n =>
      cases second with
      | top => simp [identity] at h
      | made m => simpa [identity] using h

theorem current_value (changes : Changes) (o : Owner) :
    (t.value o).current changes = (changes.find? (t.identity o)).getD (t.value o) := by
  cases o <;> rfl

theorem current_put (changes : Changes) (o other : Owner) (key : String) (v : Value) :
    (t.value other).current (t.put changes o key v) =
      if other = o then .map (t.identity o) (Value.putKey (.newText key) v (t.held changes o))
      else (t.value other).current changes := by
  rw [current_value, current_value, put, Changes.find?_cons]
  by_cases h : other = o
  · subst h
    simp
  · rw [if_neg fun heq => h (t.identity_injective heq).symm, if_neg h]

/-- Only the map that is set has another content. -/
theorem held_put (changes : Changes) (o : Owner) (key : String) (v : Value) :
    t.held (t.put changes o key v) =
      Function.update (t.held changes) o (Value.putKey (.newText key) v (t.held changes o)) := by
  funext other
  by_cases h : other = o
  · subst h
    rw [Function.update_self, held, current_put, if_pos rfl]
  · rw [Function.update_of_ne h, held, current_put, if_neg h]
    rfl

theorem lookup_put_self (changes : Changes) (o : Owner) (key : String) (v : Value) :
    Value.lookup (.newText key) (t.held (t.put changes o key v) o) = some v := by
  rw [held_put, Function.update_self, Value.lookup_putKey_self]

theorem lookup_put_of_ne {key other : String} (h : other ≠ key) (changes : Changes) (o : Owner) (v : Value) :
    Value.lookup (.newText other) (t.held (t.put changes o key v) o) =
      Value.lookup (.newText other) (t.held changes o) := by
  rw [held_put, Function.update_self, Value.lookup_putKey_of_ne h]

theorem held_put_of_ne {o other : Owner} (h : other ≠ o) (changes : Changes) (key : String) (v : Value) :
    t.held (t.put changes o key v) other = t.held changes other := by
  rw [held_put, Function.update_of_ne h]

end Top

/-! ### The places of maps -/

variable {t : Top} {place : Owner → List String} {maps : List String → Prop} {changes after : Changes} {o : Owner}
  {path : List String} {key : String} {v w : Value}

/-- What stands at a path: a map that was made for it, or a part that was put there, whole. Maps that were put there
whole are at known paths. -/
def IsPart (place : Owner → List String) (maps : List String → Prop) (count : Nat) (v : Value)
    (path : List String) : Prop :=
  (∃ n, n < count ∧ v = madeMap n ∧ place (.made n) = path) ∨ (∀ n, v ≠ madeMap n) ∧ (v.IsMap → maps path)

/-- The maps under the top have their content at the paths that they were made for. -/
structure Arranged (t : Top) (place : Owner → List String) (maps : List String → Prop) (changes : Changes) : Prop where
  current : ∀ o, (t.value o).current changes = .map (t.identity o) (t.held changes o)
  top : place .top = []
  part : ∀ o key v, Value.lookup (.newText key) (t.held changes o) = some v →
    IsPart place maps changes.length v (place o ++ [key])
  short : ∀ n, (place (.made n)).length ≤ n + 1
  new : ∀ n, changes.length ≤ n → t.held changes (.made n) = []
  others : ∀ i, (∀ o, i ≠ t.identity o) → changes.find? i = none

theorem Owner.IsUsed.ne_made {count : Nat} (h : o.IsUsed count) : o ≠ .made count := by
  rintro rfl
  exact Nat.lt_irrefl _ h

theorem Owner.IsUsed.succ {count : Nat} (h : o.IsUsed count) : o.IsUsed (count + 1) := by
  cases o with
  | top => trivial
  | made n => exact Nat.lt_succ_of_lt h

theorem Arranged.held_of_not_isUsed (h : Arranged t place maps changes) (hused : ¬ o.IsUsed changes.length) :
    t.held changes o = [] := by
  cases o with
  | top => exact absurd trivial hused
  | made n => exact h.new n (Nat.le_of_not_lt hused)

theorem Arranged.length_place_le (h : Arranged t place maps changes) (hused : o.IsUsed changes.length) :
    (place o).length ≤ changes.length := by
  cases o with
  | top => simp [h.top]
  | made n => exact Nat.le_trans (h.short n) hused

/-- A map that a key leads to was made for the path to it. -/
theorem Arranged.made (h : Arranged t place maps changes) {n : Nat}
    (hlookup : Value.lookup (.newText key) (t.held changes o) = some (madeMap n)) :
    n < changes.length ∧ place (.made n) = place o ++ [key] := by
  rcases h.part o key _ hlookup with ⟨m, hm, heq, hplace⟩ | ⟨hne, -⟩
  · obtain rfl := madeMap_inj heq
    exact ⟨hm, hplace⟩
  · exact absurd rfl (hne n)

/-- Places that agree on the maps that have been made, and more paths where maps were put whole. -/
theorem Arranged.put (h : Arranged t place maps changes) (hused : o.IsUsed changes.length)
    {places : Owner → List String} {wholes : List String → Prop}
    (hplaces : ∀ o : Owner, o.IsUsed changes.length → places o = place o) (hwholes : ∀ q, maps q → wholes q)
    (hshort : ∀ n, (places (.made n)).length ≤ n + 1)
    (hv : IsPart places wholes (changes.length + 1) v (place o ++ [key])) :
    Arranged t places wholes (t.put changes o key v) where
  current other := by
    rw [t.current_put]
    by_cases hother : other = o
    · subst hother
      rw [if_pos rfl, t.held_put, Function.update_self]
    · rw [if_neg hother, t.held_put_of_ne hother, h.current]
  top := (hplaces .top trivial).trans h.top
  part other last w hlookup := by
    have hold (hlookup : Value.lookup (.newText last) (t.held changes other) = some w) :
        IsPart places wholes (changes.length + 1) w (places other ++ [last]) := by
      by_cases hother : other.IsUsed changes.length
      · rw [hplaces other hother]
        refine (h.part other last w hlookup).imp ?_ fun hwhole => ⟨hwhole.1, fun hmap => hwholes _ (hwhole.2 hmap)⟩
        rintro ⟨n, hn, rfl, hplace⟩
        exact ⟨n, Nat.lt_succ_of_lt hn, rfl, (hplaces (.made n) hn).trans hplace⟩
      · rw [h.held_of_not_isUsed hother] at hlookup
        cases hlookup
    by_cases hother : other = o
    · subst hother
      by_cases hkey : last = key
      · subst hkey
        rw [t.lookup_put_self] at hlookup
        cases hlookup
        rwa [hplaces other hused]
      · exact hold ((t.lookup_put_of_ne hkey changes other v).symm.trans hlookup)
    · rw [t.held_put_of_ne hother] at hlookup
      exact hold hlookup
  short := hshort
  new n hn := by
    have hother : Owner.made n ≠ o := by
      rintro rfl
      exact absurd (Nat.lt_of_lt_of_le hused (Nat.le_of_succ_le hn)) (Nat.lt_irrefl n)
    rw [t.held_put_of_ne hother]
    exact h.new n (Nat.le_of_succ_le hn)
  others i hi := by
    rw [Top.put, Changes.find?_cons, if_neg (hi o).symm]
    exact h.others i hi

/-- A part that is put somewhere whole. -/
theorem Arranged.put_whole (h : Arranged t place maps changes) (hused : o.IsUsed changes.length)
    (hv : ∀ n, v ≠ madeMap n) :
    Arranged t place (fun q => maps q ∨ v.IsMap ∧ q = place o ++ [key]) (t.put changes o key v) :=
  h.put hused (fun _ _ => rfl) (fun _ => Or.inl) h.short (Or.inr ⟨hv, fun hmap => Or.inr ⟨hmap, rfl⟩⟩)

/-- The places after a map has been made under a key. -/
def placed (place : Owner → List String) (changes : Changes) (o : Owner) (key : String) : Owner → List String :=
  Function.update place (.made changes.length) (place o ++ [key])

theorem placed_of_isUsed (place : Owner → List String) (key : String) {other : Owner}
    (h : other.IsUsed changes.length) : placed place changes o key other = place other :=
  Function.update_of_ne h.ne_made _ _

theorem placed_made (place : Owner → List String) (changes : Changes) (o : Owner) (key : String) :
    placed place changes o key (.made changes.length) = place o ++ [key] := Function.update_self _ _ _

/-- A map that is made on the way. -/
theorem Arranged.put_made (h : Arranged t place maps changes) (hused : o.IsUsed changes.length) (key : String) :
    Arranged t (placed place changes o key) maps (t.put changes o key (madeMap changes.length)) := by
  refine h.put hused (fun _ hother => placed_of_isUsed place key hother) (fun _ => id) (fun n => ?_)
    (Or.inl ⟨changes.length, Nat.lt_succ_self _, rfl, placed_made place changes o key⟩)
  by_cases hn : n = changes.length
  · subst hn
    rw [placed_made, List.length_append]
    exact Nat.succ_le_succ (h.length_place_le hused)
  · rw [placed, Function.update_of_ne fun heq => hn (Owner.made.inj heq)]
    exact h.short n

/-! ### Setting a path -/

/-- The ways to set the end of a path: in a map itself, in a map that the first key leads to, or in a new map that is
put in the place of what was no map. -/
inductive Assigns (t : Top) (v : Value) : Changes → Owner → List String → Changes → Prop
  | last (changes : Changes) (o : Owner) (key : String) : Assigns t v changes o [key] (t.put changes o key v)
  | inner {changes after : Changes} {o : Owner} {key : String} {rest : List String} {n : Nat}
      (hlookup : Value.lookup (.newText key) (t.held changes o) = some (madeMap n))
      (hrest : Assigns t v changes (.made n) rest after) : Assigns t v changes o (key :: rest) after
  | new {changes after : Changes} {o : Owner} {key : String} {rest : List String}
      (hlookup : ∀ w, Value.lookup (.newText key) (t.held changes o) = some w → ¬ w.IsMap)
      (hrest : Assigns t v (t.put changes o key (madeMap changes.length)) (.made changes.length) rest after) :
      Assigns t v changes o (key :: rest) after

theorem Arranged.putShared_eq (h : Arranged t place maps changes) (o : Owner) (key : String) (v : Value) :
    putShared changes (t.value o) key v = .ok (t.put changes o key v) := by
  rw [putShared, h.current o]
  rfl

/-- A path can be set if it does not go through a map that was put somewhere whole. -/
theorem Arranged.exists_assigns (h : Arranged t place maps changes) (hused : o.IsUsed changes.length) (hne : path ≠ [])
    (hclear : ∀ q, maps q → q <+: place o ++ path → q = place o ++ path) (v : Value) :
    ∃ after, assign changes path (t.value o) v = .ok after ∧ Assigns t v changes o path after := by
  induction path generalizing place changes o with
  | nil => exact absurd rfl hne
  | cons key rest ih =>
      cases rest with
      | nil => exact ⟨_, h.putShared_eq o key v, .last changes o key⟩
      | cons next rest =>
          have hpath : place o ++ key :: next :: rest = place o ++ [key] ++ next :: rest := by simp
          rw [hpath] at hclear
          have hnew (hlookup : ∀ w, Value.lookup (.newText key) (t.held changes o) = some w → ¬ w.IsMap) :
              ∃ after, (putShared changes (t.value o) key (newShared changes) >>= fun changed =>
                  assign changed (next :: rest) (newShared changes) v) = .ok after ∧
                Assigns t v changes o (key :: next :: rest) after := by
            obtain ⟨after, hafter, hassigns⟩ := ih (h.put_made hused key) (Nat.lt_succ_self _) (List.cons_ne_nil _ _)
              (by rwa [placed_made])
            refine ⟨after, ?_, .new hlookup hassigns⟩
            rw [h.putShared_eq]
            exact hafter
          unfold assign
          rw [h.current o]
          simp only
          cases hlookup : Value.lookup (.newText key) (t.held changes o) with
          | none => exact hnew fun w hw => by rw [hlookup] at hw; cases hw
          | some w =>
              rcases h.part o key w hlookup with ⟨n, hn, rfl, hplace⟩ | ⟨-, hmap⟩
              · obtain ⟨after, hafter, hassigns⟩ := ih h (show Owner.IsUsed _ (.made n) from hn)
                  (List.cons_ne_nil _ _) (by rwa [hplace])
                exact ⟨after, hafter, .inner hlookup hassigns⟩
              · have hno : ¬ w.IsMap := by
                  intro hw
                  have heq := hclear _ (hmap hw) (List.prefix_append _ _)
                  simp at heq
                have hnew := hnew fun u hu => by
                  rw [hlookup] at hu
                  cases hu
                  exact hno
                cases w with
                | map identity entries => exact absurd ⟨_, _, rfl⟩ hno
                | _ => exact hnew

theorem Owner.made_not_below {place : Owner → List String} {n : Nat} (h : place (.made n) = place o ++ [key]) :
    ¬ place (.made n) <+: place o := by
  rw [h]
  intro hprefix
  have hlength := hprefix.length_le
  rw [List.length_append] at hlength
  exact absurd hlength (Nat.not_succ_le_self _)

namespace Assigns

/-- Setting a path changes no map but those at the path and below. -/
theorem held_eq (hassigns : Assigns t v changes o path after) (h : Arranged t place maps changes)
    (hused : o.IsUsed changes.length) {other : Owner} (hother : other.IsUsed changes.length)
    (hplace : ¬ place o <+: place other) : t.held after other = t.held changes other := by
  induction hassigns generalizing place with
  | last changes o key =>
      refine t.held_put_of_ne ?_ changes key v
      rintro rfl
      exact hplace List.prefix_rfl
  | inner hlookup _ ih =>
      obtain ⟨hn, hmade⟩ := h.made hlookup
      exact ih h hn hother fun hprefix => hplace ((List.prefix_append _ _).trans (hmade ▸ hprefix))
  | @new changes after o key rest _ _ ih =>
      have hplaced := placed_of_isUsed place (o := o) key hother
      have hrest := ih (h.put_made hused key) (Nat.lt_succ_self _) hother.succ fun hprefix => by
        rw [placed_made, hplaced] at hprefix
        exact hplace ((List.prefix_append _ _).trans hprefix)
      rw [hrest]
      refine t.held_put_of_ne ?_ changes key _
      rintro rfl
      exact hplace List.prefix_rfl

/-- The first key of a path stands in its map as it was put there, or as it was before. -/
theorem lookup_of_ne (hassigns : Assigns t v changes o (key :: path) after) (h : Arranged t place maps changes)
    (hused : o.IsUsed changes.length) {other : String} (hother : other ≠ key) :
    Value.lookup (.newText other) (t.held after o) = Value.lookup (.newText other) (t.held changes o) := by
  cases hassigns with
  | last => exact t.lookup_put_of_ne hother changes o v
  | inner hlookup hrest =>
      obtain ⟨hn, hmade⟩ := h.made hlookup
      rw [hrest.held_eq h hn hused (Owner.made_not_below hmade)]
  | new _ hrest =>
      have hmade : placed place changes o key (.made changes.length) = placed place changes o key o ++ [key] := by
        rw [placed_made, placed_of_isUsed place key hused]
      rw [hrest.held_eq (h.put_made hused key) (Nat.lt_succ_self _) hused.succ (Owner.made_not_below hmade)]
      exact t.lookup_put_of_ne hother changes o _

/-- Setting a path changes no map beside its first key. -/
theorem held_beside (hassigns : Assigns t v changes o (key :: path) after) (h : Arranged t place maps changes)
    (hused : o.IsUsed changes.length) {other : Owner} (hother : other.IsUsed changes.length) (hne : other ≠ o)
    (hplace : ¬ place o ++ [key] <+: place other) : t.held after other = t.held changes other := by
  cases hassigns with
  | last => exact t.held_put_of_ne hne changes key v
  | inner hlookup hrest =>
      obtain ⟨hn, hmade⟩ := h.made hlookup
      exact hrest.held_eq h hn hother (hmade ▸ hplace)
  | new _ hrest =>
      rw [hrest.held_eq (h.put_made hused key) (Nat.lt_succ_self _) hother.succ
        (by rwa [placed_made, placed_of_isUsed place key hother])]
      exact t.held_put_of_ne hne _ _ _

/-- After a path has been set, the maps have their content at the paths that they were made for. -/
theorem exists_arranged (hassigns : Assigns t v changes o path after) (h : Arranged t place maps changes)
    (hused : o.IsUsed changes.length) (hv : ∀ n, v ≠ madeMap n) :
    ∃ places, Arranged t places (fun q => maps q ∨ v.IsMap ∧ q = place o ++ path) after := by
  induction hassigns generalizing place with
  | last changes o key => exact ⟨place, h.put_whole hused hv⟩
  | inner hlookup _ ih =>
      obtain ⟨hn, hmade⟩ := h.made hlookup
      simpa [hmade] using ih h hn
  | new _ _ ih =>
      simpa [placed_made] using ih (h.put_made hused _) (Nat.lt_succ_self _)

end Assigns

/-! ### What stands at the end of a path -/

/-- A path leads through maps that were made on the way to what was set at its end. -/
inductive Leads (t : Top) (changes : Changes) (v : Value) : Owner → List String → Prop
  | last {o : Owner} {key : String} (hlookup : Value.lookup (.newText key) (t.held changes o) = some v) :
      Leads t changes v o [key]
  | inner {o : Owner} {key : String} {rest : List String} {n : Nat}
      (hlookup : Value.lookup (.newText key) (t.held changes o) = some (madeMap n))
      (hrest : Leads t changes v (.made n) rest) : Leads t changes v o (key :: rest)

/-- Changes of maps that are not below a place do not change what paths lead to from there. -/
theorem Leads.of_held_eq (hleads : Leads t changes w o path) (h : Arranged t place maps changes)
    (hused : o.IsUsed changes.length) (heq : ∀ other : Owner, other.IsUsed changes.length → place o <+: place other →
      t.held after other = t.held changes other) : Leads t after w o path := by
  induction hleads with
  | last hlookup => exact .last (by rwa [heq _ hused List.prefix_rfl])
  | inner hlookup _ ih =>
      obtain ⟨hn, hmade⟩ := h.made hlookup
      refine .inner (by rwa [heq _ hused List.prefix_rfl]) (ih hn fun other hother hprefix => heq other hother ?_)
      exact (List.prefix_append _ _).trans (hmade ▸ hprefix)

namespace Assigns

/-- The path that is set leads to what is set there. -/
theorem leads (hassigns : Assigns t v changes o path after) (h : Arranged t place maps changes)
    (hused : o.IsUsed changes.length) : Leads t after v o path := by
  induction hassigns generalizing place with
  | last changes o key => exact .last (t.lookup_put_self changes o key v)
  | inner hlookup hrest ih =>
      obtain ⟨hn, hmade⟩ := h.made hlookup
      refine .inner ?_ (ih h hn)
      rwa [hrest.held_eq h hn hused (Owner.made_not_below hmade)]
  | @new changes after o key rest _ hrest ih =>
      have harranged := h.put_made hused key
      have hmade : placed place changes o key (.made changes.length) = placed place changes o key o ++ [key] := by
        rw [placed_made, placed_of_isUsed place key hused]
      refine .inner ?_ (ih harranged (Nat.lt_succ_self _))
      rw [hrest.held_eq harranged (Nat.lt_succ_self _) hused.succ (Owner.made_not_below hmade)]
      exact t.lookup_put_self changes o key _

/-- What a path with another first key leads to stays. -/
theorem keeps_of_ne (hassigns : Assigns t v changes o (key :: path) after) (h : Arranged t place maps changes)
    (hused : o.IsUsed changes.length) {first : String} {rest : List String}
    (hleads : Leads t changes w o (first :: rest)) (hne : first ≠ key) : Leads t after w o (first :: rest) := by
  cases hleads with
  | last hlookup => exact .last (by rwa [hassigns.lookup_of_ne h hused hne])
  | inner hlookup hrest =>
      obtain ⟨hn, hmade⟩ := h.made hlookup
      refine .inner (by rwa [hassigns.lookup_of_ne h hused hne])
        (hrest.of_held_eq h hn fun below hbelow hprefix => hassigns.held_beside h hused hbelow ?_ fun hkey => ?_)
      · rintro rfl
        exact Owner.made_not_below hmade hprefix
      · rw [hmade] at hprefix
        have heq := List.prefix_of_prefix_length_le hprefix hkey (by simp)
        simp [hne] at heq

/-- What another path leads to stays, if neither goes on from the other. -/
theorem keeps (hassigns : Assigns t v changes o path after) (h : Arranged t place maps changes)
    (hused : o.IsUsed changes.length) {other : List String} (hleads : Leads t changes w o other)
    (hpath : ¬ path <+: other) (hother : ¬ other <+: path) : Leads t after w o other := by
  induction hassigns generalizing place other with
  | last changes o key =>
      cases other with
      | nil => cases hleads
      | cons first rest =>
          refine (Assigns.last changes o key).keeps_of_ne h hused hleads ?_
          rintro rfl
          exact hpath (by simp)
  | @inner changes after o key path n hlookup hrest ih =>
      cases other with
      | nil => cases hleads
      | cons first rest =>
          by_cases hne : first = key
          · subst hne
            rw [List.prefix_cons_inj] at hpath hother
            obtain ⟨hn, hmade⟩ := h.made hlookup
            cases hleads with
            | last => exact absurd List.nil_prefix hother
            | inner hleads hbelow =>
                obtain rfl := madeMap_inj (Option.some.inj (hlookup.symm.trans hleads))
                exact .inner (by rwa [hrest.held_eq h hn hused (Owner.made_not_below hmade)])
                  (ih h hn hbelow hpath hother)
          · exact (Assigns.inner hlookup hrest).keeps_of_ne h hused hleads hne
  | @new changes after o key path hlookup hrest ih =>
      cases other with
      | nil => cases hleads
      | cons first rest =>
          refine (Assigns.new hlookup hrest).keeps_of_ne h hused hleads ?_
          rintro rfl
          -- no path went on from what was no map
          cases hleads with
          | last => exact hother (by simp)
          | inner hleads _ => exact hlookup _ hleads ⟨_, _, rfl⟩

end Assigns

end Path

end Courier.Language
