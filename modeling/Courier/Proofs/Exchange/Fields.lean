import Mathlib
import Courier.Language.Shown
import Courier.Proofs.Exchange.Form

/-! The fields of a form. A document has one field for each single value in it, in their order, and the name of a field
tells the keys and the positions that lead to its value. Names of different values differ, so that no field takes the
place of another. -/

namespace Courier

open Courier.Text Courier.Language

namespace Document

/-- Single values: the documents that have a field of their own. -/
def IsSingle : Document → Prop
  | .null | .list _ | .object _ => False
  | _ => True

mutual

/-- The single values in a document in their order, each with the keys and positions that lead to it. -/
def singles : Document → List (List String × Document)
  | .null => []
  | .list items => itemSingles 0 items
  | .object entries => entrySingles entries
  | d => [([], d)]

/-- The single values in the items of a list, numbered from a position on. -/
def itemSingles (position : Nat) : List Document → List (List String × Document)
  | [] => []
  | d :: rest => d.singles.map (fun p => (toString position :: p.1, p.2)) ++ itemSingles (position + 1) rest

/-- The single values in the entries of an object. -/
def entrySingles : List (String × Document) → List (List String × Document)
  | [] => []
  | (key, d) :: rest => d.singles.map (fun p => (key :: p.1, p.2)) ++ entrySingles rest

end

/-- Keys and positions that lead from a document to a part of it. -/
inductive Leads : Document → List String → Document → Prop
  | here (d : Document) : Leads d [] d
  | item {items : List Document} {n : Nat} {d part : Document} {path : List String} (hitem : items[n]? = some d)
      (h : Leads d path part) : Leads (.list items) (toString n :: path) part
  | entry {entries : List (String × Document)} {key : String} {d part : Document} {path : List String}
      (hentry : (key, d) ∈ entries) (h : Leads d path part) : Leads (.object entries) (key :: path) part

theorem IsJson.leads {d part : Document} {path : List String} (h : d.IsJson) (hpart : d.Leads path part) :
    part.IsJson := by
  induction hpart with
  | here d => exact h
  | item hitem _ ih =>
      cases h with
      | list items hitems => exact ih (hitems _ (List.mem_of_getElem? hitem))
  | entry hentry _ ih =>
      cases h with
      | object entries hkeys hentries => exact ih (hentries _ hentry)

/-! ### The single values -/

variable {path : List String} {part : Document}

theorem mem_itemSingles {position : Nat} {items : List Document} :
    (path, part) ∈ itemSingles position items ↔
      ∃ n d rest, items[n]? = some d ∧ path = toString (position + n) :: rest ∧ (rest, part) ∈ d.singles := by
  induction items generalizing position with
  | nil => simp [itemSingles]
  | cons first items ih =>
      rw [itemSingles, List.mem_append, ih]
      constructor
      · rintro (h | ⟨n, d, rest, hitem, hpath, hrest⟩)
        · obtain ⟨⟨rest, found⟩, hrest, heq⟩ := List.mem_map.1 h
          cases heq
          exact ⟨0, first, rest, rfl, rfl, hrest⟩
        · exact ⟨n + 1, d, rest, hitem, by rw [hpath, Nat.add_assoc, Nat.add_comm 1 n], hrest⟩
      · rintro ⟨n, d, rest, hitem, hpath, hrest⟩
        cases n with
        | zero =>
            cases hitem
            exact Or.inl (List.mem_map.2 ⟨(rest, part), hrest, by rw [hpath]; rfl⟩)
        | succ n => exact Or.inr ⟨n, d, rest, hitem, by rw [hpath, Nat.add_assoc, Nat.add_comm 1 n], hrest⟩

theorem mem_entrySingles {entries : List (String × Document)} :
    (path, part) ∈ entrySingles entries ↔
      ∃ key d rest, (key, d) ∈ entries ∧ path = key :: rest ∧ (rest, part) ∈ d.singles := by
  induction entries with
  | nil => simp [entrySingles]
  | cons first entries ih =>
      obtain ⟨name, between⟩ := first
      rw [entrySingles, List.mem_append, ih]
      constructor
      · rintro (h | ⟨key, d, rest, hentry, hpath, hrest⟩)
        · obtain ⟨⟨rest, found⟩, hrest, heq⟩ := List.mem_map.1 h
          cases heq
          exact ⟨name, between, rest, List.mem_cons_self, rfl, hrest⟩
        · exact ⟨key, d, rest, List.mem_cons_of_mem _ hentry, hpath, hrest⟩
      · rintro ⟨key, d, rest, hentry, rfl, hrest⟩
        rcases List.mem_cons.1 hentry with heq | hentry
        · cases heq
          exact Or.inl (List.mem_map.2 ⟨(rest, part), hrest, rfl⟩)
        · exact Or.inr ⟨key, d, rest, hentry, rfl, hrest⟩

theorem IsSingle.mem_singles {d : Document} (h : d.IsSingle) :
    (path, part) ∈ d.singles ↔ d.Leads path part ∧ part.IsSingle := by
  have hsingles : d.singles = [([], d)] := by
    cases d with
    | null | list | object => exact h.elim
    | _ => rfl
  rw [hsingles, List.mem_singleton, Prod.mk.injEq]
  constructor
  · rintro ⟨rfl, rfl⟩
    exact ⟨.here part, h⟩
  · rintro ⟨hleads, -⟩
    cases hleads with
    | here => exact ⟨rfl, rfl⟩
    | item | entry => exact h.elim

/-- The single values of a document are those that some keys and positions lead to. -/
theorem mem_singles {d : Document} (h : d.IsJson) : (path, part) ∈ d.singles ↔ d.Leads path part ∧ part.IsSingle := by
  induction h generalizing path with
  | null =>
      refine iff_of_false List.not_mem_nil ?_
      rintro ⟨hleads, hpart⟩
      cases hleads
      exact hpart
  | bool b => exact IsSingle.mem_singles (d := .bool b) trivial
  | int i _ => exact IsSingle.mem_singles (d := .int i) trivial
  | float x => exact IsSingle.mem_singles (d := .float x) trivial
  | text s => exact IsSingle.mem_singles (d := .text s) trivial
  | list items hitems ih =>
      rw [singles, mem_itemSingles]
      constructor
      · rintro ⟨n, d, rest, hitem, rfl, hrest⟩
        obtain ⟨hleads, hpart⟩ := (ih d (List.mem_of_getElem? hitem)).1 hrest
        rw [Nat.zero_add]
        exact ⟨.item hitem hleads, hpart⟩
      · rintro ⟨hleads, hpart⟩
        cases hleads with
        | here => exact hpart.elim
        | @item _ n d _ rest hitem hrest =>
            exact ⟨n, d, rest, hitem, by rw [Nat.zero_add], (ih d (List.mem_of_getElem? hitem)).2 ⟨hrest, hpart⟩⟩
  | object entries hkeys hentries ih =>
      rw [singles, mem_entrySingles]
      constructor
      · rintro ⟨key, d, rest, hentry, rfl, hrest⟩
        obtain ⟨hleads, hpart⟩ := (ih (key, d) hentry).1 hrest
        exact ⟨.entry hentry hleads, hpart⟩
      · rintro ⟨hleads, hpart⟩
        cases hleads with
        | here => exact hpart.elim
        | @entry _ key d _ rest hentry hrest =>
            exact ⟨key, d, rest, hentry, rfl, (ih (key, d) hentry).2 ⟨hrest, hpart⟩⟩

/-! ### Where they stand -/

/-- Values under a key stand apart from those that are not under it. -/
theorem nodup_under {key : String} {ps rest : List (List String × Document)} (hps : (ps.map (·.1)).Nodup)
    (hrest : (rest.map (·.1)).Nodup) (hkey : ∀ p ∈ rest, p.1.head? ≠ some key) :
    ((ps.map (fun p => (key :: p.1, p.2)) ++ rest).map (·.1)).Nodup := by
  have hunder : (ps.map fun p => (key :: p.1, p.2)).map (·.1) = (ps.map (·.1)).map (key :: ·) := by
    rw [List.map_map, List.map_map]
    rfl
  rw [List.map_append, hunder, List.nodup_append']
  refine ⟨hps.map (List.cons_injective), hrest, fun path hpath hother => ?_⟩
  obtain ⟨inner, -, rfl⟩ := List.mem_map.1 hpath
  obtain ⟨p, hp, heq⟩ := List.mem_map.1 hother
  exact hkey p hp (by rw [heq]; rfl)

theorem nodup_itemSingles {items : List Document} (h : ∀ d ∈ items, (d.singles.map (·.1)).Nodup) (position : Nat) :
    ((itemSingles position items).map (·.1)).Nodup := by
  induction items generalizing position with
  | nil => exact List.nodup_nil
  | cons d items ih =>
      refine nodup_under (h d List.mem_cons_self) (ih (fun d hd => h d (List.mem_cons_of_mem _ hd)) _) ?_
      rintro ⟨path, part⟩ hp hhead
      obtain ⟨n, _, _, -, rfl, -⟩ := mem_itemSingles.1 hp
      have hposition : position + 1 + n = position := Nat.repr_injective (Option.some.inj hhead)
      omega

theorem nodup_entrySingles {entries : List (String × Document)} (hkeys : (entries.map (·.1)).Nodup)
    (h : ∀ e ∈ entries, (e.2.singles.map (·.1)).Nodup) : ((entrySingles entries).map (·.1)).Nodup := by
  induction entries with
  | nil => exact List.nodup_nil
  | cons e entries ih =>
      obtain ⟨key, d⟩ := e
      rw [List.map_cons, List.nodup_cons] at hkeys
      refine nodup_under (h _ List.mem_cons_self) (ih hkeys.2 fun e he => h e (List.mem_cons_of_mem _ he)) ?_
      rintro ⟨path, part⟩ hp hhead
      obtain ⟨other, _, _, hentry, rfl, -⟩ := mem_entrySingles.1 hp
      obtain rfl : other = key := Option.some.inj hhead
      exact hkeys.1 (List.mem_map_of_mem (f := (·.1)) hentry)

/-- No two single values of a document stand at one place. -/
theorem nodup_singles {d : Document} (h : d.IsJson) : (d.singles.map (·.1)).Nodup := by
  induction h with
  | null => exact List.nodup_nil
  | list items _ ih => exact nodup_itemSingles ih 0
  | object entries hkeys _ ih => exact nodup_entrySingles hkeys ih
  | _ => exact List.nodup_singleton []

/-! ### Keys that fields are named by -/

/-- Keys that stand out in the name of a field: they are not empty and hold no brackets. -/
def IsFieldKey (key : String) : Prop := key ≠ "" ∧ '[' ∉ key.toList ∧ ']' ∉ key.toList

instance (key : String) : Decidable (IsFieldKey key) := inferInstanceAs (Decidable (_ ∧ _))

/-- Documents all of whose keys stand out in the names of fields, at any depth. -/
def HasFieldKeys (d : Document) : Prop :=
  ∀ path entries, d.Leads path (.object entries) → ∀ e ∈ entries, IsFieldKey e.1

theorem isFieldKey_toString (n : Nat) : IsFieldKey (toString n) := by
  have hdigits : (toString n).toList = Nat.toDigits 10 n := by
    show n.repr.toList = _
    rw [Nat.repr_eq_ofList_toDigits, String.toList_ofList]
  have hbracket {c : Char} (hc : Text.isAsciiDigit c = false) : c ∉ (toString n).toList := by
    intro hmem
    rw [hdigits] at hmem
    rw [Json.isAsciiDigit_of_mem_toDigits hmem] at hc
    cases hc
  refine ⟨fun hempty => ?_, hbracket rfl, hbracket rfl⟩
  have hnil : Nat.toDigits 10 n = [] := by rw [← hdigits, hempty]; rfl
  exact Nat.toDigits_ne_nil hnil

theorem hasFieldKeys_object {entries : List (String × Document)} (hkeys : ∀ e ∈ entries, IsFieldKey e.1)
    (h : ∀ e ∈ entries, e.2.HasFieldKeys) : (Document.object entries).HasFieldKeys := by
  intro path fields hleads
  cases hleads with
  | here => exact hkeys
  | entry hentry hrest => exact h _ hentry _ fields hrest

theorem hasFieldKeys_list {items : List Document} (h : ∀ d ∈ items, d.HasFieldKeys) :
    (Document.list items).HasFieldKeys := by
  intro path fields hleads
  cases hleads with
  | item hitem hrest => exact h _ (List.mem_of_getElem? hitem) _ fields hrest

theorem IsSingle.hasFieldKeys {d : Document} (h : d.IsSingle) : d.HasFieldKeys := by
  intro path fields hleads
  cases hleads with
  | here | item | entry => exact h.elim

theorem HasFieldKeys.of_leads {d part : Document} {path : List String} (h : d.HasFieldKeys)
    (hleads : d.Leads path part) : ∀ key ∈ path, IsFieldKey key := by
  induction hleads with
  | here d => exact fun key hkey => absurd hkey List.not_mem_nil
  | @item items n d part path hitem _ ih =>
      refine List.forall_mem_cons.2 ⟨isFieldKey_toString n, ih fun inner entries hinner => ?_⟩
      exact h _ entries (.item hitem hinner)
  | @entry entries key d part path hentry _ ih =>
      refine List.forall_mem_cons.2 ⟨h [] entries (.here _) _ hentry, ih fun inner fields hinner => ?_⟩
      exact h _ fields (.entry hentry hinner)

end Document

namespace Exchange

/-! ### Names -/

/-- Keys in brackets, one after the other. -/
def bracketed (keys : List String) : String := String.join (keys.map fun key => "[" ++ key ++ "]")

/-- The name of the field at the end of some keys and positions. The first of them stands for itself unless the field
stands below another one, and all others stand in brackets. -/
def fieldPath (parent : String) : List String → String
  | [] => parent
  | key :: rest => (if parent = "" then key else parent ++ "[" ++ key ++ "]") ++ bracketed rest

theorem bracketed_cons (key : String) (keys : List String) :
    bracketed (key :: keys) = "[" ++ key ++ "]" ++ bracketed keys := by
  simp [bracketed]

/-- Going down from a field that has a name puts a key in brackets. -/
theorem foldl_fieldName {parent : String} (h : parent ≠ "") (keys : List String) :
    keys.foldl fieldName parent = parent ++ bracketed keys := by
  induction keys generalizing parent with
  | nil => simp [bracketed]
  | cons key keys ih =>
      have hname : fieldName parent key = parent ++ "[" ++ key ++ "]" := by
        rw [fieldName, if_neg (by simpa using h)]
      have hnext : parent ++ "[" ++ key ++ "]" ≠ "" := by
        intro hempty
        have hlength := congrArg String.length hempty
        simp at hlength
      rw [List.foldl_cons, hname, ih hnext, bracketed_cons]
      simp only [String.append_assoc]

theorem foldl_fieldName_eq (parent : String) {path : List String} (h : ∀ key ∈ path, Document.IsFieldKey key) :
    path.foldl fieldName parent = fieldPath parent path := by
  cases path with
  | nil => rfl
  | cons key rest =>
      obtain ⟨hkey, -⟩ := h key List.mem_cons_self
      by_cases hparent : parent = ""
      · subst hparent
        rw [List.foldl_cons, show fieldName "" key = key from rfl, foldl_fieldName hkey, fieldPath, if_pos rfl]
      · rw [foldl_fieldName hparent, bracketed_cons, fieldPath, if_neg hparent]
        simp only [String.append_assoc]

/-- Texts up to a sign are known by what they start. -/
theorem eq_of_append_of_stop {stop : Char} {a b x y : List Char} (ha : stop ∉ a) (hb : stop ∉ b)
    (hx : ∀ c ∈ x.head?, c = stop) (hy : ∀ c ∈ y.head?, c = stop) (h : a ++ x = b ++ y) : a = b ∧ x = y := by
  induction a generalizing b with
  | nil =>
      cases b with
      | nil => exact ⟨rfl, h⟩
      | cons c b =>
          have hc : c = stop := hx c (by rw [show x = c :: (b ++ y) from h]; rfl)
          exact absurd (hc ▸ List.mem_cons_self) hb
  | cons c a ih =>
      cases b with
      | nil =>
          have hc : c = stop := hy c (by rw [show y = c :: (a ++ x) from h.symm]; rfl)
          exact absurd (hc ▸ List.mem_cons_self) ha
      | cons d b =>
          obtain ⟨rfl, htail⟩ := List.cons.inj h
          obtain ⟨rfl, hrest⟩ := ih (fun hin => ha (List.mem_cons_of_mem _ hin))
            (fun hin => hb (List.mem_cons_of_mem _ hin)) htail
          exact ⟨rfl, hrest⟩

theorem toList_bracketed_cons (key : String) (keys : List String) :
    (bracketed (key :: keys)).toList = '[' :: (key.toList ++ ']' :: (bracketed keys).toList) := by
  simp [bracketed_cons, String.toList_append]

theorem head?_bracketed (keys : List String) : ∀ c ∈ (bracketed keys).toList.head?, c = '[' := by
  cases keys with
  | nil => simp [bracketed]
  | cons key keys => simp [toList_bracketed_cons]

theorem bracketed_injective {first second : List String} (hfirst : ∀ key ∈ first, Document.IsFieldKey key)
    (hsecond : ∀ key ∈ second, Document.IsFieldKey key) (h : bracketed first = bracketed second) :
    first = second := by
  induction first generalizing second with
  | nil =>
      cases second with
      | nil => rfl
      | cons key keys =>
          have hchars := congrArg String.toList h
          rw [toList_bracketed_cons] at hchars
          cases hchars
  | cons key keys ih =>
      have hchars := congrArg String.toList h
      cases second with
      | nil =>
          rw [toList_bracketed_cons] at hchars
          cases hchars
      | cons other others =>
          obtain ⟨⟨-, -, hkey⟩, hkeys⟩ := List.forall_mem_cons.1 hfirst
          obtain ⟨⟨-, -, hother⟩, hothers⟩ := List.forall_mem_cons.1 hsecond
          rw [toList_bracketed_cons, toList_bracketed_cons, List.cons.injEq] at hchars
          obtain ⟨hname, hrest⟩ := eq_of_append_of_stop hkey hother (by simp) (by simp) hchars.2
          rw [String.toList_injective hname, ih hkeys hothers (String.toList_injective (List.cons.inj hrest).2)]

/-- Without a parent, a name is the first key and the others in brackets. -/
theorem toList_fieldPath_cons (key : String) (keys : List String) :
    (fieldPath "" (key :: keys)).toList = key.toList ++ (bracketed keys).toList := by
  rw [fieldPath, if_pos rfl, String.toList_append]

theorem fieldPath_cons_ne {key : String} (hkey : key ≠ "") (keys : List String) : fieldPath "" (key :: keys) ≠ "" := by
  intro hempty
  have hchars : key.toList ++ (bracketed keys).toList = [] := by
    rw [← toList_fieldPath_cons, hempty]
    rfl
  exact hkey (String.toList_injective (List.append_eq_nil_iff.1 hchars).1)

/-- The name of a field tells the keys and the positions that lead to it. -/
theorem fieldPath_injective {parent : String} {first second : List String}
    (hfirst : ∀ key ∈ first, Document.IsFieldKey key) (hsecond : ∀ key ∈ second, Document.IsFieldKey key)
    (h : fieldPath parent first = fieldPath parent second) : first = second := by
  by_cases hparent : parent = ""
  · subst hparent
    cases first with
    | nil =>
        cases second with
        | nil => rfl
        | cons key keys => exact absurd h.symm (fieldPath_cons_ne (hsecond key List.mem_cons_self).1 keys)
    | cons key keys =>
        cases second with
        | nil => exact absurd h (fieldPath_cons_ne (hfirst key List.mem_cons_self).1 keys)
        | cons other others =>
            obtain ⟨⟨-, hkey, -⟩, hkeys⟩ := List.forall_mem_cons.1 hfirst
            obtain ⟨⟨-, hother, -⟩, hothers⟩ := List.forall_mem_cons.1 hsecond
            have hchars := congrArg String.toList h
            rw [toList_fieldPath_cons, toList_fieldPath_cons] at hchars
            obtain ⟨hname, hrest⟩ :=
              eq_of_append_of_stop hkey hother (head?_bracketed keys) (head?_bracketed others) hchars
            rw [String.toList_injective hname, bracketed_injective hkeys hothers (String.toList_injective hrest)]
  · rw [← foldl_fieldName_eq parent hfirst, ← foldl_fieldName_eq parent hsecond, foldl_fieldName hparent,
      foldl_fieldName hparent, String.append_right_inj] at h
    exact bracketed_injective hfirst hsecond h

/-! ### Fields -/

/-- The text of a single value in a form: 1 or 0 for a truth value, and the text that it stands for otherwise. -/
def singleText : Document → Except Fault String
  | .bool b => .ok (if b then "1" else "0")
  | d => (Value.ofDocument "" [] d).toText

/-- A single value has the text in a form that it stands for. -/
theorem singleText_eq {d : Document} (h : d.IsJson) (hsingle : d.IsSingle) :
    ∃ s, fieldText? d = some s ∧ singleText d = .ok s := by
  cases h with
  | null | list | object => exact hsingle.elim
  | bool b => exact ⟨_, rfl, rfl⟩
  | int i hi => exact ⟨_, rfl, Value.shownInt_of_isJson hi⟩
  | float x => exact ⟨_, rfl, rfl⟩
  | text s => exact ⟨_, rfl, rfl⟩

/-- The field of a single value below a parent. -/
def fieldOf (parent : String) (p : List String × Document) : String × String :=
  (p.1.foldl fieldName parent, (fieldText? p.2).getD "")

theorem map_fieldOf_under (parent key : String) (ps : List (List String × Document)) :
    (ps.map fun p => (key :: p.1, p.2)).map (fieldOf parent) = ps.map (fieldOf (fieldName parent key)) := by
  rw [List.map_map]
  rfl

mutual

/-- Going down through a document from field to field meets its single values. -/
theorem leaves_eq (name : String) : (d : Document) → leaves name d = d.singles.map (fieldOf name)
  | .null | .bool _ | .int _ | .float _ | .text _ => rfl
  | .list items => by rw [leaves, itemLeaves_eq, Document.singles]
  | .object entries => by rw [leaves, entryLeaves_eq, Document.singles]

theorem itemLeaves_eq (parent : String) (position : Nat) : (items : List Document) →
    itemLeaves parent position items = (Document.itemSingles position items).map (fieldOf parent)
  | [] => rfl
  | d :: rest => by
    rw [itemLeaves, Document.itemSingles, List.map_append, map_fieldOf_under, leaves_eq _ d,
      itemLeaves_eq parent (position + 1) rest]

theorem entryLeaves_eq (parent : String) : (entries : List (String × Document)) →
    entryLeaves parent entries = (Document.entrySingles entries).map (fieldOf parent)
  | [] => rfl
  | (key, d) :: rest => by
    rw [entryLeaves, Document.entrySingles, List.map_append, map_fieldOf_under, leaves_eq _ d,
      entryLeaves_eq parent rest]

end

/-- Single values at different places have fields of different names. -/
theorem nodup_leaves {d : Document} (h : d.IsJson) (hkeys : d.HasFieldKeys) (parent : String) :
    ((leaves parent d).map (·.1)).Nodup := by
  have hpath {p : List String × Document} (hp : p ∈ d.singles) : ∀ key ∈ p.1, Document.IsFieldKey key :=
    hkeys.of_leads ((Document.mem_singles h).1 hp).1
  rw [leaves_eq, List.map_map]
  refine List.Nodup.map_on (fun p hp q hq heq => ?_) (Document.nodup_singles h).of_map
  have hnames : fieldPath parent p.1 = fieldPath parent q.1 := by
    rw [← foldl_fieldName_eq parent (hpath hp), ← foldl_fieldName_eq parent (hpath hq)]
    exact heq
  exact List.inj_on_of_nodup_map (Document.nodup_singles h) hp hq (fieldPath_injective (hpath hp) (hpath hq) hnames)

end Exchange

end Courier
