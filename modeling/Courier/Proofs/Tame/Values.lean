import Courier.Language.Execution
import Courier.Proofs.Document.Entries
import Courier.Proofs.Results

/-! Values whose streams and loops belong to the run that they are in. Reading a stream and going through a loop are
changes of them, so that what such values are made of is all that a run can change without calling anything. -/

namespace Courier.Language

/-- Whether an object is loose, or made by a run before which nothing was changed. -/
def Identity.isLocal : Identity → Bool
  | .loose | .bound 0 _ => true
  | _ => false

/-- Whether a filter with some arguments by position adds to no list. A map applies the filter that the first of them
names, with the others, and follows an attribute if there are none. -/
def Filter.isQuiet (name : String) : List Value → Bool
  | [] => name != "indent"
  | v :: rest => name != "indent" && (name != "map" || v.text?.all fun n => isQuiet n rest)

theorem Filter.isQuiet_of_ne {name : String} (hindent : name ≠ "indent") (hmap : name ≠ "map")
    (positional : List Value) : isQuiet name positional := by
  cases positional <;> simp [isQuiet, hindent, hmap]

theorem Filter.ne_indent_of_isQuiet {name : String} {positional : List Value} (h : isQuiet name positional) :
    name ≠ "indent" := by
  cases positional <;> simp_all [isQuiet]

mutual

/-- All streams and loops in a value belong to the run. -/
def Value.IsTame : Value → Prop
  | .tuple _ items | .list _ items => AreTame items
  | .map _ entries => EntriesAreTame entries
  | .slice a b c => a.IsTame ∧ b.IsTame ∧ c.IsTame
  | .stream i _ left => i.isLocal ∧ left.IsTame
  | .view _ _ owner | .method owner _ => owner.IsTame
  | .record i kind fields => (kind = .loop → i.isLocal) ∧ FieldsAreTame fields
  | _ => True

def AreTame : List Value → Prop
  | [] => True
  | v :: rest => v.IsTame ∧ AreTame rest

def EntriesAreTame : List (Value × Value) → Prop
  | [] => True
  | (k, v) :: rest => (k.IsTame ∧ v.IsTame) ∧ EntriesAreTame rest

def FieldsAreTame : List (String × Value) → Prop
  | [] => True
  | (_, v) :: rest => v.IsTame ∧ FieldsAreTame rest

/-- What a cursor reads is tame, and it applies no filter that adds to a list while it reads. -/
def Cursor.IsTame : Cursor → Prop
  | .fixed items _ => AreTame items
  | .forward owner _ | .backward owner _ | .shared owner | .waiting owner => owner.IsTame
  | .keyed _ owner known ahead _ => owner.IsTame ∧ AreTame known ∧ AreTame ahead
  | .through name positional named held source =>
    Filter.isQuiet name positional ∧ AreTame positional ∧ FieldsAreTame named ∧ AreTame held ∧ source.IsTame
  | _ => True

end

theorem areTame_iff {vs : List Value} : AreTame vs ↔ ∀ v ∈ vs, v.IsTame := by
  induction vs with
  | nil => simp [AreTame]
  | cons v vs ih => simp [AreTame, ih]

theorem entriesAreTame_iff {entries : List (Value × Value)} :
    EntriesAreTame entries ↔ ∀ e ∈ entries, e.1.IsTame ∧ e.2.IsTame := by
  induction entries with
  | nil => simp [EntriesAreTame]
  | cons e entries ih => simp [EntriesAreTame, ih]

theorem fieldsAreTame_iff {fields : List (String × Value)} : FieldsAreTame fields ↔ ∀ e ∈ fields, e.2.IsTame := by
  induction fields with
  | nil => simp [FieldsAreTame]
  | cons e fields ih => simp [FieldsAreTame, ih]

attribute [simp] Value.IsTame Cursor.IsTame areTame_iff entriesAreTame_iff fieldsAreTame_iff

namespace Value

@[simp] theorem isTame_newInt (i : Int) : (newInt i).IsTame := trivial

@[simp] theorem isTame_newFloat (x : Float) : (newFloat x).IsTame := trivial

@[simp] theorem isTame_newText (s : String) : (newText s).IsTame := trivial

@[simp] theorem isTame_ownText (s : String) : (ownText s).IsTame := trivial

@[simp] theorem isTame_newTuple {items : List Value} : (newTuple items).IsTame ↔ ∀ v ∈ items, v.IsTame := areTame_iff

@[simp] theorem isTame_newList {items : List Value} : (newList items).IsTame ↔ ∀ v ∈ items, v.IsTame := areTame_iff

@[simp] theorem isTame_newMap {entries : List (Value × Value)} :
    (newMap entries).IsTame ↔ ∀ e ∈ entries, e.1.IsTame ∧ e.2.IsTame := entriesAreTame_iff

end Value

theorem isTame_of_entryOf? {name : String} {fields : List (String × Value)}
    (h : ∀ e ∈ fields, e.2.IsTame) : ∀ found ∈ entryOf? name fields, found.IsTame :=
  fun _ hfound => h _ (mem_of_entryOf? hfound)

namespace Value

theorem isTame_getD {o : Option Value} {d : Value} (h : ∀ v ∈ o, v.IsTame) (hd : d.IsTame) : (o.getD d).IsTame := by
  cases o with
  | none => exact hd
  | some v => exact h v rfl

theorem isTame_asInt? (v : Value) : ∀ i ∈ v.asInt?, i.IsTame := by
  unfold asInt?
  split <;> simp

theorem isTame_numberPart? (v : Value) (name : String) : ∀ part ∈ v.numberPart? name, part.IsTame := by
  unfold numberPart?
  split <;> simp
  all_goals exact isTame_asInt? _

theorem isTame_attribute? (chained : Bool) {v : Value} (name : String) (hv : v.IsTame) :
    ∀ part ∈ attribute? chained v name, part.IsTame := by
  unfold attribute?
  split
  · simp [closed]
  · split
    · simpa using hv
    · split
      · rename_i hpart
        simpa using isTame_numberPart? _ _ _ hpart
      · split
        · simp
        · simp only [IsTame, fieldsAreTame_iff] at hv
          exact isTame_of_entryOf? hv.2
      · simp only [IsTame, areTame_iff] at hv
        intro part h
        obtain ⟨e, he, rfl⟩ := Option.map_eq_some_iff.1 h
        exact hv _ (List.of_mem_zip (List.mem_of_find?_eq_some he)).2
      · split <;> [skip; split <;> [skip; split]] <;> simp
      · simp only [IsTame] at hv
        split <;> [skip; split <;> [skip; split]] <;> simp [hv]
      · split <;> [skip; split <;> [skip; split]] <;> simp
      · simp

theorem gives_asKey {v : Value} (hv : v.IsTame) : Gives IsTame v.asKey := by
  unfold asKey
  split
  · exact gives_error _
  · exact gives_ok hv

theorem isTame_lookup (key : Value) {entries : List (Value × Value)} (h : ∀ e ∈ entries, e.1.IsTame ∧ e.2.IsTame) :
    ∀ found ∈ lookup key entries, found.IsTame := by
  intro found hfound
  obtain ⟨e, he, rfl⟩ := Option.map_eq_some_iff.1 hfound
  exact (h e (List.mem_of_find?_eq_some he)).2

theorem gives_attributeOf (chained : Bool) {v : Value} (name : String) (hv : v.IsTame) :
    Gives IsTame (v.attributeOf chained name) := by
  unfold attributeOf
  split
  · simp only [IsTame, entriesAreTame_iff] at hv
    exact gives_ok (isTame_getD (isTame_lookup _ hv) (by simp [noAttribute]))
  · split
    · exact gives_ok (isTame_attribute? _ _ hv _ ‹_›)
    · split
      · exact gives_ok hv
      · exact gives_error _
  · exact gives_ok (isTame_getD (isTame_attribute? _ _ hv) (by simp [noAttribute]))

/-! ### Items and slices -/

theorem forall_sliceItems {α : Type} {P : α → Prop} {items : List α} (h : ∀ a ∈ items, P a) (start stop step : Value) :
    Gives (fun part => ∀ a ∈ part, P a) (sliceItems items start stop step) := by
  unfold sliceItems
  refine gives_bind fun bounds => ?_
  dsimp only
  split
  · exact gives_ok fun a ha => h a (List.mem_of_mem_drop (List.mem_of_mem_take ha))
  · refine gives_ok fun a ha => ?_
    obtain ⟨n, -, hn⟩ := List.mem_filterMap.1 ha
    exact h a (by simpa using Array.mem_of_getElem? hn)

theorem gives_sliced {v : Value} (hv : v.IsTame) (start stop step : Value) :
    Gives IsTame (v.sliced start stop step) := by
  unfold sliced
  split
  · refine gives_bind fun bounds => ?_
    split
    · exact gives_ok hv
    · exact gives_bind fun _ => gives_ok (by simp)
  · exact gives_bind fun _ => gives_ok (by simp)
  · exact gives_bind fun _ => gives_ok (by simp)
  · refine (forall_sliceItems (by simpa using hv) _ _ _).bind fun items hitems => ?_
    exact gives_ok (by simpa using hitems)
  · refine (forall_sliceItems (by simpa using hv) _ _ _).bind fun items hitems => ?_
    exact gives_ok (by simpa using hitems)
  · exact gives_bind fun _ => gives_ok (by simp)
  · exact gives_error _
  · split
    · exact gives_ok hv
    · exact gives_error _
  · exact gives_error _
  · exact gives_error _

theorem mem_of_at? {α : Type} {items : List α} {i : Int} {a : α} (h : a ∈ at? items i) : a ∈ items := by
  obtain ⟨n, -, hn⟩ := Option.bind_eq_some_iff.1 h
  exact List.mem_of_getElem? hn

theorem isTame_item? {v : Value} (key : Value) (hv : v.IsTame) : ∀ found ∈ item? v key, found.IsTame := by
  intro found h
  unfold item? at h
  split at h
  · exact gives_sliced hv _ _ _ _ (eq_ok_of_mem_toOption h)
  · obtain ⟨i, -, h⟩ := Option.bind_eq_some_iff.1 h
    obtain ⟨c, -, h⟩ := Option.bind_eq_some_iff.1 h
    cases h
    simp
  · obtain ⟨i, -, h⟩ := Option.bind_eq_some_iff.1 h
    obtain ⟨c, -, h⟩ := Option.bind_eq_some_iff.1 h
    cases h
    simp
  · obtain ⟨i, -, h⟩ := Option.bind_eq_some_iff.1 h
    obtain ⟨c, -, h⟩ := Option.bind_eq_some_iff.1 h
    cases h
    simp
  · obtain ⟨i, -, h⟩ := Option.bind_eq_some_iff.1 h
    simp only [IsTame, areTame_iff] at hv
    exact hv _ (mem_of_at? h)
  · obtain ⟨i, -, h⟩ := Option.bind_eq_some_iff.1 h
    simp only [IsTame, areTame_iff] at hv
    exact hv _ (mem_of_at? h)
  · obtain ⟨i, -, h⟩ := Option.bind_eq_some_iff.1 h
    obtain ⟨c, -, h⟩ := Option.bind_eq_some_iff.1 h
    cases h
    simp
  · split at h
    · cases h
    · simp only [IsTame, entriesAreTame_iff] at hv
      exact isTame_lookup _ hv _ h
  · cases h

theorem gives_noItem (chained : Bool) (v key : Value) : Gives IsTame (noItem chained v key) :=
  gives_bind fun _ => gives_ok (by simp)

theorem gives_item (chained : Bool) {v : Value} (key : Value) (hv : v.IsTame) : Gives IsTame (v.item chained key) := by
  unfold item
  split
  · split
    · exact gives_ok hv
    · exact gives_error _
  · split
    · exact gives_ok (isTame_item? key hv _ ‹_›)
    · split
      · exact gives_bind fun _ => gives_ok (by simp [closed])
      · split
        · exact gives_ok (isTame_attribute? _ _ hv _ ‹_›)
        · exact gives_noItem _ _ _
    · exact gives_noItem _ _ _

theorem isTame_ofEntry (kind : ViewKind) {k v : Value} (hk : k.IsTame) (hv : v.IsTame) :
    (ofEntry kind k v).IsTame := by
  cases kind <;> simp [ofEntry, hk, hv]

/-- Values that are made anew of something else are all of the same kind. -/
theorem forall_mem_map {α : Type} {f : α → Value} (h : ∀ a, (f a).IsTame) (as : List α) : ∀ w ∈ as.map f, w.IsTame :=
  List.forall_mem_map.2 fun a _ => h a

theorem gives_iterate {v : Value} (hv : v.IsTame) : Gives (fun read => ∀ w ∈ read.1, w.IsTame) v.iterate := by
  unfold iterate
  split
  · exact gives_ok (forall_mem_map (fun _ => by simp) _)
  · exact gives_ok (forall_mem_map (fun _ => by simp) _)
  · exact gives_ok (forall_mem_map (fun _ => by simp) _)
  · exact gives_ok (by simpa using hv)
  · exact gives_ok (by simpa using hv)
  · simp only [IsTame, entriesAreTame_iff] at hv
    exact gives_ok (List.forall_mem_map.2 fun e he => (hv e he).1)
  · exact gives_ok (forall_mem_map (fun _ => by simp) _)
  · simp only [IsTame, Cursor.IsTame, areTame_iff] at hv
    exact gives_ok hv.2
  · simp only [IsTame, entriesAreTame_iff] at hv
    exact gives_ok (List.forall_mem_map.2 fun e he => isTame_ofEntry _ (hv e he).1 (hv e he).2)
  · exact gives_ok (List.forall_mem_nil _)
  · exact gives_ok (List.forall_mem_nil _)
  · exact gives_ok (List.forall_mem_nil _)
  · exact gives_ok (List.forall_mem_nil _)
  · exact gives_ok (List.forall_mem_nil _)
  · exact gives_error _

theorem gives_items {v : Value} (hv : v.IsTame) : Gives (fun items => ∀ w ∈ items, w.IsTame) v.items := by
  refine (gives_iterate hv).bind fun read hread => ?_
  obtain ⟨items, fault⟩ := read
  cases fault with
  | none => exact gives_ok hread
  | some f => exact gives_error f

section

variable {P Q : Value → Prop}

theorem forall_putKey {key v : Value} (hkey : P key) (hv : Q v) {entries : List (Value × Value)}
    (h : ∀ e ∈ entries, P e.1 ∧ Q e.2) : ∀ e ∈ putKey key v entries, P e.1 ∧ Q e.2 := by
  induction entries with
  | nil => exact List.forall_mem_singleton.2 ⟨hkey, hv⟩
  | cons e entries ih =>
      rw [List.forall_mem_cons] at h
      unfold putKey
      split
      · exact List.forall_mem_cons.2 ⟨⟨h.1.1, hv⟩, h.2⟩
      · exact List.forall_mem_cons.2 ⟨h.1, ih h.2⟩

/-- What is so of the keys and the values that are put, and of those that were there, is so of all entries. -/
theorem forall_putKeys {pairs entries : List (Value × Value)} (hpairs : ∀ e ∈ pairs, P e.1 ∧ Q e.2)
    (h : ∀ e ∈ entries, P e.1 ∧ Q e.2) : ∀ e ∈ putKeys pairs entries, P e.1 ∧ Q e.2 := by
  induction pairs generalizing entries with
  | nil => exact h
  | cons p pairs ih =>
      rw [List.forall_mem_cons] at hpairs
      exact ih hpairs.2 (forall_putKey hpairs.1.1 hpairs.1.2 h)

end

/-! ### Coming to rest -/

theorem text?_bind (v : Value) (serial : Nat) : (v.bind 0 serial).1.text? = v.text? := by
  cases v with
  | text i s | int i n => cases i <;> simp only [bind] <;> (try split) <;> rfl
  | list i items | map i entries | view i kind owner | stream i type left | record i kind fields | float i x =>
    cases i <;> rfl
  | _ => rfl

/-- What a map applies does not depend on which objects its arguments are. -/
theorem isQuiet_bindAll (name : String) (vs : List Value) (serial : Nat) :
    Filter.isQuiet name (bindAll 0 vs serial).1 = Filter.isQuiet name vs := by
  induction vs generalizing name serial with
  | nil => rfl
  | cons v vs ih => simp only [bindAll, Filter.isQuiet, text?_bind, ih]

mutual

theorem isTame_bind (v : Value) (serial : Nat) (h : v.IsTame) : (v.bind 0 serial).1.IsTame := by
  cases v with
  | list i items =>
    cases i
    case loose => simpa [bind] using areTame_bindAll items (serial + 1) (by simpa using h)
    all_goals simpa [bind] using h
  | map i entries =>
    cases i
    case loose => simpa [bind] using entriesAreTame_bindEntries entries (serial + 1) (by simpa using h)
    all_goals simpa [bind] using h
  | tuple names items => simpa [bind] using areTame_bindAll items serial (by simpa using h)
  | method owner name => simpa [bind] using isTame_bind owner serial (by simpa using h)
  | view i kind owner =>
    cases i
    case loose => simpa [bind] using isTame_bind owner (serial + 1) (by simpa using h)
    all_goals simpa [bind] using h
  | stream i type left =>
    cases i
    case loose => simpa [bind, Identity.isLocal] using isTame_bindCursor left (serial + 1) (by simpa using h.2)
    all_goals simpa [bind] using h
  | record i kind fields =>
    cases i
    case loose => simpa [bind, Identity.isLocal] using fieldsAreTame_bindFields fields (serial + 1) h.2
    all_goals simpa [bind] using h
  | slice a b c => exact h
  | int i n => cases i <;> simp only [bind] <;> (try split) <;> simp
  | float i x => cases i <;> simp [bind]
  | text i s => cases i <;> simp only [bind] <;> (try split) <;> simp
  | _ => simp [bind]

theorem areTame_bindAll (vs : List Value) (serial : Nat) (h : AreTame vs) : AreTame (bindAll 0 vs serial).1 := by
  cases vs with
  | nil => trivial
  | cons v vs => exact ⟨isTame_bind v serial h.1, areTame_bindAll vs _ h.2⟩

theorem entriesAreTame_bindEntries (entries : List (Value × Value)) (serial : Nat) (h : EntriesAreTame entries) :
    EntriesAreTame (bindEntries 0 entries serial).1 := by
  cases entries with
  | nil => trivial
  | cons e entries =>
    obtain ⟨k, v⟩ := e
    exact ⟨⟨h.1.1, isTame_bind v serial h.1.2⟩, entriesAreTame_bindEntries entries _ h.2⟩

theorem fieldsAreTame_bindFields (fields : List (String × Value)) (serial : Nat) (h : FieldsAreTame fields) :
    FieldsAreTame (bindFields 0 fields serial).1 := by
  cases fields with
  | nil => trivial
  | cons e fields =>
    obtain ⟨n, v⟩ := e
    exact ⟨isTame_bind v serial h.1, fieldsAreTame_bindFields fields _ h.2⟩

theorem isTame_bindCursor (cursor : Cursor) (serial : Nat) (h : cursor.IsTame) :
    (bindCursor 0 cursor serial).1.IsTame := by
  cases cursor with
  | fixed items fault => exact areTame_bindAll items serial h
  | forward owner position => exact isTame_bind owner serial h
  | backward owner position => exact isTame_bind owner serial h
  | keyed kind owner known ahead n => exact ⟨isTame_bind owner serial h.1, h.2⟩
  | shared source => exact isTame_bind source serial h
  | waiting source => exact isTame_bind source serial h
  | through name positional named held source =>
    obtain ⟨hname, hpositional, hnamed, hheld, hsource⟩ := h
    exact ⟨by rwa [isQuiet_bindAll], areTame_bindAll positional serial hpositional,
      fieldsAreTame_bindFields named _ hnamed, areTame_bindAll held _ hheld, isTame_bindCursor source _ hsource⟩
  | done => trivial
  | busy => trivial

end

/-! ### Values in programs -/

mutual

/-- A value that can be written into a program is tame where it stands there. -/
theorem isTame_inProgram (epoch : Nat) (v : Value) (h : v.isWritable) : (v.inProgram epoch).IsTame := by
  cases v with
  | tuple names items =>
    simp only [isWritable, Bool.and_eq_true] at h
    exact areTame_inProgramAll epoch items h.2
  | list identity items => exact areTame_inProgramAll epoch items (by simpa only [isWritable] using h)
  | map identity entries => exact entriesAreTame_inProgramEntries epoch entries (by simpa only [isWritable] using h)
  | int _ _ | float _ _ | text _ _ => simp [inProgram]
  | none | bool _ | complex _ _ | safeText _ | range _ _ _ => simp [inProgram]
  | _ => simp [isWritable] at h

theorem areTame_inProgramAll (epoch : Nat) (vs : List Value) (h : isWritable.all vs) :
    AreTame (inProgramAll epoch vs) := by
  cases vs with
  | nil => trivial
  | cons v vs =>
    simp only [isWritable.all, Bool.and_eq_true] at h
    exact ⟨isTame_inProgram epoch v h.1, areTame_inProgramAll epoch vs h.2⟩

theorem entriesAreTame_inProgramEntries (epoch : Nat) (entries : List (Value × Value))
    (h : isWritable.allEntries entries) : EntriesAreTame (inProgramEntries epoch entries) := by
  cases entries with
  | nil => trivial
  | cons e entries =>
    obtain ⟨k, v⟩ := e
    simp only [isWritable.allEntries, Bool.and_eq_true] at h
    exact ⟨⟨isTame_inProgram epoch k h.1.1, isTame_inProgram epoch v h.1.2⟩,
      entriesAreTame_inProgramEntries epoch entries h.2⟩

end

end Value

-- Otherwise every goal about a value that is made by a long computation makes the elaborator carry it out.
attribute [irreducible] Value.IsTame Cursor.IsTame

/-! ### Operators -/

namespace Operation

open Value

theorem gives_ofFloat (r : Except Number.ArithmeticFault Float) : Gives IsTame (ofFloat r) := by
  cases r with
  | error e => exact gives_error _
  | ok x => exact gives_ok (by simp)

theorem gives_floatPower (x y : Float) : Gives IsTame (floatPower x y) := by
  unfold floatPower
  split
  · exact gives_ok (by simp [complexPower])
  · exact gives_ofFloat _

theorem gives_ofFloats (operator : BinaryOperator) (x y : Float) : Gives IsTame (ofFloats operator x y) := by
  cases operator <;> simp only [ofFloats]
  case power => exact gives_floatPower x y
  all_goals first
    | exact gives_ok (by simp)
    | (split <;> [exact gives_error _; exact gives_ok (by simp)])

theorem gives_floats {f : Float → Float → Except Fault Value} (hf : ∀ x y, Gives IsTame (f x y)) (a b : Value) :
    Gives IsTame (floats f a b) :=
  gives_bind fun x => gives_bind fun y => hf x y

theorem gives_ofInts (operator : BinaryOperator) (i j : Int) : Gives IsTame (ofInts operator i j) := by
  cases operator <;> simp only [ofInts]
  case divide =>
    split
    · exact gives_error _
    · exact gives_ofFloat _
  case power =>
    split
    · exact gives_ok (by simp)
    · exact gives_floats gives_floatPower _ _
  all_goals first
    | exact gives_ok (by simp)
    | (split <;> [exact gives_error _; exact gives_ok (by simp)])

theorem gives_onNumbers (operator : BinaryOperator) (a b : Value) :
    ∀ result ∈ onNumbers operator a b, Gives IsTame result := by
  intro result h
  unfold onNumbers at h
  split at h
  · cases h
    exact gives_ofFloats _ _ _
  · obtain ⟨i, -, rfl⟩ := Option.map_eq_some_iff.1 h
    exact gives_floats (gives_ofFloats operator) _ _
  · obtain ⟨i, -, rfl⟩ := Option.map_eq_some_iff.1 h
    exact gives_floats (gives_ofFloats operator) _ _
  · obtain ⟨i, -, h⟩ := Option.bind_eq_some_iff.1 h
    obtain ⟨j, -, h⟩ := Option.bind_eq_some_iff.1 h
    cases h
    exact gives_ofInts _ _ _

theorem gives_joined {a b : Value} (ha : a.IsTame) (hb : b.IsTame) : Gives IsTame (joined a b) := by
  unfold joined
  split
  case h_1 => exact gives_ok (by split <;> [simp; (split <;> simp)])
  case h_5 =>
    simp only [IsTame, areTame_iff] at ha hb
    exact gives_ok (by simpa using fun v hv => hv.elim (ha v) (hb v))
  case h_6 =>
    simp only [IsTame, areTame_iff] at ha hb
    exact gives_ok (by simpa using fun v hv => hv.elim (ha v) (hb v))
  all_goals first
    | exact gives_error _
    | exact gives_ok (by simp)

theorem forall_repeatItems {α : Type} {P : α → Prop} {items : List α} (h : ∀ a ∈ items, P a) (i : Int) :
    Gives (fun many => ∀ a ∈ many, P a) (repeatItems items i) := by
  refine gives_bind fun n => gives_ok fun a ha => ?_
  obtain ⟨l, hl, ha⟩ := List.mem_flatten.1 ha
  rw [List.eq_of_mem_replicate hl] at ha
  exact h a ha

theorem gives_repeated {sequence : Value} (h : sequence.IsTame) (count : Value) :
    Gives IsTame (repeated sequence count) := by
  unfold repeated
  split
  · exact gives_error _
  · split
    · split
      · exact gives_ok (by simp)
      · exact gives_bind fun _ => gives_ok (by simp)
    · exact gives_bind fun _ => gives_ok (by simp)
    · refine (forall_repeatItems (by simpa using h) _).bind fun items hitems => ?_
      exact gives_ok (by simpa using hitems)
    · refine (forall_repeatItems (by simpa using h) _).bind fun items hitems => ?_
      exact gives_ok (by simpa using hitems)
    · exact gives_error _

theorem gives_repeatedMarked (s : String) (count : Value) : Gives IsTame (repeatedMarked s count) := by
  unfold repeatedMarked
  split
  · exact gives_error _
  · exact gives_bind fun _ => gives_ok (by simp)

theorem isTame_placed (pattern : String) (v : Value) (result : String) : (placed pattern v result).IsTame := by
  unfold placed
  split
  · split <;> simp
  · split <;> simp
  · simp

theorem gives_onOthers (operator : BinaryOperator) {a b : Value} (ha : a.IsTame) (hb : b.IsTame) :
    Gives IsTame (onOthers operator a b) := by
  unfold onOthers
  split
  · exact gives_joined ha hb
  · split
    · exact gives_repeatedMarked _ _
    · exact gives_repeatedMarked _ _
    · split
      · exact gives_repeated ha b
      · split
        · exact gives_repeated hb a
        · exact gives_error _
  · split
    · exact gives_bind fun _ => gives_ok (isTame_placed _ _ _)
    · exact gives_bind fun _ => gives_ok (by simp)
    · exact gives_error _
  · exact gives_error _

theorem gives_binary (operator : BinaryOperator) {a b : Value} (ha : a.IsTame) (hb : b.IsTame) :
    Gives IsTame (binary operator a b) := by
  unfold binary
  split
  · exact gives_onNumbers operator a b _ ‹_›
  · split
    case h_5 => exact gives_ok (by simp)
    all_goals first
      | exact gives_error _
      | exact gives_onOthers _ ha hb

theorem gives_unary (operator : UnaryOperator) (v : Value) : Gives IsTame (unary operator v) := by
  unfold unary
  split
  case h_8 =>
    split
    · exact gives_ok (isTame_asInt? _ _ ‹_›)
    · exact gives_error _
  case h_7 =>
    split
    · exact gives_ok (by simp)
    · exact gives_error _
  all_goals first
    | exact gives_error _
    | exact gives_ok (by simp)

end Operation

/-! ### Paths and maps -/

namespace Path

theorem gives_step {v : Value} (h : v.IsTame) (segment : String) :
    Gives (fun found => ∀ w ∈ found, w.IsTame) (step v segment) := by
  unfold step
  split
  · simp only [Value.IsTame, entriesAreTame_iff] at h
    exact gives_ok (Value.isTame_lookup _ h)
  · simp only [Value.IsTame, areTame_iff] at h
    refine gives_bind fun n => ?_
    split
    · exact gives_ok fun w hw => h w (List.mem_of_getElem? hw)
    · exact gives_ok forall_mem_none
  · simp only [Value.IsTame, areTame_iff] at h
    refine gives_bind fun n => ?_
    split
    · exact gives_ok fun w hw => h w (List.mem_of_getElem? hw)
    · exact gives_ok forall_mem_none
  · exact gives_ok forall_mem_none

theorem gives_walk (segments : List String) {v : Value} (h : v.IsTame) :
    Gives (fun found => ∀ w ∈ found, w.IsTame) (walk segments v) := by
  induction segments generalizing v with
  | nil => exact gives_ok fun w hw => Option.some.inj hw ▸ h
  | cons segment segments ih =>
      refine (gives_step h segment).bind fun found hfound => ?_
      cases found with
      | none => exact gives_ok forall_mem_none
      | some w => exact ih (hfound w rfl)

end Path

theorem gives_mapOf {entries : List (Value × Value)} (h : ∀ e ∈ entries, e.1.IsTame ∧ e.2.IsTame) :
    Gives Value.IsTame (mapOf entries) := by
  unfold mapOf
  refine gives_bind fun _ => gives_ok ?_
  simpa using Value.forall_putKeys h (List.forall_mem_nil _)

end Courier.Language
