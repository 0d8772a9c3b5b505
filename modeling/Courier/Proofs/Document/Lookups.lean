import Courier.Document.Path
import Courier.Proofs.Language.Settled
import Courier.Proofs.Text.Digits

/-! Look-ups by path. Segments name the entries of objects and count the items of lists by decimal digits of any script;
what is reached so is found, and where nothing is, the default is given instead. A list does not take every segment of
digits for a number: some digits are not decimal, and too many of them are not read. A look-up that comes to a list with
such a segment fails, and no other does. -/

namespace Courier.Document

open Courier.Language Courier.Language.Path

variable {segment path : String} {way rest : List String} {d part other : Document} {f g : Fault}

/-! ### Segments that count items -/

/-- A segment counts to a place in a list: it is made of decimal digits of any script, and not of too many. -/
def Counts (segment : String) (n : Nat) : Prop :=
  ∃ values : List Nat, values ≠ [] ∧ segment.toList.map Text.decimalValue? = values.map some ∧
    values.length ≤ Number.digitLimit ∧ n = Number.natOfDigits values

/-- A segment of digits that is not read as a number: there are too many decimal digits at its start, or one of its
digits is not decimal. -/
inductive Unread (segment : String) : Fault → Prop
  | tooLong {front rest : List Char} (h : segment.toList = front ++ rest)
      (hfront : ∀ c ∈ front, Text.isDecimal c = true) (hrest : ∀ c ∈ rest, Text.isDigit c = true)
      (hstop : ∀ c ∈ rest.head?, Text.isDecimal c = false) (hlimit : Number.digitLimit < front.length) :
      Unread segment (.numeralTooLong front.length)
  | notDecimal {front rest : List Char} {c : Char} (h : segment.toList = front ++ c :: rest)
      (hfront : ∀ c ∈ front, Text.isDecimal c = true) (hc : Text.isDecimal c = false)
      (hrest : ∀ e ∈ c :: rest, Text.isDigit e = true) (hlimit : front.length ≤ Number.digitLimit) :
      Unread segment (.badNumeral (Text.quoted segment))

/-- How a list takes a segment of digits that has the decimal ones at its start apart. -/
theorem position?_of_digits {front rest : List Char} {values : List Nat} (h : segment.toList = front ++ rest)
    (hvalues : front.map Text.decimalValue? = values.map some) (hstop : ∀ c ∈ rest.head?, Text.isDecimal c = false)
    (hdigits : ∀ c ∈ front ++ rest, Text.isDigit c = true) (hne : front ++ rest ≠ []) :
    position? segment =
      if Number.digitLimit < values.length then .error (.numeralTooLong values.length)
      else if rest.isEmpty then .ok (some (Number.natOfDigits values)) else .error (.badNumeral (Text.quoted segment)) := by
  have hempty : segment.isEmpty = false := by
    rw [← h] at hne
    simpa using hne
  have hread := Number.readInt_of_digits hvalues hstop hdigits hne
  rw [← h, String.ofList_toList] at hread
  rw [position?, hempty, h, List.all_eq_true.2 hdigits, if_neg (by decide), hread]
  by_cases hlimit : Number.digitLimit < values.length
  · rw [if_pos hlimit, if_pos hlimit]
  · rw [if_neg hlimit, if_neg hlimit]
    cases rest.isEmpty <;> rfl

theorem length_values {front : List Char} {values : List Nat}
    (hvalues : front.map Text.decimalValue? = values.map some) : values.length = front.length := by
  simpa using (congrArg List.length hvalues).symm

theorem isDecimal_of_values {cs : List Char} {values : List Nat}
    (hvalues : cs.map Text.decimalValue? = values.map some) : ∀ c ∈ cs, Text.isDecimal c = true := by
  intro c hc
  have hin : Text.decimalValue? c ∈ values.map some := hvalues ▸ List.mem_map_of_mem hc
  obtain ⟨value, -, hvalue⟩ := List.mem_map.1 hin
  rw [Text.isDecimal, ← hvalue]
  rfl

theorem Counts.position? {n : Nat} (h : Counts segment n) : position? segment = .ok (some n) := by
  obtain ⟨values, hne, hvalues, hlimit, rfl⟩ := h
  have hdecimal := isDecimal_of_values hvalues
  have hcs : segment.toList ≠ [] := by
    rintro hcs
    rw [hcs] at hvalues
    exact hne (by simpa using hvalues.symm)
  rw [position?_of_digits (List.append_nil _).symm hvalues (by simp), if_neg (Nat.not_lt.2 hlimit)]
  · rfl
  · rw [List.append_nil]
    exact fun c hc => Text.isDigit_of_isDecimal (hdecimal c hc)
  · rwa [List.append_nil]

theorem Unread.position? (h : Unread segment f) : position? segment = .error f := by
  have hdigits {front rest : List Char} (hfront : ∀ c ∈ front, Text.isDecimal c = true)
      (hrest : ∀ c ∈ rest, Text.isDigit c = true) : ∀ c ∈ front ++ rest, Text.isDigit c = true :=
    List.forall_mem_append.2 ⟨fun c hc => Text.isDigit_of_isDecimal (hfront c hc), hrest⟩
  cases h with
  | @tooLong front rest h hfront hrest hstop hlimit =>
      obtain ⟨values, hvalues⟩ := Text.exists_values hfront
      have hne : front ++ rest ≠ [] :=
        List.append_ne_nil_of_left_ne_nil (List.ne_nil_of_length_pos (Nat.zero_lt_of_lt hlimit)) _
      rw [position?_of_digits h hvalues hstop (hdigits hfront hrest) hne, length_values hvalues, if_pos hlimit]
  | @notDecimal front rest c h hfront hc hrest hlimit =>
      obtain ⟨values, hvalues⟩ := Text.exists_values hfront
      rw [position?_of_digits h hvalues (by simpa using hc) (hdigits hfront hrest) (by simp), length_values hvalues,
        if_neg (Nat.not_lt.2 hlimit)]
      rfl

/-- Every other segment counts nothing in a list. -/
theorem counts_or_unread (segment : String) :
    (∃ n, Counts segment n) ∨ (∃ f, Unread segment f) ∨ Path.position? segment = .ok none := by
  by_cases hplain : segment.isEmpty || !segment.toList.all Text.isDigit
  · exact Or.inr (Or.inr (if_pos hplain))
  simp only [Bool.or_eq_true, Bool.not_eq_true', not_or, Bool.not_eq_true, Bool.not_eq_false, List.all_eq_true] at hplain
  obtain ⟨hempty, hdigits⟩ := hplain
  obtain ⟨front, rest, hsplit, hfront, hstop⟩ := Text.exists_decimals segment.toList
  obtain ⟨values, hvalues⟩ := Text.exists_values hfront
  rw [hsplit] at hdigits
  have hrest : ∀ c ∈ rest, Text.isDigit c = true := fun c hc => hdigits c (List.mem_append_right _ hc)
  rcases Nat.lt_or_ge Number.digitLimit front.length with hlimit | hlimit
  · exact Or.inr (Or.inl ⟨_, .tooLong hsplit hfront hrest hstop hlimit⟩)
  · cases rest with
    | nil =>
        rw [List.append_nil] at hsplit
        refine Or.inl ⟨_, values, ?_, hsplit ▸ hvalues, length_values hvalues ▸ hlimit, rfl⟩
        rintro rfl
        have hnil : segment.toList = [] := by simpa [hsplit] using hvalues
        rw [String.toList_eq_nil_iff.1 hnil] at hempty
        cases hempty
    | cons c rest => exact Or.inr (Or.inl ⟨_, .notDecimal hsplit hfront (hstop c rfl) hrest hlimit⟩)

/-! ### Walks -/

/-- The part at a segment: of an object the entry of that key, and of a list the item that it counts to. -/
inductive PartAt (segment : String) : Document → Document → Prop
  | key {entries : List (String × Document)} {part : Document} (h : entryOf? segment entries = some part) :
      PartAt segment (.object entries) part
  | item {items : List Document} {part : Document} {n : Nat} (hcounts : Counts segment n)
      (h : items[n]? = some part) : PartAt segment (.list items) part

/-- Segments lead from a document to a part of it, one after the other. -/
inductive Reaches : Document → List String → Document → Prop
  | here (d : Document) : Reaches d [] d
  | next {d part found : Document} {segment : String} {rest : List String} (h : PartAt segment d part)
      (hrest : Reaches part rest found) : Reaches d (segment :: rest) found

/-- Segments lead to a list that does not take the next one of them for a number. -/
def Stumbles (d : Document) (way : List String) (f : Fault) : Prop :=
  ∃ front segment rest items, way = front ++ segment :: rest ∧ Reaches d front (.list items) ∧ Unread segment f

theorem step_eq_some_iff : d.step segment = .ok (some part) ↔ PartAt segment d part := by
  constructor
  · intro h
    cases d with
    | object entries => exact .key (Except.ok.inj h)
    | list items =>
        rcases counts_or_unread segment with ⟨n, hn⟩ | ⟨f, hf⟩ | hnone
        · rw [Document.step, hn.position?] at h
          exact .item hn (Except.ok.inj h)
        · rw [Document.step, hf.position?] at h
          cases h
        · rw [Document.step, hnone] at h
          cases h
    | _ => cases h
  · rintro (h | ⟨hn, h⟩)
    · exact congrArg Except.ok h
    · rw [Document.step, hn.position?]
      exact congrArg Except.ok h

theorem step_eq_error_iff : d.step segment = .error f ↔ ∃ items, d = .list items ∧ Unread segment f := by
  constructor
  · intro h
    cases d with
    | list items =>
        refine ⟨items, rfl, ?_⟩
        rcases counts_or_unread segment with ⟨n, hn⟩ | ⟨g, hg⟩ | hnone
        · rw [Document.step, hn.position?] at h
          cases h
        · rw [Document.step, hg.position?] at h
          cases h
          exact hg
        · rw [Document.step, hnone] at h
          cases h
    | _ => cases h
  · rintro ⟨items, rfl, hf⟩
    rw [Document.step, hf.position?]
    rfl

/-- A walk ends at the part that is reached. -/
theorem walk_eq_some_iff : d.walk way = .ok (some part) ↔ Reaches d way part := by
  induction way generalizing d with
  | nil =>
      constructor
      · intro h
        cases h
        exact .here _
      · intro h
        cases h
        rfl
  | cons segment rest ih =>
      constructor
      · intro h
        rw [Document.walk] at h
        cases hstep : d.step segment with
        | error f =>
            rw [hstep] at h
            cases h
        | ok next =>
            rw [hstep] at h
            cases next with
            | none => cases h
            | some next => exact .next (step_eq_some_iff.1 hstep) (ih.1 h)
      · intro h
        cases h with
        | next hpart hrest =>
            rw [Document.walk, step_eq_some_iff.2 hpart]
            exact ih.2 hrest

/-- A walk fails exactly where it stumbles. -/
theorem walk_eq_error_iff : d.walk way = .error f ↔ Stumbles d way f := by
  induction way generalizing d with
  | nil =>
      refine iff_of_false (fun h => by cases h) ?_
      rintro ⟨front, segment, rest, items, heq, -⟩
      simp at heq
  | cons segment rest ih =>
      constructor
      · intro h
        rw [Document.walk] at h
        cases hstep : d.step segment with
        | error g =>
            rw [hstep] at h
            cases h
            obtain ⟨items, rfl, hf⟩ := step_eq_error_iff.1 hstep
            exact ⟨[], segment, rest, items, rfl, .here _, hf⟩
        | ok next =>
            rw [hstep] at h
            cases next with
            | none => cases h
            | some next =>
                obtain ⟨front, last, back, items, rfl, hreaches, hf⟩ := ih.1 h
                exact ⟨segment :: front, last, back, items, rfl, .next (step_eq_some_iff.1 hstep) hreaches, hf⟩
      · rintro ⟨front, last, back, items, heq, hreaches, hf⟩
        cases hreaches with
        | here =>
            obtain ⟨rfl, rfl⟩ := List.cons.inj heq
            rw [Document.walk, step_eq_error_iff.2 ⟨items, rfl, hf⟩]
            rfl
        | next hpart hrest =>
            obtain ⟨rfl, rfl⟩ := List.cons.inj heq
            rw [Document.walk, step_eq_some_iff.2 hpart]
            exact ih.2 ⟨_, _, _, _, rfl, hrest, hf⟩

/-! ### Look-ups -/

/-- A look-up gives the part that is reached, and the default where none is; it fails exactly where it stumbles. -/
structure IsLookup {α : Type} (d : Document) (way : List String) (default : α) (Is : Document → α → Prop)
    (answer : Except Fault α) : Prop where
  found : ∀ part, Reaches d way part → ∃ v, answer = .ok v ∧ Is part v
  lost : (∀ part, ¬ Reaches d way part) → (∀ f, ¬ Stumbles d way f) → answer = .ok default
  failed : ∀ f, answer = .error f ↔ Stumbles d way f

/-- What follows a walk is a look-up. -/
theorem isLookup_of_walk {α : Type} {default : α} {Is : Document → α → Prop} {answer : Except Fault α}
    (h : match d.walk way with
      | .ok (some part) => ∃ v, answer = .ok v ∧ Is part v
      | .ok none => answer = .ok default
      | .error f => answer = .error f) : IsLookup d way default Is answer := by
  cases hwalk : d.walk way with
  | error f =>
      rw [hwalk] at h
      refine ⟨fun part hpart => ?_, fun _ hno => absurd (walk_eq_error_iff.1 hwalk) (hno f), fun g => ?_⟩
      · rw [walk_eq_some_iff.2 hpart] at hwalk
        cases hwalk
      · rw [← walk_eq_error_iff, hwalk, h, Except.error.injEq, Except.error.injEq]
  | ok found =>
      have hno (f : Fault) : ¬ Stumbles d way f := by
        rw [← walk_eq_error_iff, hwalk]
        exact nofun
      rw [hwalk] at h
      cases found with
      | none =>
          refine ⟨fun part hpart => ?_, fun _ _ => h, fun f => iff_of_false ?_ (hno f)⟩
          · rw [walk_eq_some_iff.2 hpart] at hwalk
            cases hwalk
          · rw [h]
            exact nofun
      | some part =>
          obtain ⟨v, hv, his⟩ := h
          refine ⟨fun other hother => ?_, fun hnone _ => absurd (walk_eq_some_iff.1 hwalk) (hnone part),
            fun f => iff_of_false ?_ (hno f)⟩
          · rw [walk_eq_some_iff.2 hother] at hwalk
            cases hwalk
            exact ⟨v, hv, his⟩
          · rw [hv]
            exact nofun

/-- A look-up in the value of a document, as in the document. -/
theorem isLookup_walk_ofDocument (d : Document) (way : List String) (default : Value) (root : String)
    (place : List Nat) : IsLookup d way default (Value.IsOf root)
      ((Path.walk way (.ofDocument root place d)).map fun v => v.getD default) := by
  have hwalk := Value.walk_ofDocument root way place d
  refine isLookup_of_walk ?_
  split at hwalk
  · rename_i found hfound
    obtain ⟨v, hv, hrel⟩ := hwalk
    rw [hv]
    cases hrel with
    | none => rw [hfound]; rfl
    | some hof => rw [hfound]; exact ⟨_, rfl, hof⟩
  · rename_i f hf
    rw [hwalk, hf]
    rfl

/-- Look-ups by path in documents and in their values. A whole path that is a key of an object is found before its
segments, but not where a template resolves it. -/
theorem lookup_spec (d : Document) (path : String) (root : String) (place : List Nat) :
    IsLookup d (segments path) .none (Value.IsOf root) (Path.resolve (.ofDocument root place d) path) ∧
    ∀ (default : Document) (missing : Value),
      match d.get? path with
      | some whole => d.find path default = .ok whole ∧
          ∃ v, Path.find [] (.ofDocument root place d) path missing = .ok v ∧ Value.IsOf root whole v
      | none => IsLookup d (segments path) default Eq (d.find path default) ∧
          IsLookup d (segments path) missing (Value.IsOf root) (Path.find [] (.ofDocument root place d) path missing) := by
  refine ⟨isLookup_walk_ofDocument d _ _ root place, fun default missing => ?_⟩
  have hcurrent := Value.current_ofDocument (Changes.spares_nil root) place d
  have hwhole : Option.Rel (Value.IsOf root) (d.get? path) (wholeKey? [] (.ofDocument root place d) path) := by
    rw [wholeKey?, hcurrent]
    cases d with
    | object entries => exact Value.lookup_ofEntries root place 0 path entries
    | _ => exact .none
  have hwalk := isLookup_walk_ofDocument d (segments path) missing root place
  rw [← walkShared_ofDocument] at hwalk
  unfold find Path.find
  generalize d.get? path = whole at hwhole ⊢
  generalize wholeKey? [] (.ofDocument root place d) path = shared at hwhole ⊢
  cases hwhole with
  | some hof => exact ⟨rfl, _, rfl, hof⟩
  | none =>
      refine ⟨isLookup_of_walk ?_, hwalk⟩
      cases d.walk (segments path) with
      | error f => rfl
      | ok found =>
          cases found with
          | none => rfl
          | some part => exact ⟨part, rfl, rfl⟩

example : find (.object [("a", .list [.int 1])]) "a.²" .null = .error (.badNumeral "'²'") := by
  cbv

end Courier.Document
