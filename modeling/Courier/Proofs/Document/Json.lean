import Courier.Document.Path
import Courier.Json.Reader
import Courier.Json.Writer
import Courier.Proofs.Document.Entries
import Mathlib.Data.Nat.Digits.Defs
import Mathlib.Tactic.Ring

/-! Documents that JSON has a text for. The reader of JSON makes no others: it takes the last value of a key, and it
refuses integers that are too long to be written again. -/

namespace Courier

namespace Document

/-- Documents that JSON has a text for: the keys of every object differ, and every integer is short enough to be
written. -/
inductive IsJson : Document → Prop
  | null : IsJson .null
  | bool (b : Bool) : IsJson (.bool b)
  | int (i : Int) (h : Number.writeInt? i = some (Number.writeInt i)) : IsJson (.int i)
  | float (x : Float) : IsJson (.float x)
  | text (s : String) : IsJson (.text s)
  | list (items : List Document) (h : ∀ d ∈ items, IsJson d) : IsJson (.list items)
  | object (entries : List (String × Document)) (hkeys : (entries.map (·.1)).Nodup)
      (h : ∀ e ∈ entries, IsJson e.2) : IsJson (.object entries)

/-- The text of a document by itself: nothing for `null`, a text as it is, and JSON for lists and objects. -/
def plainText : Document → String
  | .null => ""
  | .bool b => Json.boolWord b
  | .int i => Number.writeInt i
  | .float x => Number.plainLayout.write x
  | .text s => s
  | d => Json.write Json.oneLine d

theorem walk_object_cons (entries : List (String × Document)) (first : String) (rest : List String) :
    (Document.object entries).walk (first :: rest) =
      match entryOf? first entries with
      | some d => d.walk rest
      | none => .ok none := rfl

theorem IsJson.step {d part : Document} (h : d.IsJson) {segment : String} (hstep : d.step segment = .ok (some part)) :
    part.IsJson := by
  cases h with
  | object entries hkeys h => exact h _ (mem_of_entryOf? (Except.ok.inj hstep))
  | list items h =>
      rw [Document.step] at hstep
      cases hposition : Language.Path.position? segment with
      | error f =>
          rw [hposition] at hstep
          cases hstep
      | ok n =>
          rw [hposition] at hstep
          cases n with
          | none => cases hstep
          | some n => exact h _ (List.mem_of_getElem? (Except.ok.inj hstep))
  | _ => cases hstep

/-- The parts of a document that JSON has a text for are such documents. -/
theorem IsJson.walk {segments : List String} {d part : Document} (h : d.IsJson)
    (hwalk : d.walk segments = .ok (some part)) : part.IsJson := by
  induction segments generalizing d with
  | nil =>
      cases hwalk
      exact h
  | cons segment rest ih =>
      rw [Document.walk] at hwalk
      cases hstep : d.step segment with
      | error f =>
          rw [hstep] at hwalk
          cases hwalk
      | ok next =>
          rw [hstep] at hwalk
          cases next with
          | none => cases hwalk
          | some next => exact ih (h.step hstep) hwalk

/-! ### Objects -/

/-- The last values of some keys make up an object. -/
theorem IsJson.object_putEntries {pairs entries : List (String × Document)} (h : ∀ e ∈ pairs, IsJson e.2)
    (hentries : (Document.object entries).IsJson) : (Document.object (putEntries pairs entries)).IsJson := by
  induction pairs generalizing entries with
  | nil => exact hentries
  | cons p pairs ih =>
      obtain ⟨key, d⟩ := p
      refine ih (fun e he => h e (List.mem_cons_of_mem _ he)) ?_
      cases hentries with
      | object entries hkeys hall =>
          refine .object _ (nodup_keys_putEntry hkeys) fun e he => ?_
          rcases mem_putEntry he with rfl | he
          · exact h (key, d) List.mem_cons_self
          · exact hall e he

end Document

namespace Json

theorem skipFrom_of_not {c : Char} (h : isSpace c = false) (position : Nat) (cs : List Char) :
    skipFrom position (c :: cs) = ⟨position, c :: cs⟩ := by
  simp [skipFrom, h]

/-! ### Integers -/

theorem natOfDigits_lt {digits : List Nat} (h : ∀ n ∈ digits, n < 10) :
    Number.natOfDigits digits < 10 ^ digits.length := by
  have hfold (n : Nat) : digits.foldl (fun n d => 10 * n + d) n < (n + 1) * 10 ^ digits.length := by
    induction digits generalizing n with
    | nil => simp
    | cons d digits ih =>
        have hd := h d List.mem_cons_self
        have hrest := ih (fun m hm => h m (List.mem_cons_of_mem _ hm)) (10 * n + d)
        rw [List.foldl_cons, List.length_cons, Nat.pow_succ]
        calc digits.foldl (fun n d => 10 * n + d) (10 * n + d) < (10 * n + d + 1) * 10 ^ digits.length := hrest
          _ ≤ (10 * (n + 1)) * 10 ^ digits.length := Nat.mul_le_mul_right _ (by omega)
          _ = (n + 1) * (10 ^ digits.length * 10) := by ring
  simpa [Number.natOfDigits] using hfold 0

theorem takeDigits_lt (cs : List Char) : ∀ n ∈ (takeDigits cs).1, n < 10 := by
  induction cs with
  | nil => exact fun n hn => absurd hn List.not_mem_nil
  | cons c cs ih =>
      rw [takeDigits]
      split
      · rename_i hc
        intro n hn
        rcases List.mem_cons.1 hn with rfl | hn
        · simp only [Text.isAsciiDigit, Bool.and_eq_true, decide_eq_true_eq] at hc
          have hle : c.toNat ≤ 57 := hc.2
          omega
        · exact ih n hn
      · exact fun n hn => absurd hn List.not_mem_nil

theorem wholePart?_lt {cs rest : List Char} {digits : List Nat} (h : wholePart? cs = some (digits, rest)) :
    ∀ n ∈ digits, n < 10 := by
  unfold wholePart? at h
  split at h
  · cases h
    simp
  · split at h
    · cases h
    · have hdigits := takeDigits_lt cs
      rwa [Option.some.inj h] at hdigits

/-- An integer with few digits can be written again. -/
theorem writeInt?_of_length {digits : List Nat} (h : ∀ n ∈ digits, n < 10) (hlength : digits.length ≤ Number.digitLimit)
    (negative : Bool) :
    Number.writeInt? (if negative then -(Number.natOfDigits digits : Int) else Number.natOfDigits digits) =
      some (Number.writeInt (if negative then -(Number.natOfDigits digits : Int) else Number.natOfDigits digits)) := by
  have hlt : Number.natOfDigits digits < 10 ^ Number.digitLimit :=
    Nat.lt_of_lt_of_le (natOfDigits_lt h) (Nat.pow_le_pow_right (by decide) hlength)
  have hrepr := Nat.repr_length (Number.natOfDigits digits) Number.digitLimit (by decide) hlt
  have habs : (if negative then -(Number.natOfDigits digits : Int) else Number.natOfDigits digits).natAbs =
      Number.natOfDigits digits := by
    cases negative <;> simp
  unfold Number.writeInt? Number.writeInt
  rw [habs]
  simp only
  rw [if_neg (Nat.not_lt_of_le hrepr)]

theorem isJson_of_readNumber {cursor next : Cursor} {d : Document} (h : readNumber cursor = .ok (d, next)) :
    d.IsJson := by
  unfold readNumber at h
  simp only at h
  split at h
  · cases h
  · rename_i whole rest hwhole
    split at h
    · split at h
      · cases h
      · rename_i hlength
        cases h
        exact .int _ (writeInt?_of_length (wholePart?_lt hwhole) (Nat.le_of_not_lt hlength) _)
    · cases h
      exact .float _

theorem isJson_of_mem_words : ∀ w ∈ words, w.2.IsJson := by
  intro w hw
  simp only [words, List.mem_cons, List.not_mem_nil, or_false] at hw
  rcases hw with rfl | rfl | rfl | rfl | rfl | rfl
  · exact .null
  · exact .bool _
  · exact .bool _
  all_goals exact .float _

/-! ### Reading -/

/-- What is read with some fuel can be written. -/
structure ReadsJson (fuel : Nat) : Prop where
  value : ∀ room cursor d next, readValue fuel room cursor = .ok (d, next) → d.IsJson
  items : ∀ room cursor items next, readItems fuel room cursor = .ok (items, next) → ∀ d ∈ items, d.IsJson
  entries : ∀ room cursor pairs next, readEntries fuel room cursor = .ok (pairs, next) →
    ∀ e ∈ pairs, Document.IsJson e.2

theorem ReadsJson.value_succ {fuel : Nat} (ih : ReadsJson fuel) (room : Nat) (cursor : Cursor) (d : Document)
    (next : Cursor) (h : readValue (fuel + 1) room cursor = .ok (d, next)) : d.IsJson := by
  rw [readValue.eq_def] at h
  simp only at h
  split at h
  · cases h
  · split at h
    · cases h
    · cases h
      exact .text _
  · split at h
    · cases h
    · split at h
      · cases h
        exact .list [] fun _ hd => absurd hd List.not_mem_nil
      · split at h
        · cases h
        · rename_i hitems
          cases h
          exact .list _ (ih.items _ _ _ _ hitems)
  · split at h
    · cases h
    · split at h
      · cases h
        exact .object [] List.nodup_nil fun _ hd => absurd hd List.not_mem_nil
      · split at h
        · cases h
        · rename_i hentries
          cases h
          exact Document.IsJson.object_putEntries (ih.entries _ _ _ _ hentries)
            (.object [] List.nodup_nil fun _ hd => absurd hd List.not_mem_nil)
  · split at h
    · rename_i hword
      cases h
      exact isJson_of_mem_words _ (List.mem_of_find?_eq_some hword)
    · exact isJson_of_readNumber h

theorem ReadsJson.items_succ {fuel : Nat} (ih : ReadsJson fuel) (room : Nat) (cursor : Cursor) (items : List Document)
    (next : Cursor) (h : readItems (fuel + 1) room cursor = .ok (items, next)) : ∀ d ∈ items, d.IsJson := by
  rw [readItems.eq_def] at h
  simp only at h
  split at h
  · cases h
  · rename_i hvalue
    have hitem := ih.value _ _ _ _ hvalue
    split at h
    · cases h
      simpa using hitem
    · split at h
      · cases h
      · rename_i hitems
        cases h
        exact List.forall_mem_cons.2 ⟨hitem, ih.items _ _ _ _ hitems⟩
    · cases h

theorem ReadsJson.entries_succ {fuel : Nat} (ih : ReadsJson fuel) (room : Nat) (cursor : Cursor)
    (pairs : List (String × Document)) (next : Cursor) (h : readEntries (fuel + 1) room cursor = .ok (pairs, next)) :
    ∀ e ∈ pairs, Document.IsJson e.2 := by
  rw [readEntries.eq_def] at h
  simp only at h
  split at h
  · split at h
    · cases h
    · split at h
      · split at h
        · cases h
        · rename_i hvalue
          have hentry := ih.value _ _ _ _ hvalue
          split at h
          · cases h
            simpa using hentry
          · split at h
            · cases h
            · rename_i hentries
              cases h
              exact List.forall_mem_cons.2 ⟨hentry, ih.entries _ _ _ _ hentries⟩
          · cases h
      · cases h
  · cases h

theorem readsJson (fuel : Nat) : ReadsJson fuel := by
  induction fuel with
  | zero =>
      refine ⟨fun _ _ _ _ h => ?_, fun _ _ _ _ h => ?_, fun _ _ _ _ h => ?_⟩
      all_goals cases h
  | succ fuel ih => exact ⟨ih.value_succ, ih.items_succ, ih.entries_succ⟩

/-- Every document that is read has a text. -/
theorem isJson_of_read {s : String} {d : Document} (h : read s = .ok d) : d.IsJson := by
  have hall : readAll s.toList = .ok d := by
    unfold read at h
    cases hs : readAll s.toList with
    | error stop =>
        rw [hs] at h
        cases h
    | ok value =>
        rw [hs] at h
        cases h
        rfl
  unfold readAll at hall
  split at hall
  · cases hall
  · split at hall
    · cases hall
    · rename_i hvalue
      simp only at hall
      split at hall
      · cases hall
        exact (readsJson _).value _ _ _ _ hvalue
      · cases hall

end Json

end Courier
