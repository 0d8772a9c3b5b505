import Courier.Proofs.Document.Literals
import Mathlib.Data.Bool.AllAny

/-! Documents that were written on one line are read as they were, with characters beyond ASCII escaped or not. What is
written of a part is followed by a comma or by the end of the part around it, and the reader stops there. -/

namespace Courier

namespace Text

/-- Texts that have a UTF-8 form: no half of a surrogate pair stands in them. -/
def IsEncodable (s : String) : Prop := ∀ c ∈ s.toList, isScalar c

end Text

namespace Document

/-- Documents whose numbers are integers and whose containers are nested within a limit. -/
inductive IsWithin : Nat → Document → Prop
  | null (room : Nat) : IsWithin room .null
  | bool (room : Nat) (b : Bool) : IsWithin room (.bool b)
  | int (room : Nat) (i : Int) : IsWithin room (.int i)
  | text (room : Nat) (s : String) : IsWithin room (.text s)
  | list (room : Nat) (items : List Document) (h : ∀ d ∈ items, IsWithin room d) : IsWithin (room + 1) (.list items)
  | object (room : Nat) (entries : List (String × Document)) (h : ∀ e ∈ entries, IsWithin room e.2) :
      IsWithin (room + 1) (.object entries)

/-- Documents whose texts and keys have a UTF-8 form. -/
inductive IsEncodable : Document → Prop
  | null : IsEncodable .null
  | bool (b : Bool) : IsEncodable (.bool b)
  | int (i : Int) : IsEncodable (.int i)
  | float (x : Float) : IsEncodable (.float x)
  | text (s : String) (h : Text.IsEncodable s) : IsEncodable (.text s)
  | list (items : List Document) (h : ∀ d ∈ items, IsEncodable d) : IsEncodable (.list items)
  | object (entries : List (String × Document)) (hkeys : ∀ e ∈ entries, Text.IsEncodable e.1)
      (h : ∀ e ∈ entries, IsEncodable e.2) : IsEncodable (.object entries)

theorem IsEncodable.of_text {s : String} (h : (Document.text s).IsEncodable) : Text.IsEncodable s := by
  cases h with
  | text _ hs => exact hs

theorem IsEncodable.of_item {items : List Document} (h : (Document.list items).IsEncodable) :
    ∀ d ∈ items, d.IsEncodable := by
  cases h with
  | list _ hitems => exact hitems

theorem IsEncodable.of_entry {entries : List (String × Document)} (h : (Document.object entries).IsEncodable) :
    ∀ e ∈ entries, Text.IsEncodable e.1 ∧ e.2.IsEncodable := by
  cases h with
  | object _ hkeys hentries => exact fun e he => ⟨hkeys e he, hentries e he⟩

/-- A list that holds a list, and so on for some levels. -/
def nested : Nat → Document
  | 0 => .int 1
  | n + 1 => .list [nested n]

theorem isJson_nested (n : Nat) : (nested n).IsJson := by
  induction n with
  | zero => exact .int 1 rfl
  | succ n ih =>
      refine .list _ fun d hd => ?_
      rwa [List.mem_singleton.1 hd]

theorem isWithin_nested (n : Nat) : (nested n).IsWithin n := by
  induction n with
  | zero => exact .int 0 1
  | succ n ih =>
      refine .list n _ fun d hd => ?_
      rwa [List.mem_singleton.1 hd]

end Document

namespace Json

/-! ### What is written -/

/-- One line, with characters beyond ASCII escaped or not. -/
def line (ascii : Bool) : Style := ⟨ascii, none⟩

/-- The characters of a document on one line. -/
def written (ascii : Bool) (depth : Nat) (d : Document) : List Char := (writeAt (line ascii) depth d).toList

variable {ascii : Bool}

/-- The characters of an entry after its opening quote. -/
def entryRest (ascii : Bool) (depth : Nat) (e : String × Document) : List Char :=
  e.1.toList.flatMap (lineChar ascii) ++ '"' :: ':' :: ' ' :: written ascii depth e.2

theorem toList_string (s : String) :
    ((line ascii).string s).toList = '"' :: (s.toList.flatMap (lineChar ascii) ++ ['"']) := by
  cases ascii with
  | true => exact String.toList_ofList
  | false => exact String.toList_ofList

theorem written_text (depth : Nat) (s : String) :
    written ascii depth (.text s) = '"' :: (s.toList.flatMap (lineChar ascii) ++ ['"']) := by
  rw [written, writeAt, toList_string]

theorem written_list (depth : Nat) (item : Document) (items : List Document) :
    written ascii depth (.list (item :: items)) =
      '[' :: (written ascii (depth + 1) item ++ ((writeItems (line ascii) (depth + 1) items).toList ++ [']'])) := by
  have hbreak (depth : Nat) : ((line ascii).lineBreak depth).toList = [] := rfl
  simp [written, writeAt, hbreak]

theorem written_object (depth : Nat) (e : String × Document) (entries : List (String × Document)) :
    written ascii depth (.object (e :: entries)) = '\x7b' :: '"' ::
      (entryRest ascii (depth + 1) e ++ ((writeEntries (line ascii) (depth + 1) entries).toList ++ ['\x7d'])) := by
  have hbreak (depth : Nat) : ((line ascii).lineBreak depth).toList = [] := rfl
  simp [written, writeAt, hbreak, entryRest, toList_string]

theorem toList_writeItems_cons (depth : Nat) (d : Document) (items : List Document) :
    (writeItems (line ascii) depth (d :: items)).toList =
      ',' :: ' ' :: (written ascii depth d ++ (writeItems (line ascii) depth items).toList) := by
  have hseparator : (line ascii).separator depth = ", " := rfl
  simp [writeItems, hseparator, written]

theorem toList_writeEntries_cons (depth : Nat) (e : String × Document) (entries : List (String × Document)) :
    (writeEntries (line ascii) depth (e :: entries)).toList =
      ',' :: ' ' :: '"' :: (entryRest ascii depth e ++ (writeEntries (line ascii) depth entries).toList) := by
  have hseparator : (line ascii).separator depth = ", " := rfl
  simp [writeEntries, hseparator, entryRest, toList_string, written]

/-! ### Single values -/

variable {fuel room : Nat}

/-- What is written of a document is read as it was, whatever stands behind it that stops a value. -/
def Reads (ascii : Bool) (room : Nat) (d : Document) : Prop :=
  ∀ depth fuel position rest, Stops rest → 2 * (written ascii depth d).length ≤ fuel →
    ∃ next, readValue (fuel + 1) room ⟨position, written ascii depth d ++ rest⟩ = .ok (d, ⟨next, rest⟩)

/-- What is written of an integer starts with its sign, which a digit follows, or with a digit. -/
theorem exists_head_writeInt (i : Int) : ∃ c cs, Text.isAsciiDigit c ∧
    ((Number.writeInt i).toList = c :: cs ∨ (Number.writeInt i).toList = '-' :: c :: cs) := by
  obtain ⟨c, cs, hdigits, hc⟩ := exists_toDigits i.natAbs
  refine ⟨c, cs, hc, ?_⟩
  rw [toList_writeInt, hdigits]
  split
  · exact Or.inr rfl
  · exact Or.inl rfl

theorem isSpace_of_isAsciiDigit {c : Char} (h : Text.isAsciiDigit c) : isSpace c = false := by
  refine Bool.eq_false_iff.2 fun hspace => ?_
  simp only [isSpace, Bool.or_eq_true, beq_iff_eq] at hspace
  rcases hspace with ((rfl | rfl) | rfl) | rfl <;> cases h

/-- No digit starts a word, stands second in one, opens a string or a container, or closes a list. -/
theorem ne_of_isAsciiDigit {c : Char} (h : Text.isAsciiDigit c) :
    ∀ d ∈ ['n', 't', 'f', 'N', 'I', '-', '"', '[', ']', '\x7b'], d ≠ c := by
  have hmarks : ∀ d ∈ ['n', 't', 'f', 'N', 'I', '-', '"', '[', ']', '\x7b'], Text.isAsciiDigit d = false :=
    List.all_iff_forall_prop.1 (by decide)
  rintro d hd rfl
  rw [hmarks d hd] at h
  cases h

/-- No word starts like an integer. -/
theorem find?_words_writeInt (i : Int) (rest : List Char) :
    (words.find? fun w => w.1.isPrefixOf ((Number.writeInt i).toList ++ rest)) = none := by
  rw [List.find?_eq_none]
  intro w hw
  obtain ⟨c, cs, hc, heq | heq⟩ := exists_head_writeInt i
  all_goals
    have hne := ne_of_isAsciiDigit hc
    simp only [List.forall_mem_cons] at hne
    simp only [words, List.mem_cons, List.not_mem_nil, or_false] at hw
    rcases hw with rfl | rfl | rfl | rfl | rfl | rfl
    all_goals simp [heq, hne]

/-- What is no string and no container is a word or a number. -/
theorem readValue_plain (position : Nat) {c : Char} (hquote : c ≠ '"') (hlist : c ≠ '[') (hobject : c ≠ '\x7b')
    (cs : List Char) :
    readValue (fuel + 1) room ⟨position, c :: cs⟩ =
      match words.find? fun w => w.1.isPrefixOf (c :: cs) with
      | some (word, value) => .ok (value, Cursor.advance ⟨position, c :: cs⟩ word.length)
      | none => readNumber ⟨position, c :: cs⟩ := by
  rw [readValue]
  split
  · rename_i heq
    cases heq
  · rename_i heq
    exact absurd (List.cons.inj heq).1 hquote
  · rename_i heq
    exact absurd (List.cons.inj heq).1 hlist
  · rename_i heq
    exact absurd (List.cons.inj heq).1 hobject
  · rfl

theorem reads_null : Reads ascii room .null := by
  intro depth fuel position rest _ _
  refine ⟨position + 4, ?_⟩
  rw [written, writeAt]
  exact readValue_plain (c := 'n') position (by decide) (by decide) (by decide) ('u' :: 'l' :: 'l' :: rest)

theorem reads_bool (b : Bool) : Reads ascii room (.bool b) := by
  intro depth fuel position rest _ _
  cases b with
  | true =>
      refine ⟨position + 4, ?_⟩
      rw [written, writeAt]
      exact readValue_plain (c := 't') position (by decide) (by decide) (by decide) ('r' :: 'u' :: 'e' :: rest)
  | false =>
      refine ⟨position + 5, ?_⟩
      rw [written, writeAt]
      exact readValue_plain (c := 'f') position (by decide) (by decide) (by decide) ('a' :: 'l' :: 's' :: 'e' :: rest)

theorem reads_int {i : Int} (h : Number.writeInt? i = some (Number.writeInt i)) : Reads ascii room (.int i) := by
  intro depth fuel position rest hrest _
  obtain ⟨next, hread⟩ := exists_readNumber h position hrest
  refine ⟨next, ?_⟩
  show readValue (fuel + 1) room ⟨position, (Number.writeInt i).toList ++ rest⟩ = _
  have hwords := find?_words_writeInt i rest
  obtain ⟨c, cs, hc, heq | heq⟩ := exists_head_writeInt i
  · have hne := ne_of_isAsciiDigit hc
    rw [heq, List.cons_append] at hwords hread ⊢
    rw [readValue_plain position (hne _ (by decide)).symm (hne _ (by decide)).symm (hne _ (by decide)).symm, hwords]
    exact hread
  · rw [heq, List.cons_append] at hwords hread ⊢
    rw [readValue_plain position (by decide) (by decide) (by decide), hwords]
    exact hread

/-- A string is no longer than what is written of it. -/
theorem length_le_flatMap_lineChar (ascii : Bool) (cs : List Char) :
    cs.length ≤ (cs.flatMap (lineChar ascii)).length := by
  induction cs with
  | nil => exact Nat.le_refl 0
  | cons c cs ih =>
      have hc := List.length_pos_of_ne_nil (lineChar_ne_nil ascii c)
      rw [List.flatMap_cons, List.length_append, List.length_cons]
      omega

theorem reads_text {s : String} (hs : ascii → Text.IsEncodable s) : Reads ascii room (.text s) := by
  intro depth fuel position rest _ hfuel
  have hlength := length_le_flatMap_lineChar ascii s.toList
  rw [written_text] at hfuel ⊢
  simp only [List.length_cons, List.length_append, List.length_nil] at hfuel
  obtain ⟨next, hread⟩ := exists_readString position fuel (position + 1) hs rest [] (by omega)
  rw [List.reverse_nil, List.nil_append, String.ofList_toList] at hread
  refine ⟨next, ?_⟩
  rw [List.cons_append, List.append_assoc]
  show readValue (fuel + 1) room ⟨position, '"' :: (s.toList.flatMap (lineChar ascii) ++ '"' :: rest)⟩ = _
  rw [readValue]
  simp only [hread]

/-! ### Items and entries -/

/-- What is written of a document starts with a character that is no blank, closes no list and does not mark the order
of bytes. -/
theorem exists_head_written (depth : Nat) {d : Document} (h : d.IsWithin room) :
    ∃ c cs, written ascii depth d = c :: cs ∧ isSpace c = false ∧ c ≠ ']' ∧ c ≠ '\ufeff' := by
  cases h with
  | null => exact ⟨'n', _, by rw [written, writeAt]; rfl, rfl, by decide, by decide⟩
  | bool _ b =>
      rw [written, writeAt]
      cases b with
      | true => exact ⟨'t', _, rfl, rfl, by decide, by decide⟩
      | false => exact ⟨'f', _, rfl, rfl, by decide, by decide⟩
  | int _ i =>
      rw [written, writeAt]
      obtain ⟨c, cs, hc, heq | heq⟩ := exists_head_writeInt i
      · have hlt := Text.toNat_lt_of_isAsciiDigit hc
        refine ⟨c, cs, heq, isSpace_of_isAsciiDigit hc, (ne_of_isAsciiDigit hc ']' (by decide)).symm, ?_⟩
        rintro rfl
        exact absurd hlt (by decide)
      · exact ⟨'-', _, heq, rfl, by decide, by decide⟩
  | text => exact ⟨'"', _, written_text depth _, rfl, by decide, by decide⟩
  | list _ items =>
      cases items with
      | nil => exact ⟨'[', [']'], by rw [written, writeAt]; rfl, rfl, by decide, by decide⟩
      | cons item items => exact ⟨'[', _, written_list depth item items, rfl, by decide, by decide⟩
  | object _ entries =>
      cases entries with
      | nil => exact ⟨'\x7b', ['\x7d'], by rw [written, writeAt]; rfl, rfl, by decide, by decide⟩
      | cons e entries => exact ⟨'\x7b', _, written_object depth e entries, rfl, by decide, by decide⟩

theorem skipFrom_blank {c : Char} (h : isSpace c = false) (position : Nat) (cs : List Char) :
    skipFrom position (' ' :: c :: cs) = ⟨position + 1, c :: cs⟩ := by
  rw [skipFrom, if_pos (by decide), skipFrom_of_not h]

theorem readItems_close {cursor : Cursor} {item : Document} {position : Nat} {rest : List Char}
    (h : readValue fuel room cursor = .ok (item, ⟨position, ']' :: rest⟩)) :
    readItems (fuel + 1) room cursor = .ok ([item], ⟨position + 1, rest⟩) := by
  rw [readItems, h]
  rfl

theorem readItems_comma {cursor last : Cursor} {item : Document} {items : List Document} {position : Nat} {c : Char}
    {cs : List Char} (h : readValue fuel room cursor = .ok (item, ⟨position, ',' :: ' ' :: c :: cs⟩))
    (hc : isSpace c = false) (hrest : readItems fuel room ⟨position + 2, c :: cs⟩ = .ok (items, last)) :
    readItems (fuel + 1) room cursor = .ok (item :: items, last) := by
  have hcomma : Cursor.skip ⟨position, ',' :: ' ' :: c :: cs⟩ = ⟨position, ',' :: ' ' :: c :: cs⟩ :=
    skipFrom_of_not rfl _ _
  have hskip : (Cursor.advance ⟨position, ',' :: ' ' :: c :: cs⟩ 1).skip = ⟨position + 2, c :: cs⟩ :=
    skipFrom_blank hc _ _
  rw [readItems, h]
  simp only [hcomma, hskip, hrest]

/-- The items of a list are read as they were written. -/
theorem exists_readItems {items : List Document} {item : Document} (hitem : Reads ascii room item)
    (hitems : ∀ d ∈ items, d.IsWithin room ∧ Reads ascii room d) (depth fuel position : Nat) (rest : List Char)
    (hfuel : 2 * ((written ascii depth item).length + (writeItems (line ascii) depth items).toList.length) ≤ fuel) :
    ∃ next, readItems (fuel + 2) room ⟨position, written ascii depth item ++
      ((writeItems (line ascii) depth items).toList ++ ']' :: rest)⟩ = .ok (item :: items, ⟨next, rest⟩) := by
  induction items generalizing item fuel position with
  | nil =>
      obtain ⟨next, hread⟩ :=
        hitem depth fuel position (']' :: rest) (stops_cons (Or.inr (Or.inl rfl)) rest) (by omega)
      exact ⟨next + 1, readItems_close hread⟩
  | cons second items ih =>
      obtain ⟨hwithin, hsecond⟩ := hitems second List.mem_cons_self
      obtain ⟨c, cs, hwritten, hc, -⟩ := exists_head_written depth hwithin
      rw [toList_writeItems_cons] at hfuel ⊢
      simp only [List.length_cons, List.length_append] at hfuel
      obtain ⟨fuel, rfl⟩ : ∃ k, fuel = k + 1 := ⟨fuel - 1, by omega⟩
      obtain ⟨next, hread⟩ := hitem depth (fuel + 1) position
        (',' :: ' ' :: (written ascii depth second ++ ((writeItems (line ascii) depth items).toList ++ ']' :: rest)))
        (stops_cons (Or.inl rfl) _) (by omega)
      obtain ⟨last, hrest⟩ := ih hsecond (fun d hd => hitems d (List.mem_cons_of_mem _ hd)) fuel
        (next + 2) (by omega)
      refine ⟨last, ?_⟩
      rw [List.cons_append, List.cons_append, List.append_assoc]
      rw [hwritten, List.cons_append] at hread hrest ⊢
      exact readItems_comma hread hc hrest

theorem exists_readKey (start fuel position depth : Nat) {e : String × Document} (he : ascii → Text.IsEncodable e.1)
    (rest : List Char) (hfuel : (entryRest ascii depth e).length ≤ fuel) :
    ∃ next, readString start (fuel + 1) ⟨position, entryRest ascii depth e ++ rest⟩ [] =
      .ok (e.1, ⟨next, ':' :: ' ' :: (written ascii depth e.2 ++ rest)⟩) := by
  have hlength := length_le_flatMap_lineChar ascii e.1.toList
  rw [entryRest, List.length_append] at hfuel
  obtain ⟨next, hread⟩ := exists_readString start (fuel + 1) position he
    (':' :: ' ' :: (written ascii depth e.2 ++ rest)) [] (by omega)
  rw [List.reverse_nil, List.nil_append, String.ofList_toList] at hread
  refine ⟨next, ?_⟩
  rw [entryRest, List.append_assoc]
  exact hread

theorem skip_colon {c : Char} (h : isSpace c = false) (position : Nat) (cs : List Char) :
    (Cursor.advance (Cursor.skip ⟨position, ':' :: ' ' :: c :: cs⟩) 1).skip = ⟨position + 2, c :: cs⟩ := by
  have hcolon : Cursor.skip ⟨position, ':' :: ' ' :: c :: cs⟩ = ⟨position, ':' :: ' ' :: c :: cs⟩ :=
    skipFrom_of_not rfl _ _
  rw [hcolon]
  exact skipFrom_blank h _ _

section Entry

variable {position middle next : Nat} {key : String} {value : Document} {c : Char} {rest cs after : List Char}
  (hkey : readString position fuel ⟨position + 1, rest⟩ [] = .ok (key, ⟨middle, ':' :: ' ' :: c :: cs⟩))
  (hc : isSpace c = false)

include hkey hc

theorem readEntries_close
    (hvalue : readValue fuel room ⟨middle + 2, c :: cs⟩ = .ok (value, ⟨next, '\x7d' :: after⟩)) :
    readEntries (fuel + 1) room ⟨position, '"' :: rest⟩ = .ok ([(key, value)], ⟨next + 1, after⟩) := by
  have hcolon : (Cursor.skip ⟨middle, ':' :: ' ' :: c :: cs⟩).rest = ':' :: ' ' :: c :: cs := rfl
  rw [readEntries]
  simp only [hkey, hcolon, skip_colon hc, hvalue]
  rfl

theorem readEntries_comma {entries : List (String × Document)} {last : Cursor}
    (hvalue : readValue fuel room ⟨middle + 2, c :: cs⟩ = .ok (value, ⟨next, ',' :: ' ' :: '"' :: after⟩))
    (hrest : readEntries fuel room ⟨next + 2, '"' :: after⟩ = .ok (entries, last)) :
    readEntries (fuel + 1) room ⟨position, '"' :: rest⟩ = .ok ((key, value) :: entries, last) := by
  have hcolon : (Cursor.skip ⟨middle, ':' :: ' ' :: c :: cs⟩).rest = ':' :: ' ' :: c :: cs := rfl
  have hcomma : Cursor.skip ⟨next, ',' :: ' ' :: '"' :: after⟩ = ⟨next, ',' :: ' ' :: '"' :: after⟩ := rfl
  have hskip : (Cursor.advance ⟨next, ',' :: ' ' :: '"' :: after⟩ 1).skip = ⟨next + 2, '"' :: after⟩ := rfl
  rw [readEntries]
  simp only [hkey, hcolon, skip_colon hc, hvalue, hcomma, hskip, hrest]

end Entry

/-- An entry whose parts are read as they were written. -/
structure ReadsEntry (ascii : Bool) (room : Nat) (e : String × Document) : Prop where
  key : ascii → Text.IsEncodable e.1
  within : e.2.IsWithin room
  value : Reads ascii room e.2

/-- An entry is read as it was written: its key, and behind the colon its value. -/
theorem exists_readEntry {e : String × Document} (h : ReadsEntry ascii room e) (depth fuel position : Nat)
    {rest : List Char} (hrest : Stops rest) (hfuel : 2 * (entryRest ascii depth e).length ≤ fuel) :
    ∃ middle next c cs, isSpace c = false ∧
      readString position (fuel + 1) ⟨position + 1, entryRest ascii depth e ++ rest⟩ [] =
        .ok (e.1, ⟨middle, ':' :: ' ' :: c :: cs⟩) ∧
      readValue (fuel + 1) room ⟨middle + 2, c :: cs⟩ = .ok (e.2, ⟨next, rest⟩) := by
  have hlength : (written ascii depth e.2).length ≤ (entryRest ascii depth e).length := by
    simp only [entryRest, List.length_append, List.length_cons]
    omega
  obtain ⟨c, cs, hwritten, hc, -⟩ := exists_head_written depth h.within
  obtain ⟨middle, hkey⟩ := exists_readKey position fuel (position + 1) depth h.key rest (by omega)
  obtain ⟨next, hvalue⟩ := h.value depth fuel (middle + 2) rest hrest (by omega)
  rw [hwritten, List.cons_append] at hkey hvalue
  exact ⟨middle, next, c, cs ++ rest, hc, hkey, hvalue⟩

/-- The entries of an object are read as they were written. -/
theorem exists_readEntries {entries : List (String × Document)} {e : String × Document}
    (hentry : ReadsEntry ascii room e) (hentries : ∀ e ∈ entries, ReadsEntry ascii room e)
    (depth fuel position : Nat) (rest : List Char)
    (hfuel : 2 * ((entryRest ascii depth e).length + (writeEntries (line ascii) depth entries).toList.length) ≤ fuel) :
    ∃ next, readEntries (fuel + 2) room ⟨position, '"' :: (entryRest ascii depth e ++
      ((writeEntries (line ascii) depth entries).toList ++ '\x7d' :: rest))⟩ = .ok (e :: entries, ⟨next, rest⟩) := by
  induction entries generalizing e fuel position with
  | nil =>
      have hstops : Stops ('\x7d' :: rest) := stops_cons (Or.inr (Or.inr rfl)) rest
      obtain ⟨middle, next, c, cs, hc, hkey, hvalue⟩ := exists_readEntry hentry depth fuel position hstops (by omega)
      exact ⟨next + 1, readEntries_close hkey hc hvalue⟩
  | cons second entries ih =>
      rw [toList_writeEntries_cons] at hfuel ⊢
      simp only [List.length_cons, List.length_append] at hfuel
      obtain ⟨fuel, rfl⟩ : ∃ k, fuel = k + 1 := ⟨fuel - 1, by omega⟩
      have hassoc : (',' :: ' ' :: '"' :: (entryRest ascii depth second ++
          (writeEntries (line ascii) depth entries).toList)) ++ '\x7d' :: rest = ',' :: ' ' :: '"' :: (entryRest ascii depth second ++
            ((writeEntries (line ascii) depth entries).toList ++ '\x7d' :: rest)) := by simp
      rw [hassoc]
      obtain ⟨middle, next, c, cs, hc, hkey, hvalue⟩ :=
        exists_readEntry hentry depth (fuel + 1) position (stops_cons (Or.inl rfl) (' ' :: '"' ::
          (entryRest ascii depth second ++ ((writeEntries (line ascii) depth entries).toList ++ '\x7d' :: rest))))
          (by omega)
      obtain ⟨last, hrest⟩ := ih (hentries second List.mem_cons_self)
        (fun d hd => hentries d (List.mem_cons_of_mem _ hd)) fuel (next + 2) (by omega)
      exact ⟨last, readEntries_comma hkey hc hvalue hrest⟩

/-! ### Documents -/

theorem reads_list_nil : Reads ascii (room + 1) (.list []) := by
  intro depth fuel position rest _ _
  refine ⟨position + 2, ?_⟩
  rw [written, writeAt]
  show readValue (fuel + 1) (room + 1) ⟨position, '[' :: ']' :: rest⟩ = _
  rw [readValue]
  rfl

theorem reads_object_nil : Reads ascii (room + 1) (.object []) := by
  intro depth fuel position rest _ _
  refine ⟨position + 2, ?_⟩
  rw [written, writeAt]
  show readValue (fuel + 1) (room + 1) ⟨position, '\x7b' :: '\x7d' :: rest⟩ = _
  rw [readValue]
  rfl

theorem reads_list {item : Document} {items : List Document}
    (h : ∀ d ∈ item :: items, d.IsWithin room ∧ Reads ascii room d) :
    Reads ascii (room + 1) (.list (item :: items)) := by
  intro depth fuel position rest _ hfuel
  obtain ⟨hitem, hitems⟩ := List.forall_mem_cons.1 h
  obtain ⟨c, cs, hwritten, hc, hclose, -⟩ := exists_head_written (depth + 1) hitem.1
  rw [written_list] at hfuel ⊢
  simp only [List.length_cons, List.length_append, List.length_nil] at hfuel
  obtain ⟨fuel, rfl⟩ : ∃ k, fuel = k + 2 := ⟨fuel - 2, by omega⟩
  obtain ⟨next, hread⟩ := exists_readItems hitem.2 hitems (depth + 1) fuel (position + 1) rest (by omega)
  refine ⟨next, ?_⟩
  rw [List.cons_append, List.append_assoc, List.append_assoc, List.singleton_append]
  rw [hwritten, List.cons_append] at hread ⊢
  rw [readValue]
  simp only [skipFrom_of_not hc]
  split
  · rename_i heq
    exact absurd (List.cons.inj heq).1 hclose
  · rw [hread]

theorem reads_object {e : String × Document} {entries : List (String × Document)}
    (hkeys : ((e :: entries).map (·.1)).Nodup) (h : ∀ p ∈ e :: entries, ReadsEntry ascii room p) :
    Reads ascii (room + 1) (.object (e :: entries)) := by
  intro depth fuel position rest _ hfuel
  obtain ⟨hentry, hentries⟩ := List.forall_mem_cons.1 h
  rw [written_object] at hfuel ⊢
  simp only [List.length_cons, List.length_append, List.length_nil] at hfuel
  obtain ⟨fuel, rfl⟩ : ∃ k, fuel = k + 2 := ⟨fuel - 2, by omega⟩
  obtain ⟨next, hread⟩ := exists_readEntries hentry hentries (depth + 1) fuel (position + 1) rest (by omega)
  refine ⟨next, ?_⟩
  rw [List.cons_append, List.cons_append, List.append_assoc, List.append_assoc, List.singleton_append]
  have hskip (cs : List Char) : skipFrom (position + 1) ('"' :: cs) = ⟨position + 1, '"' :: cs⟩ :=
    skipFrom_of_not rfl _ _
  rw [readValue]
  simp only [hskip, hread]
  rw [putEntries_of_nodup (by simpa using hkeys), List.nil_append]
  rfl

/-- A document is read as it was written if its numbers are integers and its containers are not nested too deep, and if
its texts can be escaped where they have to be. -/
theorem reads_of_isWithin {d : Document} (h : d.IsWithin room) (hjson : d.IsJson) (htexts : ascii → d.IsEncodable) :
    Reads ascii room d := by
  induction h with
  | null => exact reads_null
  | bool _ b => exact reads_bool b
  | int _ i =>
      cases hjson with
      | int _ hi => exact reads_int hi
  | text _ s => exact reads_text fun hascii => (htexts hascii).of_text
  | list room items h ih =>
      cases hjson with
      | list _ hitems =>
          cases items with
          | nil => exact reads_list_nil
          | cons item items => 
              refine reads_list fun d hd => ⟨h d hd, ih d hd (hitems d hd) fun hascii => ?_⟩
              exact (htexts hascii).of_item d hd
  | object room entries h ih =>
      cases hjson with
      | object _ hkeys hentries =>
          cases entries with
          | nil => exact reads_object_nil
          | cons e entries => 
              refine reads_object hkeys fun p hp => ⟨fun hascii => ?_, h p hp, ih p hp (hentries p hp) fun hascii => ?_⟩
              · exact ((htexts hascii).of_entry p hp).1
              · exact ((htexts hascii).of_entry p hp).2

theorem readAll_of_readValue {c : Char} {cs : List Char} (hc : isSpace c = false) (hmark : c ≠ '\ufeff') {d : Document}
    {next : Nat} (h : readValue (2 * (c :: cs).length + 2) nestingLimit ⟨0, c :: cs⟩ = .ok (d, ⟨next, []⟩)) :
    readAll (c :: cs) = .ok d := by
  unfold readAll
  split
  · rename_i heq
    exact absurd (List.cons.inj heq).1 hmark
  · simp only [skipFrom_of_not hc, h]
    rfl

theorem readAll_of_stop {c : Char} {cs : List Char} (hc : isSpace c = false) (hmark : c ≠ '\ufeff') {stop : Stop}
    (h : readValue (2 * (c :: cs).length + 2) nestingLimit ⟨0, c :: cs⟩ = .error stop) :
    readAll (c :: cs) = .error stop := by
  unfold readAll
  split
  · rename_i heq
    exact absurd (List.cons.inj heq).1 hmark
  · simp only [skipFrom_of_not hc, h]

/-- The text of a document on one line is read as the document. -/
theorem read_line {d : Document} (hjson : d.IsJson) (h : d.IsWithin nestingLimit) (htexts : ascii → d.IsEncodable) :
    read (write (line ascii) d) = .ok d := by
  obtain ⟨c, cs, hwritten, hc, -, hmark⟩ := exists_head_written 0 h
  obtain ⟨next, hread⟩ := reads_of_isWithin h hjson htexts 0 (2 * (written ascii 0 d).length + 1) 0 [] stops_nil
    (Nat.le_succ _)
  rw [List.append_nil] at hread
  have hall : readAll (written ascii 0 d) = .ok d := by
    rw [hwritten] at hread ⊢
    exact readAll_of_readValue hc hmark hread
  show (readAll (written ascii 0 d)).mapError _ = _
  rw [hall]
  rfl

theorem read_write {d : Document} (hjson : d.IsJson) (h : d.IsWithin nestingLimit) :
    read (write oneLine d) = .ok d :=
  read_line hjson h nofun

/-- The text of a document in ASCII is read as the document, if no half of a surrogate pair stands in it. -/
theorem read_write_ascii {d : Document} (hjson : d.IsJson) (h : d.IsWithin nestingLimit) (htexts : d.IsEncodable) :
    read (write asciiLine d) = .ok d :=
  read_line hjson h fun _ => htexts

/-! ### Nesting -/

theorem exists_written_nested (depth n : Nat) :
    ∃ rest, written false depth (.nested n) = List.replicate n '[' ++ rest := by
  induction n generalizing depth with
  | zero => exact ⟨_, rfl⟩
  | succ n ih =>
      obtain ⟨rest, hrest⟩ := ih (depth + 1)
      refine ⟨rest ++ ((writeItems oneLine (depth + 1) []).toList ++ [']']), ?_⟩
      rw [Document.nested, written_list, hrest, List.append_assoc]
      rfl

theorem isEmpty_write_nested {n : Nat} (h : 0 < n) : (write oneLine (.nested n)).isEmpty = false := by
  obtain ⟨rest, hwritten⟩ := exists_written_nested 0 n
  obtain ⟨n, rfl⟩ : ∃ k, n = k + 1 := ⟨n - 1, by omega⟩
  refine Bool.eq_false_iff.2 fun hempty => ?_
  have hnil : written false 0 (.nested (n + 1)) = [] := congrArg String.toList (String.isEmpty_iff.1 hempty)
  rw [hwritten] at hnil
  cases hnil

/-- A text with more opening brackets than there is room for is given up. -/
theorem readValue_replicate {n : Nat} (hroom : room < n) (hfuel : 2 * n ≤ fuel) (position : Nat) (rest : List Char) :
    readValue fuel room ⟨position, List.replicate n '[' ++ rest⟩ = .error (.tooDeep .list) := by
  induction room generalizing n fuel position with
  | zero =>
      obtain ⟨n, rfl⟩ : ∃ k, n = k + 1 := ⟨n - 1, by omega⟩
      obtain ⟨fuel, rfl⟩ : ∃ k, fuel = k + 1 := ⟨fuel - 1, by omega⟩
      rw [List.replicate_succ, List.cons_append, readValue]
      rfl
  | succ room ih =>
      obtain ⟨n, rfl⟩ : ∃ k, n = k + 2 := ⟨n - 2, by omega⟩
      obtain ⟨fuel, rfl⟩ : ∃ k, fuel = k + 2 := ⟨fuel - 2, by omega⟩
      have hinner : readItems (fuel + 1) room ⟨position + 1, '[' :: (List.replicate n '[' ++ rest)⟩ =
          .error (.tooDeep .list) := by
        have hvalue := ih (show room < n + 1 by omega) (show 2 * (n + 1) ≤ fuel by omega) (position + 1)
        rw [readItems]
        rw [List.replicate_succ, List.cons_append] at hvalue
        rw [hvalue]
      have hskip (cs : List Char) : skipFrom (position + 1) ('[' :: cs) = ⟨position + 1, '[' :: cs⟩ :=
        skipFrom_of_not rfl _ _
      rw [List.replicate_succ, List.replicate_succ, List.cons_append, List.cons_append, readValue]
      simp only [hskip, hinner]
      rfl

/-- Lists that are nested beyond the limit are written, and not read. -/
theorem read_write_nested {n : Nat} (h : nestingLimit < n) :
    read (write oneLine (.nested n)) = .error (.tooDeep .list) := by
  obtain ⟨n, rfl⟩ : ∃ k, n = k + 1 := ⟨n - 1, by omega⟩
  obtain ⟨rest, hwritten⟩ := exists_written_nested 0 (n + 1)
  have hall : readAll (written false 0 (.nested (n + 1))) = .error (.tooDeep .list) := by
    have hhead : List.replicate (n + 1) '[' ++ rest = '[' :: (List.replicate n '[' ++ rest) := rfl
    have hlength : 2 * (n + 1) ≤ 2 * (List.replicate (n + 1) '[' ++ rest).length + 2 := by
      rw [List.length_append, List.length_replicate]
      omega
    have hread := readValue_replicate h hlength 0 rest
    rw [hhead] at hread
    rw [hwritten, hhead]
    exact readAll_of_stop (by decide) (by decide) hread
  show (readAll (written false 0 (.nested (n + 1)))).mapError _ = _
  rw [hall]
  rfl

end Json

end Courier
