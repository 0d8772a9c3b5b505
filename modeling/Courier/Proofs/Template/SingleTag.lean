import Courier.Proofs.Template.Rendering

/-! Templates that are a single tag. Such a template is rendered as the text of what its name leads to, which may stand
in any value whose context is made of documents. -/

namespace Courier

namespace Language.Path

open Courier.Text

/-- Keys without points are the segments of the path that they are joined to. -/
theorem segments_join {keys : List String} (hne : keys ≠ []) (h : ∀ key ∈ keys, '.' ∉ key.toList) :
    segments (join "." keys) = keys := by
  have hpoint : ".".toList = ['.'] := rfl
  have hsplit : (['.'].intercalate (keys.map String.toList)).splitOn '.' = keys.map String.toList := by
    apply List.splitOn_intercalate
    · intro cs hcs
      obtain ⟨key, hkey, rfl⟩ := List.mem_map.1 hcs
      exact h key hkey
    · simpa using hne
  rw [segments, splitBy, join, String.toList_intercalate, hpoint, hsplit, List.map_map]
  simp

end Language.Path

namespace Template

open Courier.Language Courier.Language.Eval Courier.Text

/-- A template that is one tag of a name. -/
def IsTag (source name : String) : Prop := cut source.toList = [.text [], .tag name.toList, .text []]

instance (source name : String) : Decidable (IsTag source name) :=
  inferInstanceAs (Decidable (_ = _))

/-- Double braces are read up to a name, and the name is one that is not marked. -/
theorem double?_braces (cs : List Char) : Tag.double? ('\x7b' :: '\x7b' :: cs) = (do
    let (found, rest) ← Tag.nameBefore? ['\x7d', '\x7d'] (Tag.skipAmpersand cs)
    if Tag.marks.contains (found.head?.getD '#') then none else some (found, rest)) := rfl

/-- A name that a tag in double braces can have. -/
structure IsTagName (name : String) : Prop where
  nonempty : name.toList ≠ []
  chars : ∀ c ∈ name.toList, Tag.isNameChar c = true
  first : ∀ c ∈ name.toList.head?, c ∉ Tag.marks

/-- A name in double braces. -/
def doubleTag (front name back : String) : String := "\x7b\x7b" ++ front ++ name ++ back ++ "\x7d\x7d"

theorem toList_doubleTag (front name back : String) : (doubleTag front name back).toList =
    '\x7b' :: '\x7b' :: (front.toList ++ (name.toList ++ (back.toList ++ ['\x7d', '\x7d']))) := by
  simp [doubleTag, String.toList_append]

theorem isBlank_of_isNameChar {c : Char} (h : Tag.isNameChar c = true) : isBlank c = false := by
  simp only [Tag.isNameChar, Bool.and_eq_true, Bool.not_eq_true'] at h
  exact h.1.1

theorem IsTagName.ne_brace {name : String} (h : IsTagName name) : '\x7b' ∉ name.toList ∧ '\x7d' ∉ name.toList :=
  ⟨fun hin => absurd (h.chars _ hin) (by decide), fun hin => absurd (h.chars _ hin) (by decide)⟩

theorem not_mem_of_blank {cs : List Char} (h : ∀ c ∈ cs, isBlank c = true) {c : Char} (hc : isBlank c = false) :
    c ∉ cs := by
  intro hin
  rw [h c hin] at hc
  cases hc

section

variable {front cs back closing : List Char} (hfront : ∀ c ∈ front, isBlank c = true)
  (hcs : ∀ c ∈ cs, Tag.isNameChar c = true) (hne : cs ≠ []) (hback : ∀ c ∈ back, isBlank c = true)

include hfront hcs hne

theorem dropWhile_blanks (rest : List Char) : (front ++ (cs ++ rest)).dropWhile isBlank = cs ++ rest := by
  obtain ⟨c, more, rfl⟩ := List.exists_cons_of_ne_nil hne
  have hc := isBlank_of_isNameChar (hcs c List.mem_cons_self)
  rw [List.dropWhile_append_of_pos hfront, List.cons_append, List.dropWhile_cons_of_neg (by simp [hc])]

include hback

/-- A name is found between blanks, up to the braces behind it. -/
theorem Tag.nameBefore?_blanks (hclosing : closing.head? = some '\x7d') :
    Tag.nameBefore? closing (front ++ (cs ++ (back ++ closing))) = some (cs, []) := by
  obtain ⟨rest, rfl⟩ : ∃ rest, closing = '\x7d' :: rest := List.head?_eq_some_iff.1 hclosing
  have hstop : (back ++ '\x7d' :: rest).takeWhile Tag.isNameChar = [] := by
    cases back with
    | nil => rfl
    | cons d ds =>
        have hd : Tag.isNameChar d = false := by simp [Tag.isNameChar, hback d List.mem_cons_self]
        rw [List.cons_append, List.takeWhile_cons_of_neg (by simp [hd])]
  have htake : (cs ++ (back ++ '\x7d' :: rest)).takeWhile Tag.isNameChar = cs := by
    rw [List.takeWhile_append_of_pos hcs, hstop, List.append_nil]
  have hdrop : (cs ++ (back ++ '\x7d' :: rest)).dropWhile Tag.isNameChar = back ++ '\x7d' :: rest := by
    have hsplit : (cs ++ (back ++ '\x7d' :: rest)).takeWhile Tag.isNameChar ++ _ = _ :=
      List.takeWhile_append_dropWhile
    rw [htake] at hsplit
    exact List.append_cancel_left hsplit
  have htrailing : (back ++ '\x7d' :: rest).dropWhile isBlank = '\x7d' :: rest := by
    rw [List.dropWhile_append_of_pos hback, List.dropWhile_cons_of_neg (by decide)]
  unfold Tag.nameBefore?
  simp only [dropWhile_blanks hfront hcs hne, htake, hdrop, htrailing]
  rw [if_neg (by simpa using hne), Tag.after?, if_pos (by simp), List.drop_length]
  rfl

/-- Double braces are read as the name between them, whatever blanks there are around it. -/
theorem Tag.at?_double (hmark : ∀ c ∈ cs.head?, c ∉ Tag.marks) :
    Tag.at? ('\x7b' :: '\x7b' :: (front ++ (cs ++ (back ++ ['\x7d', '\x7d'])))) = some (cs, []) := by
  obtain ⟨c, more, hcons⟩ := List.exists_cons_of_ne_nil hne
  have hc : c ∉ Tag.marks := hmark c (by rw [hcons]; rfl)
  have hleading := dropWhile_blanks hfront hcs hne (back ++ ['\x7d', '\x7d'])
  have hfound : Tag.nameBefore? ['\x7d', '\x7d'] (front ++ (cs ++ (back ++ ['\x7d', '\x7d']))) = some (cs, []) :=
    Tag.nameBefore?_blanks hfront hcs hne hback rfl
  have hbrace : '\x7b' ∉ front ++ (cs ++ (back ++ ['\x7d', '\x7d'])) := by
    have hno : '\x7b' ∉ cs := fun hin => absurd (hcs _ hin) (by decide)
    simp [not_mem_of_blank hfront, not_mem_of_blank hback, hno, show isBlank '\x7b' = false by decide]
  generalize hinner : front ++ (cs ++ (back ++ ['\x7d', '\x7d'])) = inner at hleading hfound hbrace
  have hskip : Tag.skipAmpersand inner = inner := by
    unfold Tag.skipAmpersand
    rw [hleading, hcons]
    split
    · rename_i heq
      obtain ⟨rfl, -⟩ := List.cons.inj heq
      exact absurd (by decide) hc
    · rfl
  have htriple : Tag.triple? ('\x7b' :: '\x7b' :: inner) = none := by
    cases inner with
    | nil => rfl
    | cons d rest =>
        have hd : '\x7b' ≠ d := fun heq => hbrace (heq ▸ List.mem_cons_self)
        simp [Tag.triple?, Tag.after?, hd]
  have hdouble : Tag.double? ('\x7b' :: '\x7b' :: inner) = some (cs, []) := by
    rw [double?_braces, hskip, hfound]
    simp [hcons, hc]
  rw [Tag.at?, htriple, hdouble]
  rfl

end

/-- A name in double braces is a tag of the name, whatever blanks there are around it. -/
theorem isTag_doubleTag {front name back : String} (hname : IsTagName name)
    (hfront : ∀ c ∈ front.toList, isBlank c = true) (hback : ∀ c ∈ back.toList, isBlank c = true) :
    IsTag (doubleTag front name back) name := by
  have hat := Tag.at?_double hfront hname.chars hname.nonempty hback hname.first
  rw [IsTag, toList_doubleTag, cut, List.length_cons, cutFrom, hat]
  rfl

/-- A template that is a single tag is rendered as what is told under its name, and nothing is changed. -/
theorem render_tag {source name : String} (hsource : IsTag source name) {data : Value} {context : Context}
    {entries : List (String × Document)} (hcontext : Context.ofValue data = .ok context)
    (hrel : ∀ name, Option.Rel Value.IsMadeOf (entryOf? name entries) (entryOf? name context))
    (hjson : (Document.object entries).IsJson) (hlookup : entryOf? lookupName entries = none)
    (hcodes : ∀ c ∈ name.toList, codePoint c ≤ 0xFFFF) (hname : IsLookedUp entries name.toList) {s : String}
    (hs : told (.object entries) name = .ok s) : render source data .empty = (.ok s, .empty) := by
  have hreturns : ∀ content, .text content ∈ cut source.toList → '\r' ∉ content := by
    intro content hcontent
    rw [hsource] at hcontent
    obtain rfl : content = [] := by simpa using hcontent
    exact List.not_mem_nil
  have hplain : ∀ content ∈ bareTexts (cut source.toList), Token.IsPlain content := by
    intro content hcontent
    rw [hsource] at hcontent
    obtain rfl : content = [] := by simpa [bareTexts, dropTrailingList_nil] using hcontent
    exact Token.isPlain_of_not_mem List.not_mem_nil
  have hnames : ∀ found ∈ tagNames (cut source.toList),
      (∀ c ∈ found, codePoint c ≤ 0xFFFF) ∧ IsLookedUp entries found := by
    intro found hfound
    rw [hsource] at hfound
    obtain rfl : found = name.toList := by simpa [tagNames] using hfound
    exact ⟨hcodes, hname⟩
  have htexts : (cut source.toList).mapM (Segment.rendered (.object entries)) = .ok ["", s, ""] := by
    have htag : Segment.rendered (.object entries) (.tag name.toList) = .ok s := by
      rw [Segment.rendered, String.ofList_toList, hs]
    rw [hsource, List.mapM_cons, List.mapM_cons, List.mapM_cons, htag]
    rfl
  rw [render_of_context hcontext hrel hreturns hjson hlookup hplain hnames htexts]
  simp

end Template

end Courier
