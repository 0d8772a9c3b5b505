import Courier.Proofs.Response.Cutting
import Courier.Proofs.Response.Independence
import Courier.Proofs.Template.Names

/-! Rules of a collection. The paths in their tags are led to the data of a record, which is done on the text of the
rules. A name in double braces on one line becomes a tag of the longer path, so that the rule sets what a rule with that
tag sets elsewhere. The other tags are cut in the wrong places and become texts that are no tags of a path. -/

namespace Courier

namespace Response.Collection

open Courier.Text

/-! ### Cutting out tags -/

variable {cs rest : List Char}

/-- What stands before the first closing braces is cut out, if it is on one line. -/
theorem inner?_append (hlines : '\n' ∉ cs) (hclose : '\x7d' ∉ cs) :
    inner? (cs ++ '\x7d' :: '\x7d' :: rest) = some (cs, rest) :=
  inner?_eq_some_iff.2 ⟨rfl, isInner_of_not_mem hlines hclose⟩

/-- Nothing is cut out where the line ends before the braces are closed. -/
theorem inner?_eq_none (hclose : '\x7d' ∉ cs) : inner? (cs ++ '\n' :: rest) = none := by
  induction cs with
  | nil => rfl
  | cons c cs ih =>
      rw [List.cons_append, inner?_cons_eq fun hopen => hclose (hopen.1 ▸ List.mem_cons_self),
        ih fun hin => hclose (List.mem_cons_of_mem _ hin)]
      split <;> rfl

theorem tag?_of_not_mem (h : '\x7b' ∉ cs) : tag? cs = none := by
  rw [tag?.eq_def]
  split
  · simp at h
  · rfl

theorem rootTags_of_not_mem (h : '\x7b' ∉ cs) {fuel : Nat} (hfuel : cs.length ≤ fuel) : rootTags fuel cs = cs := by
  induction cs generalizing fuel with
  | nil => cases fuel <;> rfl
  | cons c cs ih =>
      obtain ⟨fuel, rfl⟩ := Nat.exists_eq_succ_of_ne_zero (Nat.ne_of_gt (Nat.lt_of_lt_of_le (Nat.succ_pos _) hfuel))
      rw [rootTags, tag?_of_not_mem h]
      simp only
      rw [ih (fun hin => h (List.mem_cons_of_mem _ hin)) (Nat.le_of_succ_le_succ hfuel)]

theorem anyTail_tag_of_not_mem (h : '\x7b' ∉ cs) : anyTail (fun cs => (tag? cs).isSome) cs = false := by
  induction cs with
  | nil => rfl
  | cons c cs ih =>
      rw [anyTail, tag?_of_not_mem h, ih fun hin => h (List.mem_cons_of_mem _ hin)]
      rfl

/-- A text that is one tag on one line, up to what stands behind it, has the path in the tag led on. -/
theorem rootedValue_braces {inner back : List Char} (hlines : '\n' ∉ inner) (hclose : '\x7d' ∉ inner)
    (hback : '\x7b' ∉ back) :
    rootedValue (String.ofList ('\x7b' :: '\x7b' :: (inner ++ '\x7d' :: '\x7d' :: back))) =
      "\x7b\x7b" ++ rooted (String.ofList inner) ++ "\x7d\x7d" ++ String.ofList back := by
  have htag : tag? ('\x7b' :: '\x7b' :: (inner ++ '\x7d' :: '\x7d' :: back)) = some (inner, back) :=
    inner?_append hlines hclose
  have hany : anyTail (fun cs => (tag? cs).isSome)
      ('\x7b' :: '\x7b' :: (inner ++ '\x7d' :: '\x7d' :: back)) = true := by
    rw [anyTail, htag]
    rfl
  have hroot : rootTags (('\x7b' :: '\x7b' :: (inner ++ '\x7d' :: '\x7d' :: back)).length + 1)
      ('\x7b' :: '\x7b' :: (inner ++ '\x7d' :: '\x7d' :: back)) =
        "\x7b\x7b".toList ++ (rooted (String.ofList inner)).toList ++ "\x7d\x7d".toList ++ back := by
    rw [rootTags, htag]
    simp only
    rw [rootTags_of_not_mem hback (by simp; omega)]
  unfold rootedValue
  simp only [String.toList_ofList]
  rw [if_pos hany, hroot]
  simp only [String.ofList_append, String.ofList_toList]

/-- A tag that goes over the end of a line is not cut out, and the text is led on as a whole. -/
theorem rootedValue_lines {front back : List Char} (hclose : '\x7d' ∉ front) (hfront : '\x7b' ∉ front)
    (hback : '\x7b' ∉ back) :
    rootedValue (String.ofList ('\x7b' :: '\x7b' :: (front ++ '\n' :: back))) =
      rooted (String.ofList ('\x7b' :: '\x7b' :: (front ++ '\n' :: back))) := by
  have hplain : '\x7b' ∉ front ++ '\n' :: back := by simp [hfront, hback]
  have htag : tag? ('\x7b' :: '\x7b' :: (front ++ '\n' :: back)) = none := inner?_eq_none hclose
  have hsecond : tag? ('\x7b' :: (front ++ '\n' :: back)) = none := by
    rw [tag?.eq_def]
    split
    · rename_i heq
      rw [(List.cons.inj heq).2] at hplain
      simp at hplain
    · rfl
  have hany : anyTail (fun cs => (tag? cs).isSome) ('\x7b' :: '\x7b' :: (front ++ '\n' :: back)) = false := by
    rw [anyTail, htag, anyTail, hsecond, anyTail_tag_of_not_mem hplain]
    rfl
  unfold rootedValue
  simp only [String.toList_ofList]
  rw [if_neg (by simp [hany])]

end Response.Collection

namespace Response.Collection

open Courier.Template Courier.Text

/-! ### The forms of tags -/

/-- Blanks that do not end a line. -/
structure IsGap (s : String) : Prop where
  blank : ∀ c ∈ s.toList, Text.isBlank c = true
  line : '\n' ∉ s.toList

/-- A name in double braces, with an ampersand before it. -/
def ampersandTag (outer front name back : String) : String :=
  "\x7b\x7b" ++ outer ++ "&" ++ front ++ name ++ back ++ "\x7d\x7d"

/-- A name in triple braces. -/
def tripleTag (front name back : String) : String := "\x7b\x7b\x7b" ++ front ++ name ++ back ++ "\x7d\x7d\x7d"

section

variable {name : String} (hname : IsTagName name) (hdata : contains name "data" = false)

include hname

theorem isBlank_of_mem_name : ∀ c ∈ name.toList, Text.isBlank c = false :=
  fun c hc => isBlank_of_isNameChar (hname.chars c hc)

theorem last_name {front : List Char} : ∀ c ∈ (front ++ name.toList).getLast?, Text.isBlank c = false := by
  intro c hc
  rw [List.getLast?_append_of_ne_nil _ hname.nonempty] at hc
  exact isBlank_of_mem_name hname c (List.mem_of_getLast? hc)

include hdata

omit hname in
/-- Signs and blanks around a name do not make it speak of data. -/
theorem contains_data (front back : List Char) (hfront : ∀ c ∈ front, c ∉ "data".toList)
    (hback : ∀ c ∈ back, c ∉ "data".toList) :
    contains (String.ofList (front ++ name.toList ++ back)) "data" = false := by
  by_contra hin
  have hlist : (String.ofList (front ++ name.toList ++ back)).toList = front ++ name.toList ++ back :=
    String.toList_ofList
  rw [Bool.not_eq_false, contains_iff, hlist] at hin
  have hname := infix_of_append_append (by decide) hfront hback hin
  rw [← contains_iff, hdata] at hname
  cases hname

omit hname hdata in
theorem not_mem_data {cs : List Char} (h : ∀ c ∈ cs, Text.isBlank c = true) : ∀ c ∈ cs, c ∉ "data".toList := by
  intro c hc hin
  have hblank := h c hc
  have hnone : ∀ d ∈ "data".toList, Text.isBlank d = false := List.forall_iff_forall_mem.1 (by decide)
  rw [hnone c hin] at hblank
  cases hblank

/-- A path that is led on, signs before the name included. -/
theorem rooted_signs {outer signs back : List Char} (houter : ∀ c ∈ outer, Text.isBlank c = true)
    (hsigns : ∀ c ∈ signs, c ∉ "data".toList) (hhead : ∀ c ∈ (signs ++ name.toList).head?, Text.isBlank c = false)
    (hback : ∀ c ∈ back, Text.isBlank c = true) :
    rooted (String.ofList (outer ++ (signs ++ name.toList) ++ back)) =
      root ++ "." ++ String.ofList (signs ++ name.toList) := by
  have hfront : ∀ c ∈ outer ++ signs, c ∉ "data".toList := by
    intro c hc
    rcases List.mem_append.1 hc with hc | hc
    · exact not_mem_data houter c hc
    · exact hsigns c hc
  have hcontains := contains_data hdata _ _ hfront (not_mem_data hback)
  rw [List.append_assoc outer signs] at hcontains
  have htrim := trim_blanks houter hback hhead (last_name hname)
  rw [rooted, hcontains, htrim]
  rfl

/-- Double braces on one line with signs before the name. -/
theorem rootedValue_signs (outer signs back rest : List Char) (houter : ∀ c ∈ outer, Text.isBlank c = true)
    (hsigns : ∀ c ∈ signs, c ∉ "data".toList) (hhead : ∀ c ∈ (signs ++ name.toList).head?, Text.isBlank c = false)
    (hback : ∀ c ∈ back, Text.isBlank c = true) (hlines : '\n' ∉ outer ++ signs ++ back) (hclose : '\x7d' ∉ signs)
    (hrest : '\x7b' ∉ rest) :
    rootedValue (String.ofList ('\x7b' :: '\x7b' ::
        (outer ++ (signs ++ name.toList) ++ back ++ '\x7d' :: '\x7d' :: rest))) =
      "\x7b\x7b" ++ (root ++ "." ++ String.ofList (signs ++ name.toList)) ++ "\x7d\x7d" ++ String.ofList rest := by
  have hline : '\n' ∉ name.toList := fun hin => by cases isBlank_of_mem_name hname _ hin
  have hbrace : Text.isBlank '\x7d' = false := by decide
  have hinner : '\n' ∉ outer ++ (signs ++ name.toList) ++ back := by
    simp only [List.mem_append, not_or] at hlines ⊢
    exact ⟨⟨hlines.1.1, hlines.1.2, hline⟩, hlines.2⟩
  have hinner' : '\x7d' ∉ outer ++ (signs ++ name.toList) ++ back := by
    simp only [List.mem_append, not_or]
    exact ⟨⟨not_mem_of_blank houter hbrace, hclose, hname.ne_brace.2⟩, not_mem_of_blank hback hbrace⟩
  rw [rootedValue_braces hinner hinner' hrest, rooted_signs hname hdata houter hsigns hhead hback]

/-- A tag in double braces on one line becomes a tag of the longer path, without blanks. -/
theorem rootedValue_doubleTag {front back : String} (hfront : IsGap front) (hback : IsGap back) :
    rootedValue (doubleTag front name back) = doubleTag "" (root ++ "." ++ name) "" := by
  have hrooted := rootedValue_signs hname hdata front.toList [] back.toList [] hfront.blank (by simp)
    (fun c hc => isBlank_of_mem_name hname c (List.mem_of_mem_head? hc)) hback.blank
    (by simp [hfront.line, hback.line]) (by simp) (by simp)
  have htext : doubleTag front name back = String.ofList ('\x7b' :: '\x7b' ::
      (front.toList ++ ([] ++ name.toList) ++ back.toList ++ '\x7d' :: '\x7d' :: [])) := by
    rw [← String.toList_inj, String.toList_ofList, toList_doubleTag]
    simp
  rw [htext, hrooted]
  simp [doubleTag]

/-- The ampersand of a tag becomes a part of the path. -/
theorem rootedValue_ampersandTag {outer front back : String} (houter : IsGap outer) (hfront : IsGap front)
    (hback : IsGap back) : rootedValue (ampersandTag outer front name back) =
      "\x7b\x7b" ++ root ++ ".&" ++ front ++ name ++ "\x7d\x7d" := by
  have hsigns : ∀ c ∈ '&' :: front.toList, c ∉ "data".toList :=
    List.forall_mem_cons.2 ⟨by decide, not_mem_data hfront.blank⟩
  have hrooted := rootedValue_signs hname hdata outer.toList ('&' :: front.toList) back.toList [] houter.blank hsigns
    (fun c hc => by cases hc; decide) hback.blank (by simp [houter.line, hfront.line, hback.line])
    (by simp [not_mem_of_blank hfront.blank (show Text.isBlank '\x7d' = false by decide)]) (by simp)
  have htext : ampersandTag outer front name back = String.ofList ('\x7b' :: '\x7b' ::
      (outer.toList ++ ('&' :: front.toList ++ name.toList) ++ back.toList ++ '\x7d' :: '\x7d' :: [])) := by
    rw [← String.toList_inj, String.toList_ofList]
    simp [ampersandTag, String.toList_append]
  rw [htext, hrooted, ← String.toList_inj]
  simp [String.toList_append]

/-- The third brace of a tag becomes a part of the path. -/
theorem rootedValue_tripleTag {front back : String} (hfront : IsGap front) (hback : IsGap back) :
    rootedValue (tripleTag front name back) =
      "\x7b\x7b" ++ root ++ ".\x7b" ++ front ++ name ++ "\x7d\x7d\x7d" := by
  have hsigns : ∀ c ∈ '\x7b' :: front.toList, c ∉ "data".toList :=
    List.forall_mem_cons.2 ⟨by decide, not_mem_data hfront.blank⟩
  have hrooted := rootedValue_signs hname hdata [] ('\x7b' :: front.toList) back.toList ['\x7d'] (by simp) hsigns
    (fun c hc => by cases hc; decide) hback.blank (by simp [hfront.line, hback.line])
    (by simp [not_mem_of_blank hfront.blank (show Text.isBlank '\x7d' = false by decide)]) (by simp)
  have htext : tripleTag front name back = String.ofList ('\x7b' :: '\x7b' ::
      ([] ++ ('\x7b' :: front.toList ++ name.toList) ++ back.toList ++ '\x7d' :: '\x7d' :: ['\x7d'])) := by
    rw [← String.toList_inj, String.toList_ofList]
    simp [tripleTag, String.toList_append]
  rw [htext, hrooted, ← String.toList_inj]
  simp [String.toList_append]

/-- A tag over several lines is led on with its braces. -/
theorem rootedValue_lineBreak {front back : String} (hfront : ∀ c ∈ front.toList, Text.isBlank c = true)
    (hback : ∀ c ∈ back.toList, Text.isBlank c = true) (hline : '\n' ∈ front.toList ∨ '\n' ∈ back.toList) :
    rootedValue (doubleTag front name back) = root ++ "." ++ doubleTag front name back := by
  have hlist : (doubleTag front name back).toList =
      '\x7b' :: '\x7b' :: front.toList ++ name.toList ++ (back.toList ++ ['\x7d', '\x7d']) := by
    rw [toList_doubleTag]
    simp
  have hplain {c : Char} (hc : Text.isBlank c = false) (hno : c ∉ name.toList) :
      c ∉ front.toList ++ name.toList ++ back.toList := by
    simp [not_mem_of_blank hfront hc, not_mem_of_blank hback hc, hno]
  have hopen := hplain (c := '\x7b') (by decide) hname.ne_brace.1
  have hclose := hplain (c := '\x7d') (by decide) hname.ne_brace.2
  have hin : '\n' ∈ front.toList ++ name.toList ++ back.toList := by
    rcases hline with h | h <;> simp [h]
  obtain ⟨before, after, hsplit⟩ := List.append_of_mem hin
  rw [hsplit] at hopen hclose
  simp only [List.mem_append, List.mem_cons, not_or] at hopen hclose
  have htext : doubleTag front name back =
      String.ofList ('\x7b' :: '\x7b' :: (before ++ '\n' :: (after ++ ['\x7d', '\x7d']))) := by
    have hinner : before ++ '\n' :: (after ++ ['\x7d', '\x7d']) =
        front.toList ++ name.toList ++ back.toList ++ ['\x7d', '\x7d'] := by
      rw [hsplit]
      simp
    rw [← String.toList_inj, String.toList_ofList, hinner, toList_doubleTag]
    simp
  have hvalue : rootedValue (doubleTag front name back) = rooted (doubleTag front name back) := by
    rw [htext]
    exact rootedValue_lines hclose.1 hopen.1 (by simp [hopen.2.2])
  have hcontains : contains (doubleTag front name back) "data" = false := by
    have hbraces : ∀ c ∈ back.toList ++ ['\x7d', '\x7d'], c ∉ "data".toList := by
      intro c hc
      rcases List.mem_append.1 hc with hc | hc
      · exact not_mem_data hback c hc
      · obtain rfl : c = '\x7d' := by simpa using hc
        decide
    have hbetween := contains_data hdata ('\x7b' :: '\x7b' :: front.toList) _
      (List.forall_mem_cons.2 ⟨by decide, List.forall_mem_cons.2 ⟨by decide, not_mem_data hfront⟩⟩) hbraces
    rwa [← hlist, String.ofList_toList] at hbetween
  have htrim : trim (doubleTag front name back) = doubleTag front name back := by
    have hend : (doubleTag front name back).toList =
        ('\x7b' :: '\x7b' :: front.toList ++ name.toList ++ back.toList ++ ['\x7d']) ++ ['\x7d'] := by
      rw [hlist]
      simp
    have hlast : ∀ c ∈ (doubleTag front name back).toList.getLast?, Text.isBlank c = false := by
      rw [hend, List.getLast?_concat]
      intro c hc
      cases hc
      decide
    have hhead : ∀ c ∈ (doubleTag front name back).toList.head?, Text.isBlank c = false := by
      rw [hlist]
      intro c hc
      cases hc
      decide
    exact trim_eq_self hhead hlast
  rw [hvalue, rooted, hcontains, htrim]
  rfl

end

end Response.Collection

/-- A call with other rules for its output. -/
def Call.withInbound (call : Call) (rules : List Rule) : Call := { call with inbound := some rules }

namespace Response

open Courier.Language Courier.Template Courier.Formula

/-! ### Rules -/

/-- A rule whose value is a tag, in double braces on one line, of a path that does not speak of data. -/
structure TagRule where
  key : String
  front : String
  name : String
  back : String
  format : Option Mapping.Format
  isName : IsTagName name
  free : Text.contains name "data" = false
  isGap_front : Collection.IsGap front
  isGap_back : Collection.IsGap back
  isTemplate : format ≠ some .formula

namespace TagRule

def rule (t : TagRule) : Rule := ⟨t.key, doubleTag t.front t.name t.back, t.format⟩

/-- The path that the path of the rule is led to. -/
def path (t : TagRule) : String := Collection.root ++ "." ++ t.name

/-- The same rule with the longer path. -/
def deeper (t : TagRule) : Rule := ⟨t.key, doubleTag t.front t.path t.back, t.format⟩

/-- The rule with the longer path, and no blanks around it. -/
def tight (t : TagRule) : Rule := ⟨t.key, doubleTag "" t.path "", t.format⟩

end TagRule

variable {endpoint other : Endpoint}

/-- A value with braces is a template, unless it is given as a formula. -/
theorem formatOf_of_braces {format : Option Mapping.Format} (hformat : format ≠ some .formula) {source : String}
    (h : ['\x7b', '\x7b'] <:+: source.toList) : Mapping.formatOf format source = .template := by
  unfold Mapping.formatOf
  cases format with
  | none => exact if_pos ((Text.contains_iff source "\x7b\x7b").2 h)
  | some format =>
      cases format with
      | formula => exact absurd rfl hformat
      | template => rfl

theorem isBlankText_of_braces {source : String} (h : ['\x7b', '\x7b'] <:+: source.toList) :
    Text.isBlankText source = false := by
  rw [Text.isBlankText, List.all_eq_false]
  exact ⟨'\x7b', h.subset List.mem_cons_self, by decide⟩

theorem braces_doubleTag (front name back : String) : ['\x7b', '\x7b'] <:+: (doubleTag front name back).toList := by
  rw [toList_doubleTag]
  exact (List.prefix_append ['\x7b', '\x7b'] _).isInfix

/-- Rules with values that are not blank and come to the same text are evaluated alike. -/
theorem ruleStep_congr {rule later : Rule} (hrule : Text.isBlankText rule.value = false)
    (hlater : Text.isBlankText later.value = false) (hformat : rule.format = later.format)
    (hvalue : ruleValue endpoint rule = ruleValue other later) (all whole : Value) (position : Nat) :
    ruleStep endpoint all whole position rule = ruleStep other all whole position later := by
  unfold ruleStep
  rw [hrule, hlater, hformat, hvalue]

/-- Rules of two endpoints that have the same keys and are evaluated alike. -/
def AreAlike (endpoint other : Endpoint) (rules others : List Rule) : Prop :=
  List.Forall₂ (fun rule later => rule.key = later.key ∧ ∀ all whole position,
    ruleStep endpoint all whole position rule = ruleStep other all whole position later) rules others

theorem AreAlike.withRules {rules others : List Rule} (h : AreAlike endpoint other rules others)
    (data all whole : Value) (position : Nat) (output : List (Value × Value)) :
    withRules endpoint data all whole position rules output =
      withRules other data all whole position others output := by
  induction h generalizing position output with
  | nil => rfl
  | cons hfirst _ ih =>
      rw [withRules_cons, withRules_cons, hfirst.1, hfirst.2]
      simp only [ih]

/-- Rules that are evaluated alike give one output. -/
theorem AreAlike.output {rules others : List Rule} (h : AreAlike endpoint other rules others) (r : Response)
    (data : Value) (call : Call) :
    r.output data endpoint (call.withInbound rules) = r.output data other (call.withInbound others) := by
  unfold Response.output Call.withInbound
  simp only [h.withRules]

/-- A rule that is rewritten at a collection is evaluated like the rewritten one elsewhere. -/
theorem areAlike_of_rootedValue (hurl : Collection.isUrl endpoint.url = true)
    (hother : Collection.isUrl other.url = false) {key value led : String} {format : Option Mapping.Format}
    (hled : Collection.rootedValue value = led) (hbraces : ['\x7b', '\x7b'] <:+: value.toList)
    (hbraces' : ['\x7b', '\x7b'] <:+: led.toList) :
    AreAlike endpoint other [⟨key, value, format⟩] [⟨key, led, format⟩] := by
  refine .cons ⟨rfl, ruleStep_congr (isBlankText_of_braces hbraces) (isBlankText_of_braces hbraces') rfl ?_⟩ .nil
  simp [ruleValue, hurl, hother, hled]

namespace TagRule

theorem rootedValue_rule (t : TagRule) : Collection.rootedValue t.rule.value = t.tight.value :=
  Collection.rootedValue_doubleTag t.isName t.free t.isGap_front t.isGap_back

theorem areAlike (hurl : Collection.isUrl endpoint.url = true) (hother : Collection.isUrl other.url = false)
    (tags : List TagRule) : AreAlike endpoint other (tags.map rule) (tags.map tight) := by
  induction tags with
  | nil => exact .nil
  | cons t tags ih =>
      have hfirst : AreAlike endpoint other [t.rule] [t.tight] :=
        areAlike_of_rootedValue hurl hother t.rootedValue_rule (braces_doubleTag _ _ _) (braces_doubleTag _ _ _)
      exact .cons (List.forall₂_cons.1 hfirst).1 ih

/-- The longer path is one that a tag can have. -/
theorem isTagName_path (t : TagRule) : IsTagName t.path := by
  have hlist : t.path.toList = "data.data.".toList ++ t.name.toList := by
    simp [path, Collection.root, String.toList_append]
  refine ⟨by simp [hlist], fun c hc => ?_, fun c hc => ?_⟩
  · rw [hlist, List.mem_append] at hc
    rcases hc with hc | hc
    · exact List.forall_iff_forall_mem.1 (show List.Forall (fun c => Tag.isNameChar c = true) _ by decide) c hc
    · exact t.isName.chars c hc
  · rw [hlist] at hc
    cases hc
    decide

end TagRule

/-! ### Paths of names -/

/-- Names with points between them. -/
def IsNamePath (path : String) : Prop :=
  ∃ keys : List String, keys ≠ [] ∧ (∀ key ∈ keys, isName key = true) ∧ path = Text.join "." keys

/-- Names count no items. -/
theorem position?_of_isName {key : String} (h : isName key = true) : Path.position? key = .ok none := by
  obtain ⟨c, word, rfl, hc, -⟩ := exists_of_isName h
  have hdigit : Text.isDigit c = false := by
    refine Text.of_forall_ascii (P := fun c => isNameHead c = true → Text.isDigit c = false) ?_
      (toNat_lt_of_isNameTail (isNameTail_of_isNameHead hc)) hc
    decide
  rw [Path.position?, if_pos]
  simp [hdigit]

/-- Names can be walked in every document. -/
theorem exists_walk_of_names {keys : List String} (h : ∀ key ∈ keys, isName key = true) (d : Document) :
    ∃ part, d.walk keys = .ok part := by
  induction keys generalizing d with
  | nil => exact ⟨_, rfl⟩
  | cons key keys ih =>
      have hrest := ih fun other hother => h other (List.mem_cons_of_mem _ hother)
      cases d with
      | object entries =>
          rw [Document.walk_object_cons]
          cases entryOf? key entries with
          | none => exact ⟨_, rfl⟩
          | some part => exact hrest part
      | list items =>
          rw [Document.walk, Document.step, position?_of_isName (h key List.mem_cons_self)]
          exact ⟨_, rfl⟩
      | _ => exact ⟨_, rfl⟩

/-- A path of names that is led on is told in the layers of every response. -/
theorem exists_told_path {t : TagRule} (h : IsNamePath t.name) (d : Document) :
    (∃ s, told d t.path = .ok s) ∧ (∀ c ∈ t.path.toList, Text.codePoint c ≤ 0xFFFF) ∧
      ∀ first rest, Path.segments t.path = first :: rest → first = "data" := by
  obtain ⟨keys, hne, hnames, hname⟩ := h
  obtain ⟨first, more, rfl⟩ := List.exists_cons_of_ne_nil hne
  have hall : ∀ key ∈ "data" :: "data" :: first :: more, isName key = true :=
    List.forall_mem_cons.2 ⟨by decide, List.forall_mem_cons.2 ⟨by decide, hnames⟩⟩
  have hpath : t.path = Text.join "." ("data" :: "data" :: first :: more) := by
    rw [TagRule.path, hname, ← String.toList_inj, KeyPath.toList_join, String.toList_append, KeyPath.toList_join]
    simp [Collection.root]
  have hsegments : Path.segments t.path = "data" :: "data" :: first :: more := by
    rw [hpath]
    exact segments_of_names (List.cons_ne_nil _ _) hall
  refine ⟨?_, fun c hc => ?_, fun head rest heq => ?_⟩
  · obtain ⟨part, hpart⟩ := exists_walk_of_names hall d
    exact ⟨_, by rw [told, hsegments, hpart]; rfl⟩
  · have hlt : c.toNat < 128 := by
      rw [hpath] at hc
      rcases KeyPath.isNameTail_or_point_of_join hall c hc with hc | rfl
      · exact toNat_lt_of_isNameTail hc
      · decide
    rw [Text.codePoint_of_lt hlt]
    omega
  · rw [hsegments] at heq
    exact (List.cons.inj heq).1.symm

/-! ### The output at a collection -/

section

variable {r : Response} {fields entries : List (String × Document)} {identity : Identity}
  {before : List (Value × Value)}

/-- A rule whose value comes to a tag of the longer path sets what is told there. -/
theorem AreLayers.outcome_ruleStep_path (h : r.AreLayers fields before entries)
    (hfields : (Document.object fields).IsJson) {t : TagRule} (hname : IsNamePath t.name) {rule : Rule}
    (hbraces : ['\x7b', '\x7b'] <:+: rule.value.toList) (hformat : rule.format = t.format) {front back : String}
    (hvalue : ruleValue endpoint rule = doubleTag front t.path back)
    (hfront : ∀ c ∈ front.toList, Text.isBlank c = true) (hback : ∀ c ∈ back.toList, Text.isBlank c = true)
    {s : String} (hs : told (.object (r.allLayers fields entries)) t.path = .ok s) (whole : Value) (position : Nat) :
    (ruleStep endpoint (r.seen before fields) whole position rule).outcome .empty =
      (.ok (.text (.placed "output" [position]) s), .empty) := by
  obtain ⟨-, hcodes, hfirst⟩ := exists_told_path hname (.object (r.allLayers fields entries))
  have hlooked : IsLookedUp (r.allLayers fields entries) t.path.toList := by
    intro first rest hsegments
    rw [String.ofList_toList] at hsegments
    rw [hfirst first rest hsegments]
    exact Or.inr ⟨rfl, by decide⟩
  have htag : IsTag (doubleTag front t.path back) t.path := isTag_doubleTag t.isTagName_path hfront hback
  refine outcome_ruleStep_of_render (isBlankText_of_braces hbraces) ?_ ?_ whole position
  · rw [hvalue, hformat]
    exact formatOf_of_braces t.isTemplate (braces_doubleTag _ _ _)
  · rw [hvalue]
    exact h.render_told hfields htag hcodes hlooked hs

/-- What rules with tags set, at a collection and with the longer paths elsewhere. -/
theorem AreLayers.exists_sets (h : r.AreLayers fields before entries) (hfields : (Document.object fields).IsJson)
    (hurl : Collection.isUrl endpoint.url = true) (hother : Collection.isUrl other.url = false) (whole : Value)
    {tags : List TagRule} (htags : ∀ t ∈ tags, IsNamePath t.name ∧
      ∃ k, (Step.text t.key (.map identity before)).outcome .empty = (.ok k, .empty)) (position : Nat) :
    ∃ pairs, List.Forall₂ (fun t p => nameOf (.map identity before) t.rule = .ok p.1 ∧ ∃ place s,
          told (.object (r.allLayers fields entries)) t.path = .ok s ∧ p.2 = .text place s) tags pairs ∧
      Sets endpoint (.map identity before) (r.seen before fields) whole position (tags.map TagRule.rule) pairs ∧
      Sets other (.map identity before) (r.seen before fields) whole position (tags.map TagRule.deeper) pairs := by
  induction tags generalizing position with
  | nil => exact ⟨[], .nil, .nil position, .nil position⟩
  | cons t tags ih =>
      obtain ⟨hname, k, hk⟩ := htags t List.mem_cons_self
      obtain ⟨pairs, hpairs, hrules, hdeeper⟩ := ih (fun t ht => htags t (List.mem_cons_of_mem _ ht)) (position + 1)
      obtain ⟨⟨s, hs⟩, -⟩ := exists_told_path hname (.object (r.allLayers fields entries))
      have hled : ruleValue endpoint t.rule = doubleTag "" t.path "" := by
        rw [ruleValue, if_pos hurl, t.rootedValue_rule]
        rfl
      have hplain : ruleValue other t.deeper = doubleTag t.front t.path t.back := by
        rw [ruleValue, if_neg (by simp [hother])]
        rfl
      have hbraces : ['\x7b', '\x7b'] <:+: t.rule.value.toList := braces_doubleTag t.front t.name t.back
      have hbraces' : ['\x7b', '\x7b'] <:+: t.deeper.value.toList := braces_doubleTag t.front t.path t.back
      have hfirst := h.outcome_ruleStep_path hfields hname hbraces rfl hled (by simp) (by simp) hs whole position
      have hsecond := h.outcome_ruleStep_path hfields hname hbraces' rfl hplain t.isGap_front.blank t.isGap_back.blank
        hs whole position
      exact ⟨(k, .text (.placed "output" [position]) s) :: pairs,
        .cons ⟨congrArg Prod.fst hk, _, s, hs, rfl⟩ hpairs, .cons hk hfirst hrules, .cons hk hsecond hdeeper⟩

end

/-- Rules at a collection. Those with tags in double braces on one line give what the same rules with the longer paths
and no blanks give elsewhere, whatever the response and the data are; where tags can be rendered, that is what the
longer paths lead to, and blanks do not matter. An ampersand or a third brace becomes a part of the path instead, and a
tag over several lines is put behind the longer path as it is. -/
theorem output_rooted (hurl : Collection.isUrl endpoint.url = true) (hother : Collection.isUrl other.url = false) :
    (∀ (tags : List TagRule) (r : Response) (data : Value) (call : Call),
      r.output data endpoint (call.withInbound (tags.map TagRule.rule)) =
        r.output data other (call.withInbound (tags.map TagRule.tight))) ∧
    (∀ (tags : List TagRule) (r : Response) (fields entries : List (String × Document)) (identity : Identity)
        (before : List (Value × Value)) (call : Call), r.status = 200 → r.content = .ok (.object fields) →
      r.AreLayers fields before entries →
      (∀ t ∈ tags, IsNamePath t.name ∧
        ∃ k, (Step.text t.key (.map identity before)).outcome .empty = (.ok k, .empty)) →
      ∃ pairs, List.Forall₂ (fun t p => nameOf (.map identity before) t.rule = .ok p.1 ∧ ∃ place s,
          told (.object (r.allLayers fields entries)) t.path = .ok s ∧ p.2 = .text place s) tags pairs ∧
        (r.output (.map identity before) endpoint (call.withInbound (tags.map TagRule.rule))).outcome .empty =
          (.ok (.newMap (outputOf (putEntries pairs (r.basicEntries fields)))), .empty) ∧
        (r.output (.map identity before) other (call.withInbound (tags.map TagRule.deeper))).outcome .empty =
          (.ok (.newMap (outputOf (putEntries pairs (r.basicEntries fields)))), .empty)) ∧
    ∀ (name : String), IsTagName name → Text.contains name "data" = false →
      ∀ (key : String) (format : Option Mapping.Format) (r : Response) (data : Value) (call : Call),
        (∀ outer front back, Collection.IsGap outer → Collection.IsGap front → Collection.IsGap back →
          r.output data endpoint (call.withInbound [⟨key, Collection.ampersandTag outer front name back, format⟩]) =
            r.output data other (call.withInbound
              [⟨key, "\x7b\x7bdata.data.&" ++ front ++ name ++ "\x7d\x7d", format⟩])) ∧
        (∀ front back, Collection.IsGap front → Collection.IsGap back →
          r.output data endpoint (call.withInbound [⟨key, Collection.tripleTag front name back, format⟩]) =
            r.output data other (call.withInbound
              [⟨key, "\x7b\x7bdata.data.\x7b" ++ front ++ name ++ "\x7d\x7d\x7d", format⟩])) ∧
        ∀ front back : String, (∀ c ∈ front.toList ++ back.toList, Text.isBlank c = true) →
          '\n' ∈ front.toList ++ back.toList →
          r.output data endpoint (call.withInbound [⟨key, doubleTag front name back, format⟩]) =
            r.output data other (call.withInbound [⟨key, "data.data." ++ doubleTag front name back, format⟩]) := by
  refine ⟨fun tags r data call => (TagRule.areAlike hurl hother tags).output r data call, ?_, ?_⟩
  · intro tags r fields entries identity before call hstatus hcontent hlayers htags
    obtain ⟨pairs, hpairs, hrules, hdeeper⟩ := hlayers.exists_sets (isJson_content hcontent) hurl hother
      (r.whole (.ofDocument "content" [] (.object fields))) htags 0
    exact ⟨pairs, hpairs, hrules.outcome_output hstatus hcontent rfl, hdeeper.outcome_output hstatus hcontent rfl⟩
  · intro name hname hdata key format r data call
    refine ⟨fun outer front back houter hfront hback => ?_, fun front back hfront hback => ?_,
      fun front back hblank hline => ?_⟩
    · refine (areAlike_of_rootedValue hurl hother ?_ ?_ ?_).output r data call
      · exact Collection.rootedValue_ampersandTag hname hdata houter hfront hback
      · exact List.IsPrefix.isInfix (by simp [Collection.ampersandTag])
      · exact List.IsPrefix.isInfix (by simp)
    · refine (areAlike_of_rootedValue hurl hother ?_ ?_ ?_).output r data call
      · exact Collection.rootedValue_tripleTag hname hdata hfront hback
      · exact List.IsPrefix.isInfix (by simp [Collection.tripleTag])
      · exact List.IsPrefix.isInfix (by simp)
    · refine (areAlike_of_rootedValue hurl hother ?_ (braces_doubleTag _ _ _) ?_).output r data call
      · exact Collection.rootedValue_lineBreak hname hdata (fun c hc => hblank c (List.mem_append_left _ hc))
          (fun c hc => hblank c (List.mem_append_right _ hc)) (List.mem_append.1 hline)
      · rw [String.toList_append]
        exact (braces_doubleTag front name back).trans (List.suffix_append _ _).isInfix

/-- A rule of a collection with blanks around its path, and the same rule with the longer path elsewhere. -/
theorem output_rooted_record :
    ∃ place, (output ⟨200, "\x7b\"data\": \x7b\"data\": \x7b\"p\": \"v\"\x7d\x7d\x7d", []⟩
        (.ofDocument "data" [] (.object [])) ⟨"GET", "http://h/api/1/collections", [], [], "", none⟩
        ⟨"e", none, some [⟨"k", "\x7b\x7b p \x7d\x7d", none⟩], none⟩).outcome .empty =
          (.ok (.newMap (outputOf [("status", .newInt 200), ("response", .ofDocument "content" [] (.object
            [("data", .object [("data", .object [("p", .text "v")])])])), ("k", .text place "v")])), .empty) ∧
      (output ⟨200, "\x7b\"data\": \x7b\"data\": \x7b\"p\": \"v\"\x7d\x7d\x7d", []⟩
        (.ofDocument "data" [] (.object [])) ⟨"GET", "http://h/", [], [], "", none⟩
        ⟨"e", none, some [⟨"k", "\x7b\x7b data.data.p \x7d\x7d", none⟩], none⟩).outcome .empty =
          (.ok (.newMap (outputOf [("status", .newInt 200), ("response", .ofDocument "content" [] (.object
            [("data", .object [("data", .object [("p", .text "v")])])])), ("k", .text place "v")])), .empty) := by
  have hread : Json.read "\x7b\"data\": \x7b\"data\": \x7b\"p\": \"v\"\x7d\x7d\x7d" =
      .ok (.object [("data", .object [("data", .object [("p", .text "v")])])]) := by cbv
  have hblank : isBlank ⟨200, "\x7b\"data\": \x7b\"data\": \x7b\"p\": \"v\"\x7d\x7d\x7d", []⟩ = false := by decide
  have hcontent : content ⟨200, "\x7b\"data\": \x7b\"data\": \x7b\"p\": \"v\"\x7d\x7d\x7d", []⟩ =
      .ok (.object [("data", .object [("data", .object [("p", .text "v")])])]) := by
    rw [content, hblank]
    exact hread
  have hlayers : AreLayers ⟨200, "\x7b\"data\": \x7b\"data\": \x7b\"p\": \"v\"\x7d\x7d\x7d", []⟩
      [("data", .object [("data", .object [("p", .text "v")])])] (Value.ofEntries "data" [] 0 []) [] :=
    ⟨Value.areEntriesOf_ofEntries "data" [] 0 _, .object _ (by decide) (by simp), by decide, rfl, rfl⟩
  have hgap : Collection.IsGap " " := ⟨List.forall_iff_forall_mem.1 (by decide), by decide⟩
  have htagName : IsTagName "p" :=
    ⟨by decide, List.forall_iff_forall_mem.1 (by decide), by
      intro c hc
      cases hc
      decide⟩
  have hpath : IsNamePath "p" := ⟨["p"], by decide, List.forall_iff_forall_mem.1 (by decide), rfl⟩
  have hkey : (Step.text "k" (.ofDocument "data" [] (.object []))).outcome .empty = (.ok "k", .empty) := by
    rw [Step.outcome_text, Mapping.text, render, if_pos (show Template.isPlain "k" = true from rfl)]
    rfl
  obtain ⟨-, hall, -⟩ := @output_rooted ⟨"GET", "http://h/api/1/collections", [], [], "", none⟩
    ⟨"GET", "http://h/", [], [], "", none⟩ (by decide) (by decide)
  obtain ⟨pairs, hpairs, hout, hdeeper⟩ := hall [⟨"k", " ", "p", " ", none, htagName, by decide, hgap, hgap, by decide⟩]
    _ _ _ _ _ ⟨"e", none, none, none⟩ rfl hcontent hlayers (List.forall_mem_singleton.2 ⟨hpath, "k", hkey⟩)
  obtain ⟨⟨key, v⟩, rfl⟩ : ∃ p, pairs = [p] := by
    cases hpairs with
    | cons _ hnil =>
        cases hnil
        exact ⟨_, rfl⟩
  obtain ⟨⟨hname, place, s, hs, rfl⟩, -⟩ := List.forall₂_cons.1 hpairs
  obtain rfl : "k" = key := Except.ok.inj ((congrArg Prod.fst hkey).symm.trans hname)
  have hvalue : told (.object [("data", .object [("data", .object [("p", .text "v")])])]) "data.data.p" = .ok "v" := by
    cbv
  obtain rfl : "v" = s := Except.ok.inj (hvalue.symm.trans hs)
  exact ⟨place, hout, hdeeper⟩

end Response

end Courier
