import Courier.Proofs.Text.Trimming
import Courier.Response.Output

/-! Texts of rules cut at their tags. At each place either a tag starts, which goes up to the first closing braces on its
line, or one character is left as it stands. Leading the paths in the tags to the data of a record changes nothing
between the tags, and what comes out is cut at the same places, so that doing it again changes nothing at all. -/

namespace Courier

namespace Response.Collection

open Courier.Text

/-! ### Tags -/

/-- A text in double braces. -/
def braced (inner : List Char) : List Char := '\x7b' :: '\x7b' :: (inner ++ ['\x7d', '\x7d'])

/-- A text starts with double braces that are closed on the same line. -/
def StartsTag (cs : List Char) : Prop := ∃ inner rest, cs = braced inner ++ rest ∧ '\n' ∉ inner

/-- What can stand in a tag: a text on one line, with the first closing braces behind it. -/
structure IsInner (inner : List Char) : Prop where
  line : '\n' ∉ inner
  first : ¬ ['\x7d', '\x7d'] <:+: inner ++ ['\x7d']

/-- Closing braces stand on the first line of a text. -/
def Closes (cs : List Char) : Prop := ∃ inner rest, cs = inner ++ '\x7d' :: '\x7d' :: rest ∧ '\n' ∉ inner

/-- A text cut at its tags: what stands before each of them and in it, and what stands behind the last. -/
structure Cut where
  tags : List (List Char × List Char)
  last : List Char

namespace Cut

/-- A character in front of a text that was cut. -/
def after (c : Char) : Cut → Cut
  | ⟨[], last⟩ => ⟨[], c :: last⟩
  | ⟨(before, inner) :: tags, last⟩ => ⟨(c :: before, inner) :: tags, last⟩

/-- The text that was cut. -/
def text (p : Cut) : List Char := p.tags.flatMap (fun t => t.1 ++ braced t.2) ++ p.last

/-- The text with another text in each tag. -/
def mapInner (f : List Char → List Char) (p : Cut) : Cut := ⟨p.tags.map fun t => (t.1, f t.2), p.last⟩

end Cut

/-- The ways to cut a text from left to right. A tag is taken where one starts, and only a character elsewhere. -/
inductive IsCut : List Char → Cut → Prop
  | nil : IsCut [] ⟨[], []⟩
  | skip {c : Char} {cs : List Char} {p : Cut} (hplain : ¬ StartsTag (c :: cs)) (hrest : IsCut cs p) :
      IsCut (c :: cs) (p.after c)
  | tag {inner rest : List Char} {p : Cut} (hinner : IsInner inner) (hrest : IsCut rest p) :
      IsCut (braced inner ++ rest) ⟨([], inner) :: p.tags, p.last⟩

variable {c : Char} {cs inner rest : List Char} {p q : Cut}

theorem startsTag_cons (c : Char) (cs : List Char) :
    StartsTag (c :: cs) ↔ ∃ rest, c = '\x7b' ∧ cs = '\x7b' :: rest ∧ Closes rest := by
  constructor
  · rintro ⟨inner, rest, heq, hline⟩
    obtain ⟨rfl, rfl⟩ := List.cons.inj heq
    exact ⟨_, rfl, rfl, inner, rest, by simp, hline⟩
  · rintro ⟨_, rfl, rfl, inner, rest, rfl, hline⟩
    exact ⟨inner, rest, by simp [braced], hline⟩

/-- Closing braces stand at a place, or behind it on the same line. -/
theorem closes_cons (c : Char) (cs : List Char) :
    Closes (c :: cs) ↔ (c = '\x7d' ∧ cs.head? = some '\x7d') ∨ (c ≠ '\n' ∧ Closes cs) := by
  constructor
  · rintro ⟨_ | ⟨d, inner⟩, rest, heq, hline⟩
    · obtain ⟨rfl, rfl⟩ := List.cons.inj heq
      exact Or.inl ⟨rfl, rfl⟩
    · obtain ⟨rfl, rfl⟩ := List.cons.inj heq
      simp only [List.mem_cons, not_or] at hline
      exact Or.inr ⟨Ne.symm hline.1, inner, rest, rfl, hline.2⟩
  · rintro (⟨rfl, hhead⟩ | ⟨hc, inner, rest, rfl, hline⟩)
    · obtain ⟨rest, rfl⟩ := List.head?_eq_some_iff.1 hhead
      exact ⟨[], rest, rfl, List.not_mem_nil⟩
    · exact ⟨c :: inner, rest, rfl, by simp [Ne.symm hc, hline]⟩

theorem inner?_cons_eq (hopen : ¬ (c = '\x7d' ∧ cs.head? = some '\x7d')) :
    inner? (c :: cs) = if c = '\n' then none else (inner? cs).map fun t => (c :: t.1, t.2) := by
  rw [inner?.eq_def]
  split
  · rename_i heq
    cases heq
    exact absurd ⟨rfl, rfl⟩ hopen
  · rename_i heq
    cases heq
  · rename_i heq
    cases heq
    simp

theorem isInner_nil : IsInner [] := ⟨List.not_mem_nil, by decide⟩

theorem isInner_cons : IsInner (c :: inner) ↔
    c ≠ '\n' ∧ ¬ (c = '\x7d' ∧ (inner ++ ['\x7d']).head? = some '\x7d') ∧ IsInner inner := by
  have hpair : ['\x7d', '\x7d'] <+: c :: (inner ++ ['\x7d']) ↔
      c = '\x7d' ∧ (inner ++ ['\x7d']).head? = some '\x7d' := by
    rw [List.cons_prefix_cons, List.singleton_prefix_iff_head?_eq_some, eq_comm]
  constructor
  · rintro ⟨hline, hfirst⟩
    rw [List.cons_append, List.infix_cons_iff, not_or, hpair] at hfirst
    simp only [List.mem_cons, not_or] at hline
    exact ⟨Ne.symm hline.1, hfirst.1, hline.2, hfirst.2⟩
  · rintro ⟨hc, hopen, hline, hfirst⟩
    refine ⟨by simp [Ne.symm hc, hline], ?_⟩
    rw [List.cons_append, List.infix_cons_iff, not_or, hpair]
    exact ⟨hopen, hfirst⟩

theorem head?_close (inner rest : List Char) :
    (inner ++ '\x7d' :: '\x7d' :: rest).head? = (inner ++ ['\x7d']).head? := by
  cases inner <;> rfl

/-- What is cut out stands before the first closing braces on its line. -/
theorem inner?_eq_some_iff :
    inner? cs = some (inner, rest) ↔ cs = inner ++ '\x7d' :: '\x7d' :: rest ∧ IsInner inner := by
  induction cs generalizing inner with
  | nil => simp [inner?]
  | cons c cs ih =>
      by_cases hopen : c = '\x7d' ∧ cs.head? = some '\x7d'
      · obtain ⟨rfl, hhead⟩ := hopen
        obtain ⟨after, rfl⟩ := List.head?_eq_some_iff.1 hhead
        cases inner with
        | nil => simp [inner?, isInner_nil]
        | cons d inner =>
            refine iff_of_false (by simp [inner?]) ?_
            rintro ⟨heq, hinner⟩
            obtain ⟨rfl, htail⟩ : '\x7d' = d ∧ '\x7d' :: after = inner ++ '\x7d' :: '\x7d' :: rest := List.cons.inj heq
            refine (isInner_cons.1 hinner).2.1 ⟨rfl, ?_⟩
            rw [← head?_close inner rest, ← htail]
            rfl
      · rw [inner?_cons_eq hopen]
        cases inner with
        | nil =>
            refine iff_of_false (by split <;> simp) ?_
            rintro ⟨heq, -⟩
            obtain ⟨rfl, rfl⟩ := List.cons.inj heq
            exact hopen ⟨rfl, rfl⟩
        | cons d inner =>
            constructor
            · intro h
              split at h
              · cases h
              rename_i hline
              obtain ⟨⟨front, after⟩, hfront, heq⟩ := Option.map_eq_some_iff.1 h
              cases heq
              obtain ⟨rfl, hinner⟩ := ih.1 hfront
              rw [head?_close] at hopen
              exact ⟨rfl, isInner_cons.2 ⟨hline, hopen, hinner⟩⟩
            · rintro ⟨heq, hinner⟩
              obtain ⟨rfl, rfl⟩ := List.cons.inj heq
              obtain ⟨hline, -, hinner⟩ := isInner_cons.1 hinner
              rw [if_neg hline, ih.2 ⟨rfl, hinner⟩]
              rfl

/-- Something is cut out where closing braces stand on the first line. -/
theorem isSome_inner?_iff : (inner? cs).isSome = true ↔ Closes cs := by
  induction cs with
  | nil => exact iff_of_false (by simp [inner?]) (by simp [Closes])
  | cons c cs ih =>
      rw [closes_cons, ← ih]
      by_cases hopen : c = '\x7d' ∧ cs.head? = some '\x7d'
      · obtain ⟨rfl, hhead⟩ := hopen
        obtain ⟨after, rfl⟩ := List.head?_eq_some_iff.1 hhead
        exact iff_of_true rfl (Or.inl ⟨rfl, rfl⟩)
      · rw [inner?_cons_eq hopen]
        by_cases hline : c = '\n'
        · simp [hline]
        · simp [hline, hopen]

theorem tag?_braced (h : IsInner inner) (rest : List Char) : tag? (braced inner ++ rest) = some (inner, rest) := by
  have hinner : inner? (inner ++ '\x7d' :: '\x7d' :: rest) = some (inner, rest) := inner?_eq_some_iff.2 ⟨rfl, h⟩
  simpa [tag?, braced] using hinner

theorem eq_braced_of_tag? (h : tag? cs = some (inner, rest)) : cs = braced inner ++ rest ∧ IsInner inner := by
  unfold tag? at h
  split at h
  · obtain ⟨rfl, hinner⟩ := inner?_eq_some_iff.1 h
    exact ⟨by simp [braced], hinner⟩
  · cases h

theorem isSome_tag?_iff : (tag? cs).isSome = true ↔ StartsTag cs := by
  cases cs with
  | nil => exact iff_of_false (by simp [tag?]) (by simp [StartsTag, braced])
  | cons c cs =>
      rw [startsTag_cons]
      unfold tag?
      split
      · rename_i rest heq
        cases heq
        rw [isSome_inner?_iff]
        simp
      · rename_i hopen
        refine iff_of_false (by simp) ?_
        rintro ⟨rest, rfl, rfl, -⟩
        exact hopen rest rfl

theorem tag?_eq_none (h : ¬ StartsTag cs) : tag? cs = none := by
  rwa [← Option.not_isSome_iff_eq_none, isSome_tag?_iff]

theorem startsTag_braced (h : '\n' ∉ inner) (rest : List Char) : StartsTag (braced inner ++ rest) :=
  ⟨inner, rest, rfl, h⟩

/-! ### Cutting -/

namespace Cut

theorem text_after (c : Char) (p : Cut) : (p.after c).text = c :: p.text := by
  obtain ⟨_ | ⟨t, tags⟩, last⟩ := p <;> rfl

theorem text_tag (inner : List Char) (p : Cut) : text ⟨([], inner) :: p.tags, p.last⟩ = braced inner ++ p.text := by
  simp [text]

theorem mapInner_after (f : List Char → List Char) (c : Char) (p : Cut) :
    (p.after c).mapInner f = (p.mapInner f).after c := by
  obtain ⟨_ | ⟨t, tags⟩, last⟩ := p <;> rfl

theorem tags_after_eq_nil (c : Char) (p : Cut) : (p.after c).tags = [] ↔ p.tags = [] := by
  obtain ⟨_ | ⟨t, tags⟩, last⟩ := p <;> simp [after]

theorem forall_tags_after {P : List Char → Prop} {c : Char} {p : Cut} :
    (∀ t ∈ (p.after c).tags, P t.2) ↔ ∀ t ∈ p.tags, P t.2 := by
  obtain ⟨_ | ⟨t, tags⟩, last⟩ := p <;> simp [after]

end Cut

/-- A text is put together of the pieces that it is cut into. -/
theorem IsCut.text_eq (h : IsCut cs p) : p.text = cs := by
  induction h with
  | nil => rfl
  | skip _ _ ih => rw [Cut.text_after, ih]
  | tag _ _ ih => rw [Cut.text_tag, ih]

theorem length_lt_braced (inner rest : List Char) : rest.length < (braced inner ++ rest).length := by
  simp [braced]
  omega

/-- Every text can be cut. -/
theorem exists_isCut (cs : List Char) : ∃ p, IsCut cs p := by
  induction hlength : cs.length using Nat.strong_induction_on generalizing cs with
  | h n ih =>
      subst hlength
      cases cs with
      | nil => exact ⟨_, .nil⟩
      | cons c cs =>
          by_cases hstarts : StartsTag (c :: cs)
          · obtain ⟨⟨inner, rest⟩, htag⟩ := Option.isSome_iff_exists.1 (isSome_tag?_iff.2 hstarts)
            obtain ⟨heq, hinner⟩ := eq_braced_of_tag? htag
            rw [heq]
            obtain ⟨p, hp⟩ := ih rest.length (heq ▸ length_lt_braced inner rest) rest rfl
            exact ⟨_, .tag hinner hp⟩
          · obtain ⟨p, hp⟩ := ih cs.length (Nat.lt_succ_self _) cs rfl
            exact ⟨_, .skip hstarts hp⟩

/-- There is one way to cut a text. -/
theorem IsCut.unique (h : IsCut cs p) (hq : IsCut cs q) : p = q := by
  induction h generalizing q with
  | nil =>
      generalize hcs : [] = cs at hq
      cases hq with
      | nil => rfl
      | skip => cases hcs
      | tag => cases hcs
  | @skip c cs p hplain _ ih =>
      generalize hcs : c :: cs = ds at hq
      cases hq with
      | nil => cases hcs
      | skip _ hrest =>
          obtain ⟨rfl, rfl⟩ := List.cons.inj hcs
          rw [ih hrest]
      | tag hinner _ =>
          rw [hcs] at hplain
          exact absurd (startsTag_braced hinner.line _) hplain
  | @tag inner rest p hinner _ ih =>
      generalize hcs : braced inner ++ rest = ds at hq
      cases hq with
      | nil => cases hcs
      | skip hplain _ =>
          rw [← hcs] at hplain
          exact absurd (startsTag_braced hinner.line _) hplain
      | tag hother hrest =>
          have hsame := tag?_braced hinner rest
          rw [hcs, tag?_braced hother] at hsame
          cases hsame
          rw [ih hrest]

/-! ### Leading the tags on -/

/-- What stands in a tag whose path is led to the data of a record: the text without the blanks at its ends, and the
way to the data before it, unless it speaks of data. -/
def led (inner : List Char) : List Char :=
  let trimmed := (trim (String.ofList inner)).toList
  if "data".toList <:+: inner then trimmed else "data.data.".toList ++ trimmed

theorem toList_rooted (inner : List Char) : (rooted (String.ofList inner)).toList = led inner := by
  have hinner : (String.ofList inner).toList = inner := String.toList_ofList
  unfold rooted led
  by_cases h : "data".toList <:+: inner
  · rw [if_pos h, if_pos (by rwa [contains_iff, hinner])]
  · rw [if_neg h, if_neg (by rwa [contains_iff, hinner]), String.toList_append, String.toList_append]
    rfl

/-- The tags of a text are led on one by one. -/
theorem IsCut.rootTags_eq (h : IsCut cs p) {fuel : Nat} (hfuel : cs.length < fuel) :
    rootTags fuel cs = (p.mapInner led).text := by
  induction h generalizing fuel with
  | nil => cases fuel <;> rfl
  | @skip c cs p hplain _ ih =>
      obtain ⟨fuel, rfl⟩ := Nat.exists_eq_succ_of_ne_zero (Nat.ne_zero_of_lt hfuel)
      rw [rootTags, tag?_eq_none hplain, Cut.mapInner_after, Cut.text_after]
      simp only
      rw [ih (Nat.lt_of_succ_lt_succ hfuel)]
  | @tag inner rest p hinner _ ih =>
      obtain ⟨fuel, rfl⟩ := Nat.exists_eq_succ_of_ne_zero (Nat.ne_zero_of_lt hfuel)
      have hrest := @ih fuel (by have := length_lt_braced inner rest; omega)
      have htag : tag? ('\x7b' :: ('\x7b' :: (inner ++ ['\x7d', '\x7d']) ++ rest)) = some (inner, rest) :=
        tag?_braced hinner rest
      show rootTags (fuel + 1) ('\x7b' :: ('\x7b' :: (inner ++ ['\x7d', '\x7d']) ++ rest)) = _
      rw [rootTags, htag]
      simp only
      rw [hrest, toList_rooted]
      simp [Cut.text, Cut.mapInner, braced]

/-- A tag starts somewhere in a text exactly if it is cut at one. -/
theorem IsCut.anyTail_eq (h : IsCut cs p) : anyTail (fun cs => (tag? cs).isSome) cs = true ↔ p.tags ≠ [] := by
  induction h with
  | nil => exact iff_of_false (by simp [anyTail, tag?]) (by simp)
  | skip hplain _ ih =>
      rw [anyTail, tag?_eq_none hplain]
      simp [ih, Cut.tags_after_eq_nil]
  | @tag inner rest p hinner _ _ =>
      refine iff_of_true ?_ (List.cons_ne_nil _ _)
      show anyTail (fun cs => (tag? cs).isSome) ('\x7b' :: ('\x7b' :: (inner ++ ['\x7d', '\x7d']) ++ rest)) = true
      rw [anyTail, show tag? ('\x7b' :: ('\x7b' :: (inner ++ ['\x7d', '\x7d']) ++ rest)) = some (inner, rest) from
        tag?_braced hinner rest]
      rfl

/-- A text is cut at a tag exactly if a text on one line stands in double braces somewhere. -/
theorem IsCut.tags_ne_nil_iff (h : IsCut cs p) : p.tags ≠ [] ↔ ∃ inner, '\n' ∉ inner ∧ braced inner <:+: cs := by
  rw [← h.anyTail_eq, anyTail_iff]
  constructor
  · rintro ⟨_, ⟨front, rfl⟩, htag⟩
    obtain ⟨inner, rest, rfl, hline⟩ := isSome_tag?_iff.1 htag
    exact ⟨inner, hline, front, rest, by simp⟩
  · rintro ⟨inner, hline, front, rest, rfl⟩
    exact ⟨braced inner ++ rest, ⟨front, by simp⟩, isSome_tag?_iff.2 (startsTag_braced hline rest)⟩

/-! ### What is led on is cut at the same places -/

theorem suffix_led (inner : List Char) : (trim (String.ofList inner)).toList <:+ led inner := by
  unfold led
  simp only
  split
  · exact List.suffix_refl _
  · exact List.suffix_append _ _

theorem trim_led (inner : List Char) : (trim (String.ofList (led inner))).toList = led inner := by
  have hhead := head_trim (String.ofList inner)
  have hlast := last_trim (String.ofList inner)
  unfold led
  simp only
  split
  · rw [trim_of_ends hhead hlast, String.toList_ofList]
  · rw [trim_of_ends (fun c hc => ?_) fun c hc => ?_, String.toList_ofList]
    · cases hc
      decide
    · rw [List.getLast?_append] at hc
      rcases Option.or_eq_some_iff.1 hc with hc | ⟨-, hc⟩
      · exact hlast c hc
      · cases hc
        decide

/-- What starts with a brace and stands in a text that was led on stood in it before. -/
theorem infix_of_led {pattern : List Char} (h : '\x7b' :: pattern <:+: led inner) : '\x7b' :: pattern <:+: inner := by
  obtain ⟨front, back, htrim, -⟩ := exists_trim (String.ofList inner)
  rw [String.toList_ofList] at htrim
  have hin : (trim (String.ofList inner)).toList <:+: inner := ⟨front, back, htrim.symm⟩
  unfold led at h
  simp only at h
  split at h
  · exact h.trans hin
  · exact (infix_of_append_of_not_mem (by decide) h).trans hin

theorem infix_led (inner : List Char) : "data".toList <:+: led inner := by
  unfold led
  simp only
  split
  · rename_i h
    have hinner : (String.ofList inner).toList = inner := String.toList_ofList
    rwa [infix_trim_iff (by decide) (List.forall_iff_forall_mem.1 (by decide)), hinner]
  · exact ⟨[], ".data.".toList ++ (trim (String.ofList inner)).toList, rfl⟩

/-- What was led on stays as it is. -/
theorem led_led (inner : List Char) : led (led inner) = led inner := by
  rw [led, if_pos (infix_led inner)]
  exact trim_led inner

theorem isInner_of_not_mem (hline : '\n' ∉ inner) (hclose : '\x7d' ∉ inner) : IsInner inner := by
  refine ⟨hline, fun hin => ?_⟩
  have hlast := infix_of_append (by decide) (fun c hc hin => ?_) hin
  · exact absurd hlast (by decide)
  · obtain rfl : c = '\x7d' := by simpa using hin
    exact hclose hc

theorem isInner_led (h : IsInner inner) (hclose : '\x7d' ∉ inner) : IsInner (led inner) := by
  obtain ⟨front, back, htrim, -⟩ := exists_trim (String.ofList inner)
  rw [String.toList_ofList] at htrim
  have hsubset : (trim (String.ofList inner)).toList ⊆ inner := by
    intro c hc
    rw [htrim]
    simp [hc]
  have hno {c : Char} (hc : c ∉ inner) (hroot : c ∉ "data.data.".toList) : c ∉ led inner := by
    have htrimmed : c ∉ (trim (String.ofList inner)).toList := fun hin => hc (hsubset hin)
    unfold led
    simp only
    split
    · exact htrimmed
    · simp only [List.mem_append, not_or]
      exact ⟨hroot, htrimmed⟩
  exact isInner_of_not_mem (hno h.line (by decide)) (hno hclose (by decide))

section

variable {f : List Char → List Char}

theorem IsCut.head?_mapInner (h : IsCut cs p) : (p.mapInner f).text.head? = cs.head? := by
  cases h with
  | nil => rfl
  | skip => rw [Cut.mapInner_after, Cut.text_after]; rfl
  | tag => rfl

theorem closes_braced (h : '\n' ∉ inner) (rest : List Char) : Closes (braced inner ++ rest) :=
  ⟨'\x7b' :: '\x7b' :: inner, rest, by simp [braced], by simp [h]⟩

theorem IsCut.closes (h : IsCut cs p) (hcloses : Closes (p.mapInner f).text) : Closes cs := by
  induction h with
  | nil => exact hcloses
  | skip _ hrest ih =>
      rw [Cut.mapInner_after, Cut.text_after, closes_cons, hrest.head?_mapInner] at hcloses
      exact (closes_cons _ _).2 (hcloses.imp_right fun hlater => ⟨hlater.1, ih hlater.2⟩)
  | tag hinner _ _ => exact closes_braced hinner.line _

/-- No tag starts before other texts in tags where none starts. -/
theorem IsCut.not_startsTag (h : IsCut cs p) (hplain : ¬ StartsTag (c :: cs)) :
    ¬ StartsTag (c :: (p.mapInner f).text) := by
  rw [startsTag_cons] at hplain ⊢
  rintro ⟨rest, rfl, htext, hcloses⟩
  cases h with
  | nil => cases htext
  | @skip d cs p _ hrest =>
      rw [Cut.mapInner_after, Cut.text_after] at htext
      obtain ⟨rfl, rfl⟩ := List.cons.inj htext
      exact hplain ⟨cs, rfl, rfl, hrest.closes hcloses⟩
  | @tag inner rest p hinner _ =>
      refine hplain ⟨'\x7b' :: (inner ++ ['\x7d', '\x7d']) ++ rest, rfl, rfl, ?_⟩
      exact ⟨'\x7b' :: inner, rest, by simp, by simp [hinner.line]⟩

/-- With other texts in its tags a text is cut at the same places. -/
theorem IsCut.mapInner (h : IsCut cs p) (hf : ∀ t ∈ p.tags, IsInner (f t.2)) :
    IsCut (p.mapInner f).text (p.mapInner f) := by
  induction h with
  | nil => exact .nil
  | @skip c cs p hplain hrest ih =>
      rw [Cut.mapInner_after, Cut.text_after]
      exact .skip (hrest.not_startsTag hplain) (ih ((Cut.forall_tags_after (P := fun inner => IsInner (f inner))).1 hf))
  | @tag inner rest p hinner _ ih =>
      have hrest := ih fun t ht => hf t (List.mem_cons_of_mem _ ht)
      have htag := IsCut.tag (hf _ List.mem_cons_self) hrest
      rw [← Cut.text_tag] at htag
      exact htag

end

/-! ### The value of a rule -/

variable {value : String}

theorem toList_rootedValue (h : IsCut value.toList p) :
    (rootedValue value).toList = if p.tags = [] then led value.toList else (p.mapInner led).text := by
  unfold rootedValue
  simp only
  by_cases htags : p.tags = []
  · have hany : ¬ anyTail (fun cs => (tag? cs).isSome) value.toList = true := by
      rw [h.anyTail_eq]
      exact not_not_intro htags
    rw [if_neg hany, if_pos htags, ← toList_rooted, String.ofList_toList]
  · rw [if_pos (h.anyTail_eq.2 htags), if_neg htags, String.toList_ofList, h.rootTags_eq (Nat.lt_succ_self _)]

/-- What is cut at no tag is cut at none when it is led on as a whole. -/
theorem IsCut.tags_led (h : IsCut cs p) (htags : p.tags = []) (hq : IsCut (led cs) q) : q.tags = [] := by
  by_contra hne
  obtain ⟨inner, hline, hin⟩ := hq.tags_ne_nil_iff.1 hne
  exact h.tags_ne_nil_iff.2 ⟨inner, hline, infix_of_led hin⟩ htags

theorem Cut.braces_of_tags (h : p.tags ≠ []) : ['\x7b', '\x7b'] <:+: p.text := by
  obtain ⟨t, tags, htags⟩ := List.exists_cons_of_ne_nil h
  rw [Cut.text, htags]
  exact ⟨t.1, t.2 ++ ['\x7d', '\x7d'] ++ tags.flatMap (fun t => t.1 ++ braced t.2) ++ p.last, by simp [braced]⟩

/-- Leading a value on neither makes double braces nor takes them away. -/
theorem braces_rootedValue (h : IsCut value.toList p) :
    ['\x7b', '\x7b'] <:+: (rootedValue value).toList ↔ ['\x7b', '\x7b'] <:+: value.toList := by
  rw [toList_rootedValue h]
  split
  · refine ⟨infix_of_led, fun hin => ?_⟩
    rw [← infix_trim_iff (by decide) (List.forall_iff_forall_mem.1 (by decide))] at hin
    have hsuffix := suffix_led value.toList
    rw [String.ofList_toList] at hsuffix
    exact hin.trans hsuffix.isInfix
  · rename_i htags
    refine iff_of_true (Cut.braces_of_tags ?_) (h.text_eq ▸ Cut.braces_of_tags htags)
    simpa [Cut.mapInner] using htags

theorem formatOf_eq_of_braces {source other : String}
    (h : ['\x7b', '\x7b'] <:+: source.toList ↔ ['\x7b', '\x7b'] <:+: other.toList) (format : Option Mapping.Format) :
    Mapping.formatOf format source = Mapping.formatOf format other := by
  have htag : Formula.hasTag source = Formula.hasTag other := by
    rw [Bool.eq_iff_iff, Formula.hasTag, Formula.hasTag, contains_iff, contains_iff]
    exact h
  rw [Mapping.formatOf, Mapping.formatOf, htag]

theorem IsCut.isInner (h : IsCut cs p) : ∀ t ∈ p.tags, IsInner t.2 := by
  induction h with
  | nil => exact List.forall_mem_nil _
  | skip _ _ ih => exact (Cut.forall_tags_after (P := IsInner)).2 ih
  | tag hinner _ ih => exact List.forall_mem_cons.2 ⟨hinner, ih⟩

/-- A value with tags is cut at the same places when they are led on. -/
theorem isCut_rootedValue (h : IsCut value.toList p) (htags : p.tags ≠ []) (hclose : ∀ t ∈ p.tags, '\x7d' ∉ t.2) :
    IsCut (rootedValue value).toList (p.mapInner led) := by
  rw [toList_rootedValue h, if_neg htags]
  exact h.mapInner fun t ht => isInner_led (h.isInner t ht) (hclose t ht)

/-- A value that was led on stays as it is. -/
theorem rootedValue_rootedValue (h : IsCut value.toList p) (hclose : ∀ t ∈ p.tags, '\x7d' ∉ t.2) :
    rootedValue (rootedValue value) = rootedValue value := by
  have hvalue := toList_rootedValue h
  rw [← String.toList_inj]
  by_cases htags : p.tags = []
  · rw [if_pos htags] at hvalue
    obtain ⟨q, hq⟩ := exists_isCut (rootedValue value).toList
    rw [toList_rootedValue hq, hvalue, if_pos (h.tags_led htags (hvalue ▸ hq)), led_led]
  · have hcut := isCut_rootedValue h htags hclose
    have htags' : (p.mapInner led).tags ≠ [] := by simpa [Cut.mapInner] using htags
    have hmap : (p.mapInner led).mapInner led = p.mapInner led := by simp [Cut.mapInner, led_led]
    rw [toList_rootedValue hcut, if_neg htags', hmap, hcut.text_eq]

/-- A value that is led on is led on for good, and its format stays the same. If it has tags, each of them is led on by
itself, and what stands between them stays as it is; tags are where they were. -/
theorem rootedValue_stable (value : String) :
    ∃ p, IsCut value.toList p ∧ (∀ q, IsCut value.toList q → q = p) ∧
      ((∀ t ∈ p.tags, '\x7d' ∉ t.2) →
        rootedValue (rootedValue value) = rootedValue value ∧
        (['\x7b', '\x7b'] <:+: (rootedValue value).toList ↔ ['\x7b', '\x7b'] <:+: value.toList) ∧
        (∀ format, Mapping.formatOf format (rootedValue value) = Mapping.formatOf format value) ∧
        (p.tags ≠ [] → IsCut (rootedValue value).toList ⟨p.tags.map fun t => (t.1, led t.2), p.last⟩)) := by
  obtain ⟨p, hp⟩ := exists_isCut value.toList
  have hbraces := braces_rootedValue hp
  refine ⟨p, hp, fun q hq => hq.unique hp, fun hclose => ⟨rootedValue_rootedValue hp hclose, hbraces, ?_, ?_⟩⟩
  · exact formatOf_eq_of_braces hbraces
  · exact fun htags => isCut_rootedValue hp htags hclose

/-- Text before and behind a tag stays, and the tag is led on. -/
theorem rootedValue_stable_between :
    rootedValue (rootedValue "a\x7b\x7b b \x7d\x7dc") = rootedValue "a\x7b\x7b b \x7d\x7dc" ∧
      IsCut (rootedValue "a\x7b\x7b b \x7d\x7dc").toList ⟨[(['a'], "data.data.b".toList)], ['c']⟩ := by
  have hplain {cs : List Char} (h : (tag? cs).isSome = false) : ¬ StartsTag cs := by
    rw [← isSome_tag?_iff, h]
    exact Bool.false_ne_true
  have hlast : IsCut ['c'] ⟨[], ['c']⟩ := .skip (hplain (by decide)) .nil
  have htag : IsCut (braced [' ', 'b', ' '] ++ ['c']) ⟨[([], [' ', 'b', ' '])], ['c']⟩ :=
    .tag ⟨by decide, by decide⟩ hlast
  have hcut : IsCut "a\x7b\x7b b \x7d\x7dc".toList ⟨[(['a'], [' ', 'b', ' '])], ['c']⟩ :=
    .skip (hplain (by decide)) htag
  obtain ⟨p, -, hunique, hstable⟩ := rootedValue_stable "a\x7b\x7b b \x7d\x7dc"
  obtain rfl := hunique _ hcut
  obtain ⟨htwice, -, -, htags⟩ := hstable (by decide)
  exact ⟨htwice, htags (by decide)⟩

end Response.Collection

end Courier
