import Courier.Proofs.Language.Tokens
import Mathlib.Data.List.DropRight

/-! Templates that consist of texts and tags of a single name, as the language of templates reads them. Written out,
such a template is a fragment: texts with a hole after each of them but the last, and what is put out in a hole is a
text in quotes or the look-up of a name. A fragment whose texts open no tag is read piece by piece. -/

namespace Courier.Template

open Courier.Language Courier.Text

/-- What is put out between two texts: the braces in front of a tag, in quotes, or what is looked up under a name. -/
inductive Hole
  | quoted (content : List Char)
  | lookup (name : List Char)
  deriving DecidableEq

namespace Hole

/-- The characters between the quotes. -/
def content : Hole → List Char
  | quoted cs => cs
  | lookup name => name

def written : Hole → List Char
  | quoted cs => outputOf (asciiJsonString (String.ofList cs)).toList
  | lookup name => lookupOf name

def tokens : Hole → List Token
  | quoted cs => [.variableBegin, .string (String.ofList cs), .variableEnd]
  | lookup name =>
      [.variableBegin, .name lookupName, .operator "(", .string (String.ofList name), .operator ")", .variableEnd]

end Hole

/-- Texts with a hole after each of them, and the text behind the last hole. -/
structure Fragment where
  holes : List (List Char × Hole)
  last : List Char

namespace Fragment

def written (f : Fragment) : List Char := f.holes.flatMap (fun (content, o) => content ++ o.written) ++ f.last

def tokens (f : Fragment) : List Token :=
  f.holes.flatMap (fun (content, o) => Token.ofText content ++ o.tokens) ++ Token.ofText f.last

/-- A text with a hole behind it opens no tag and does not end in a brace, and no text between quotes has a character
beyond U+FFFF. -/
structure Readable (f : Fragment) : Prop where
  texts : ∀ p ∈ f.holes, Token.IsPlain p.1 ∧ p.1.getLast? ≠ some '\x7b'
  quotes : ∀ p ∈ f.holes, ∀ c ∈ p.2.content, codePoint c < 0x10000
  last : Token.IsPlain f.last

/-- A fragment behind a text and a tag. The braces at the end of the text are put out in a hole of their own. -/
def before (content name : List Char) (f : Fragment) : Fragment :=
  let plain := dropTrailingList (· == '\x7b') content
  if plain.length < content.length then
    { f with holes := (plain, .quoted (content.drop plain.length)) :: ([], .lookup name) :: f.holes }
  else { f with holes := (content, .lookup name) :: f.holes }

/-- The fragment of the pieces of a template. -/
def ofSegments : List Segment → Fragment
  | .text content :: .tag name :: rest => before content name (ofSegments rest)
  | .text content :: _ => ⟨[], content⟩
  | _ => ⟨[], []⟩

end Fragment

/-! ### The pieces of a template -/

/-- Texts with a tag between one text and the next. -/
inductive Alternates : List Segment → Prop
  | last (content : List Char) : Alternates [.text content]
  | before (content name : List Char) {rest : List Segment} (h : Alternates rest) :
      Alternates (.text content :: .tag name :: rest)

theorem Tag.at?_of_ne {c : Char} (h : c ≠ '\x7b') (cs : List Char) : Tag.at? (c :: cs) = none := by
  have hafter (rest : List Char) : Tag.after? ('\x7b' :: rest) (c :: cs) = none := by
    unfold Tag.after?
    rw [if_neg]
    simp [Ne.symm h]
  simp [Tag.at?, Tag.triple?, Tag.double?, hafter]

/-- No tag begins in a text without braces. -/
theorem cutFrom_append {plain : List Char} (h : '\x7b' ∉ plain) (fuel : Nat) (before rest : List Char) :
    cutFrom (plain.length + fuel) before (plain ++ rest) = cutFrom fuel (plain.reverse ++ before) rest := by
  induction plain generalizing before with
  | nil => simp
  | cons c plain ih =>
      have hplain : '\x7b' ∉ plain := fun hin => h (List.mem_cons_of_mem _ hin)
      have hc : c ≠ '\x7b' := fun heq => h (heq ▸ List.mem_cons_self)
      rw [List.length_cons, Nat.add_right_comm, List.cons_append, cutFrom, Tag.at?_of_ne hc]
      simp only
      rw [ih hplain]
      simp

theorem cut_of_not_mem {cs : List Char} (h : '\x7b' ∉ cs) : cut cs = [.text cs] := by
  have hcut := cutFrom_append h 1 [] []
  simp only [List.append_nil] at hcut
  rw [cut, hcut, cutFrom, List.reverse_reverse]

theorem alternates_cutFrom (fuel : Nat) (before cs : List Char) : Alternates (cutFrom fuel before cs) := by
  induction fuel generalizing before cs with
  | zero => exact .last _
  | succ fuel ih =>
      cases cs with
      | nil => exact .last _
      | cons c cs =>
          simp only [cutFrom]
          split
          · exact .before _ _ (ih _ _)
          · exact ih _ _

theorem alternates_cut (source : List Char) : Alternates (cut source) := alternates_cutFrom _ _ _

/-- The texts of the pieces, without the braces in front of a tag. -/
def bareTexts : List Segment → List (List Char)
  | .text content :: .tag _ :: rest => dropTrailingList (· == '\x7b') content :: bareTexts rest
  | .text content :: rest => content :: bareTexts rest
  | .tag _ :: rest => bareTexts rest
  | [] => []

/-- The names of the tags among the pieces. -/
def tagNames : List Segment → List (List Char)
  | .tag name :: rest => name :: tagNames rest
  | .text _ :: rest => tagNames rest
  | [] => []

/-! ### The characters of the pieces -/

theorem Tag.suffix_of_after? {expected cs rest : List Char} (h : Tag.after? expected cs = some rest) : rest <:+ cs := by
  unfold Tag.after? at h
  split at h
  · cases h
    exact List.drop_suffix _ _
  · cases h

theorem Tag.suffix_of_nameBefore? {closing cs name rest : List Char}
    (h : Tag.nameBefore? closing cs = some (name, rest)) : rest <:+ cs := by
  unfold Tag.nameBefore? at h
  simp only at h
  split at h
  · cases h
  · obtain ⟨tail, htail, heq⟩ := Option.map_eq_some_iff.1 h
    cases heq
    exact (suffix_of_after? htail).trans ((List.dropWhile_suffix _).trans
      ((List.dropWhile_suffix _).trans (List.dropWhile_suffix _)))

theorem Tag.skipAmpersand_suffix (cs : List Char) : Tag.skipAmpersand cs <:+ cs := by
  unfold Tag.skipAmpersand
  split
  · rename_i rest hrest
    exact (List.suffix_cons '&' rest).trans (hrest ▸ List.dropWhile_suffix _)
  · exact List.suffix_rfl

theorem Tag.suffix_of_at? {cs name rest : List Char} (h : Tag.at? cs = some (name, rest)) : rest <:+ cs := by
  unfold Tag.at? at h
  cases htriple : Tag.triple? cs with
  | some p =>
      rw [htriple] at h
      cases h
      obtain ⟨inner, hinner, hname⟩ := Option.bind_eq_some_iff.1 htriple
      exact (suffix_of_nameBefore? hname).trans (suffix_of_after? hinner)
  | none =>
    rw [htriple] at h
    obtain ⟨inner, hinner, h⟩ := Option.bind_eq_some_iff.1 h
    obtain ⟨⟨found, tail⟩, hname, h⟩ := Option.bind_eq_some_iff.1 h
    simp only at h
    split at h
    · cases h
    · cases h
      exact (suffix_of_nameBefore? hname).trans ((skipAmpersand_suffix inner).trans (suffix_of_after? hinner))

/-- The texts of the pieces are made of characters of the template. -/
theorem mem_of_mem_cutFrom {fuel : Nat} {before cs content : List Char}
    (h : .text content ∈ cutFrom fuel before cs) : ∀ c ∈ content, c ∈ before ∨ c ∈ cs := by
  induction fuel generalizing before cs with
  | zero =>
      simp only [cutFrom, List.mem_singleton, Segment.text.injEq] at h
      subst h
      simp
  | succ fuel ih =>
      cases cs with
      | nil =>
          simp only [cutFrom, List.mem_singleton, Segment.text.injEq] at h
          subst h
          simp
      | cons d cs =>
          simp only [cutFrom] at h
          split at h
          · rename_i name rest hat
            simp only [List.mem_cons, Segment.text.injEq, reduceCtorEq, false_or] at h
            rcases h with rfl | h
            · exact fun c hc => Or.inl (List.mem_reverse.1 hc)
            · intro c hc
              exact Or.inr ((Tag.suffix_of_at? hat).subset ((ih h c hc).resolve_left List.not_mem_nil))
          · intro c hc
            rcases ih h c hc with hc | hc
            · rcases List.mem_cons.1 hc with rfl | hc
              · exact Or.inr List.mem_cons_self
              · exact Or.inl hc
            · exact Or.inr (List.mem_cons_of_mem _ hc)

/-! ### A text in front of a tag -/

theorem drop_dropTrailingList (p : Char → Bool) (cs : List Char) :
    cs.drop (dropTrailingList p cs).length = cs.rtakeWhile p := by
  have happend : dropTrailingList p cs ++ cs.rtakeWhile p = cs := List.rdropWhile_append_rtakeWhile
  calc cs.drop (dropTrailingList p cs).length
      = (dropTrailingList p cs ++ cs.rtakeWhile p).drop (dropTrailingList p cs).length := by rw [happend]
    _ = cs.rtakeWhile p := List.drop_left

theorem dropTrailingList_eq_self {p : Char → Bool} {cs : List Char}
    (h : ¬ (dropTrailingList p cs).length < cs.length) : dropTrailingList p cs = cs :=
  (List.rdropWhile_prefix p cs).eq_of_length_le (Nat.le_of_not_lt h)

theorem getLast?_dropTrailingList (d : Char) (cs : List Char) : (dropTrailingList (· == d) cs).getLast? ≠ some d := by
  intro h
  have hne : dropTrailingList (· == d) cs ≠ [] := by
    intro hnil
    simp [hnil] at h
  rw [List.getLast?_eq_some_getLast hne, Option.some.injEq] at h
  exact List.rdropWhile_last_not (· == d) cs hne (beq_iff_eq.2 h)

/-- The braces in front of a tag are one code unit each. -/
theorem codePoint_of_mem_drop {content : List Char} :
    ∀ c ∈ content.drop (dropTrailingList (· == '\x7b') content).length, codePoint c < 0x10000 := by
  intro c hc
  rw [drop_dropTrailingList] at hc
  obtain rfl : c = '\x7b' := by simpa using List.mem_rtakeWhile_imp hc
  decide

namespace Fragment

theorem written_before (content name : List Char) (f : Fragment) :
    (before content name f).written = guarded content ++ lookupOf name ++ f.written := by
  simp only [before, guarded]
  split
  · simp [written, Hole.written]
  · simp [written, Hole.written]

/-- The fragment of the pieces is what they are written out as. -/
theorem written_ofSegments {segments : List Segment} (h : Alternates segments) :
    (ofSegments segments).written = writeOut segments := by
  induction h with
  | last content => simp [ofSegments, written, writeOut]
  | before content name _ ih => rw [ofSegments, written_before, ih, writeOut]

theorem readable_before {content name : List Char} {f : Fragment} (h : f.Readable)
    (hplain : Token.IsPlain (dropTrailingList (· == '\x7b') content)) (hname : ∀ c ∈ name, codePoint c < 0x10000) :
    (before content name f).Readable := by
  have hend := getLast?_dropTrailingList '\x7b' content
  simp only [before]
  split
  · refine ⟨?_, ?_, h.last⟩
    · intro p hp
      simp only [List.mem_cons] at hp
      rcases hp with rfl | rfl | hp
      · exact ⟨hplain, hend⟩
      · exact ⟨fun _ _ hin => by simp at hin, by simp⟩
      · exact h.texts p hp
    · intro p hp
      simp only [List.mem_cons] at hp
      rcases hp with rfl | rfl | hp
      · exact codePoint_of_mem_drop
      · exact hname
      · exact h.quotes p hp
  · rename_i hlength
    rw [dropTrailingList_eq_self hlength] at hplain hend
    refine ⟨?_, ?_, h.last⟩
    · intro p hp
      rcases List.mem_cons.1 hp with rfl | hp
      · exact ⟨hplain, hend⟩
      · exact h.texts p hp
    · intro p hp
      rcases List.mem_cons.1 hp with rfl | hp
      · exact hname
      · exact h.quotes p hp

theorem readable_ofSegments {segments : List Segment} (h : Alternates segments)
    (hplain : ∀ content ∈ bareTexts segments, Token.IsPlain content)
    (hnames : ∀ name ∈ tagNames segments, ∀ c ∈ name, codePoint c < 0x10000) : (ofSegments segments).Readable := by
  induction h with
  | last content =>
      exact ⟨fun _ hp => absurd hp List.not_mem_nil, fun _ hp => absurd hp List.not_mem_nil,
        hplain content (by simp [bareTexts])⟩
  | before content name _ ih =>
      simp only [bareTexts, tagNames, List.mem_cons, forall_eq_or_imp] at hplain hnames
      exact readable_before (ih hplain.2 hnames.2) hplain.1 hnames.1

end Fragment

/-! ### Line ends -/

theorem unifyLines_of_not_mem {cs : List Char} (h : '\r' ∉ cs) : unifyLines cs = cs := by
  induction cs with
  | nil => rfl
  | cons c cs ih =>
      rw [unifyLines.eq_def]
      split <;> simp_all

/-- No return is left where line ends are unified. -/
theorem return_not_mem_unifyLines (cs : List Char) : '\r' ∉ unifyLines cs := by
  induction cs using unifyLines.induct with
  | case1 rest ih => simp [unifyLines, ih]
  | case2 rest hrest ih =>
      rw [unifyLines.eq_2 rest hrest]
      simp [ih]
  | case3 c rest hpair hreturn ih =>
      rw [unifyLines.eq_3 c rest hpair hreturn]
      simp only [List.mem_cons, not_or]
      exact ⟨fun heq => hreturn heq.symm, ih⟩
  | case4 => exact List.not_mem_nil

/-- The only characters that come in are line feeds. -/
theorem mem_of_mem_unifyLines {c : Char} {cs : List Char} (h : c ∈ unifyLines cs) : c ∈ cs ∨ c = '\n' := by
  induction cs using unifyLines.induct with
  | case1 rest ih =>
      rw [unifyLines] at h
      rcases List.mem_cons.1 h with rfl | h
      · exact Or.inr rfl
      · exact (ih h).imp_left fun hin => List.mem_cons_of_mem _ (List.mem_cons_of_mem _ hin)
  | case2 rest hrest ih =>
      rw [unifyLines.eq_2 rest hrest] at h
      rcases List.mem_cons.1 h with rfl | h
      · exact Or.inr rfl
      · exact (ih h).imp_left (List.mem_cons_of_mem _)
  | case3 d rest hpair hreturn ih =>
      rw [unifyLines.eq_3 d rest hpair hreturn] at h
      rcases List.mem_cons.1 h with rfl | h
      · exact Or.inl List.mem_cons_self
      · exact (ih h).imp_left (List.mem_cons_of_mem _)
  | case4 => exact Or.inl h

theorem unifyLines_eq_self_iff {cs : List Char} : unifyLines cs = cs ↔ '\r' ∉ cs :=
  ⟨fun h => h ▸ return_not_mem_unifyLines cs, unifyLines_of_not_mem⟩

/-- Line ends are unified piece by piece, if no line feed starts the second one. -/
theorem unifyLines_append_of_head (front : List Char) {back : List Char} (h : ∀ c ∈ back.head?, c ≠ '\n') :
    unifyLines (front ++ back) = unifyLines front ++ unifyLines back := by
  induction front using unifyLines.induct with
  | case1 rest ih => simp [unifyLines, ih]
  | case2 rest hrest ih =>
      have hboth (tail : List Char) : rest ++ back ≠ '\n' :: tail := by
        intro heq
        cases rest with
        | nil => exact h '\n' (by rw [List.nil_append] at heq; rw [heq]; rfl) rfl
        | cons d rest =>
            obtain ⟨rfl, rfl⟩ := List.cons.inj heq
            exact hrest rest rfl
      rw [List.cons_append, unifyLines.eq_2 _ hboth, unifyLines.eq_2 rest hrest, ih, List.cons_append]
  | case3 c rest hpair hreturn ih =>
      rw [List.cons_append, unifyLines.eq_3 c _ (fun tail hc _ => hreturn hc) hreturn,
        unifyLines.eq_3 c rest hpair hreturn, ih, List.cons_append]
  | case4 => rfl

theorem return_not_mem_hole {o : Hole} (h : ∀ c ∈ o.content, codePoint c < 0x10000) : '\r' ∉ o.written := by
  have hbody : '\r' ∉ asciiJsonBody o.content := fun hr => (asciiJsonBody_ascii h _ hr).1 rfl
  cases o with
  | quoted cs =>
      have hcs : '\r' ∉ asciiJsonBody cs := hbody
      simp [Hole.written, outputOf, toList_asciiJsonString, hcs]
  | lookup name =>
      have hname : '\r' ∉ asciiJsonBody name := hbody
      simp [Hole.written, lookupOf, outputOf, toList_asciiJsonString, lookupName, hname]

theorem return_not_mem_guarded {content : List Char} (h : '\r' ∉ content) : '\r' ∉ guarded content := by
  have hkept : '\r' ∉ dropTrailingList (· == '\x7b') content :=
    fun hr => h ((List.rdropWhile_prefix (· == '\x7b') content).subset hr)
  have hbraces := return_not_mem_hole
    (o := .quoted (content.drop (dropTrailingList (· == '\x7b') content).length)) codePoint_of_mem_drop
  simp only [guarded]
  split
  · exact fun hr => (List.mem_append.1 hr).elim hkept hbraces
  · exact h

/-- A template without returns is written out without returns. -/
theorem return_not_mem_writeOut {segments : List Segment} (h : Alternates segments)
    (htexts : ∀ content, .text content ∈ segments → '\r' ∉ content)
    (hnames : ∀ name ∈ tagNames segments, ∀ c ∈ name, codePoint c < 0x10000) : '\r' ∉ writeOut segments := by
  induction h with
  | last content => simpa [writeOut] using htexts content List.mem_cons_self
  | before content name _ ih =>
      have hname := return_not_mem_hole (o := .lookup name) (hnames name (by simp [tagNames]))
      have hrest := ih (fun c hc => htexts c (by simp [hc])) fun n hn => hnames n (by simp [tagNames, hn])
      simp only [writeOut, List.mem_append, not_or]
      exact ⟨⟨return_not_mem_guarded (htexts content List.mem_cons_self), hname⟩, hrest⟩

/-! ### The tokens of a fragment -/

theorem Hole.written_quoted_append (cs rest : List Char) :
    (Hole.quoted cs).written ++ rest =
      '\x7b' :: '\x7b' :: ' ' :: '"' :: (asciiJsonBody cs ++ '"' :: ' ' :: '\x7d' :: '\x7d' :: rest) := by
  simp [Hole.written, outputOf, toList_asciiJsonString]

theorem Hole.written_lookup_append (name rest : List Char) :
    (Hole.lookup name).written ++ rest =
      '\x7b' :: '\x7b' :: ' ' :: '_' :: ("_rb_path__".toList ++ '(' :: '"' ::
        (asciiJsonBody name ++ '"' :: ')' :: ' ' :: '\x7d' :: '\x7d' :: rest)) := by
  simp [Hole.written, lookupOf, outputOf, toList_asciiJsonString, lookupName]

/-- A hole is read behind the text in front of it. -/
theorem Hole.reads (o : Hole) (h : ∀ c ∈ o.content, codePoint c < 0x10000) {content : List Char}
    (hplain : Token.IsPlain content) (hend : content.getLast? ≠ some '\x7b') (rest : List Char) :
    Token.Reads .outside (content ++ (o.written ++ rest)) (Token.ofText content ++ o.tokens) .outside rest := by
  cases o with
  | quoted cs =>
      rw [Hole.written_quoted_append]
      exact Token.Reads.output hplain hend (by decide) (Token.Reads.string h _ _)
  | lookup name =>
      rw [Hole.written_lookup_append]
      have hname : String.ofList ('_' :: "_rb_path__".toList) = lookupName := by decide
      have hparenthesis : ∀ x ∈ ('(' :: '"' :: (asciiJsonBody name ++
          '"' :: ')' :: ' ' :: '\x7d' :: '\x7d' :: rest)).head?, isWordChar x = false := by
        intro x hx
        cases hx
        decide
      have hword : Token.Reads _ ('_' :: ("_rb_path__".toList ++ '(' :: _)) _ _ _ :=
        Token.Reads.word (List.all_eq_true.1 (by decide)) (by decide) (by decide) (by decide) (by decide)
          hparenthesis []
      have hstring := Token.Reads.string h (')' :: ' ' :: '\x7d' :: '\x7d' :: rest) [")"]
      rw [hname] at hword
      have hinner := hword.trans ((Token.Reads.opening _ _).trans (hstring.trans (Token.Reads.closing _ _)))
      exact Token.Reads.output hplain hend (by decide) hinner

namespace Fragment

/-- A fragment is read up to its last text. -/
theorem reads {f : Fragment} (h : f.Readable) :
    Token.Reads .outside f.written (f.holes.flatMap fun (content, o) => Token.ofText content ++ o.tokens) .outside
      f.last := by
  obtain ⟨holes, last⟩ := f
  induction holes with
  | nil => exact fun fuel spot hrest hfuel => ⟨fuel, spot, hrest, hfuel, rfl⟩
  | cons p holes ih =>
      obtain ⟨hplain, hend⟩ := h.texts p List.mem_cons_self
      have hfirst := p.2.reads (h.quotes p List.mem_cons_self) hplain hend (written ⟨holes, last⟩)
      have hrest := ih ⟨fun q hq => h.texts q (List.mem_cons_of_mem _ hq),
        fun q hq => h.quotes q (List.mem_cons_of_mem _ hq), h.last⟩
      have hwritten : written ⟨p :: holes, last⟩ = p.1 ++ (p.2.written ++ written ⟨holes, last⟩) := by
        simp [written]
      rw [hwritten]
      exact hfirst.trans hrest

theorem map_readFrom {f : Fragment} (h : f.Readable) {fuel : Nat} {spot : Token.Spot} (hrest : spot.rest = f.written)
    (hfuel : f.written.length < fuel) :
    (Token.readFrom fuel .outside spot).map (·.token) = f.tokens ++ [.ending] := by
  obtain ⟨fuel', spot', hrest', hfuel', heq⟩ := reads h fuel spot hrest hfuel
  rw [heq, Token.map_readFrom_plain h.last hrest' hfuel', tokens, List.append_assoc]

end Fragment

end Courier.Template
