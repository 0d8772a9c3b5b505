import Courier.Proofs.Text.Encoding
import Courier.Proofs.Results
import Courier.Url.Address

/-! URLs that are put together and split again. A URL with a scheme and an authority is laid out in five stretches that
no delimiter of a later stretch stands in, so that splitting finds them where they were written; a new query moves no
other part. -/

namespace Courier.Url

open Courier.Text

/-! ### Cutting at characters -/

theorem cutFirst?_eq_some {stop : Char} {cs before after : List Char} :
    cutFirst? stop cs = some (before, after) ↔ cs = before ++ stop :: after ∧ stop ∉ before := by
  unfold cutFirst?
  constructor
  · intro h
    by_cases hin : stop ∈ cs
    · rw [if_pos (by simpa using hin), Option.some.injEq, Prod.mk.injEq] at h
      obtain ⟨rfl, rfl⟩ := h
      have hne : cs.dropWhile (· != stop) ≠ [] := by
        intro hnil
        exact absurd (List.dropWhile_eq_nil_iff.1 hnil stop hin) (by simp)
      have hhead : (cs.dropWhile (· != stop)).head hne = stop := by
        simpa using List.head_dropWhile_not (· != stop) hne
      refine ⟨?_, fun hmem => by simpa using List.mem_takeWhile_imp hmem⟩
      conv_lhs => rw [← List.takeWhile_append_dropWhile (p := (· != stop)) (l := cs)]
      rw [← List.cons_head_tail hne, hhead, List.tail_cons]
    · rw [if_neg (by simpa using hin)] at h
      cases h
  · rintro ⟨rfl, hbefore⟩
    have hall : ∀ c ∈ before, (c != stop) = true := fun c hc => bne_iff_ne.2 fun heq => hbefore (heq ▸ hc)
    rw [if_pos (by simp), List.takeWhile_append_of_pos hall, List.dropWhile_append_of_pos hall]
    simp

theorem cutFirst?_eq_none {stop : Char} {cs : List Char} : cutFirst? stop cs = none ↔ stop ∉ cs := by
  unfold cutFirst?
  by_cases hin : stop ∈ cs
  · rw [if_pos (by simpa using hin)]
    simp [hin]
  · rw [if_neg (by simpa using hin)]
    simp [hin]

theorem cutLast?_eq_some {stop : Char} {cs before after : List Char} :
    cutLast? stop cs = some (before, after) ↔ cs = before ++ stop :: after ∧ stop ∉ after := by
  unfold cutLast?
  constructor
  · intro h
    obtain ⟨⟨left, right⟩, hcut, h⟩ := Option.map_eq_some_iff.1 h
    cases h
    obtain ⟨hcs, hnot⟩ := cutFirst?_eq_some.1 hcut
    refine ⟨?_, by simpa using hnot⟩
    rw [← List.reverse_reverse cs, hcs]
    simp
  · rintro ⟨rfl, hafter⟩
    have hcut : cutFirst? stop (before ++ stop :: after).reverse = some (after.reverse, before.reverse) :=
      cutFirst?_eq_some.2 ⟨by simp, by simpa using hafter⟩
    rw [hcut]
    simp

theorem cutLast?_eq_none {stop : Char} {cs : List Char} : cutLast? stop cs = none ↔ stop ∉ cs := by
  rw [cutLast?, Option.map_eq_none_iff, cutFirst?_eq_none, List.mem_reverse]

theorem cutAt_append {stops before rest : List Char} (hbefore : ∀ c ∈ before, c ∉ stops)
    (hrest : ∀ c ∈ rest.head?, c ∈ stops) : cutAt stops (before ++ rest) = (before, rest) := by
  have hall : ∀ c ∈ before, (!stops.contains c) = true := fun c hc => by simpa using hbefore c hc
  unfold cutAt
  rw [List.takeWhile_append_of_pos hall, List.dropWhile_append_of_pos hall]
  cases rest with
  | nil => simp
  | cons c rest =>
      have hc : c ∈ stops := hrest c rfl
      simp [hc]

theorem cutAt_spec {stops cs before rest : List Char} (h : cutAt stops cs = (before, rest)) :
    cs = before ++ rest ∧ (∀ c ∈ before, c ∉ stops) ∧ ∀ c ∈ rest.head?, c ∈ stops := by
  cases h
  refine ⟨List.takeWhile_append_dropWhile.symm, fun c hc => by simpa using List.mem_takeWhile_imp hc, fun c hc => ?_⟩
  have hfirst := List.head?_dropWhile_not (fun c => !stops.contains c) cs
  rw [Option.mem_def.1 hc] at hfirst
  simpa using hfirst

/-! ### Layouts -/

/-- The five stretches of a URL with an authority. -/
structure Layout where
  scheme : List Char
  authority : List Char
  path : List Char
  query : List Char
  fragment : List Char

/-- A stretch behind its delimiter, unless it is empty. -/
def delimited (delimiter : Char) (cs : List Char) : List Char := if cs = [] then [] else delimiter :: cs

namespace Layout

/-- The characters of a URL. -/
def text (l : Layout) : List Char :=
  l.scheme ++ ':' :: '/' :: '/' :: (l.authority ++ (l.path ++ (delimited '?' l.query ++ delimited '#' l.fragment)))

/-- No stretch holds a delimiter that starts a later one. -/
structure IsSound (l : Layout) : Prop where
  letter : l.scheme.head?.any isAsciiLetter
  scheme : ∀ c ∈ l.scheme, isSchemeChar c
  lower : l.scheme.map Char.toLower = l.scheme
  authority : ∀ c ∈ l.authority, c ∉ ['/', '?', '#']
  path : '?' ∉ l.path ∧ '#' ∉ l.path
  slash : ∀ c ∈ l.path.head?, c = '/'
  query : '#' ∉ l.query

end Layout

theorem not_mem_scheme {cs : List Char} (h : ∀ c ∈ cs, isSchemeChar c) : ':' ∉ cs :=
  fun hin => absurd (h ':' hin) (by decide)

theorem scheme?_append {scheme : List Char} (hletter : scheme.head?.any isAsciiLetter)
    (hscheme : ∀ c ∈ scheme, isSchemeChar c) (rest : List Char) :
    scheme? (scheme ++ ':' :: rest) = some (scheme.map Char.toLower, rest) := by
  have hcut : cutFirst? ':' (scheme ++ ':' :: rest) = some (scheme, rest) :=
    cutFirst?_eq_some.2 ⟨rfl, not_mem_scheme hscheme⟩
  unfold scheme?
  rw [hcut]
  simp only [Option.bind_eq_bind, Option.bind_some]
  rw [if_pos (by simpa [hletter] using hscheme)]

theorem toNat_lt_of_isSchemeChar {c : Char} (h : isSchemeChar c) : c.toNat < 128 := by
  simp only [isSchemeChar, Bool.or_eq_true, beq_iff_eq] at h
  rcases h with (((h | h) | rfl) | rfl) | rfl
  · exact toNat_lt_of_isAsciiLetter h
  · exact toNat_lt_of_isAsciiDigit h
  · decide
  · decide
  · decide

/-- Characters of schemes stay such characters in small letters. -/
theorem isSchemeChar_toLower {c : Char} (h : isSchemeChar c) :
    isSchemeChar c.toLower ∧ (isAsciiLetter c → isAsciiLetter c.toLower) ∧ c.toLower.toLower = c.toLower := by
  exact of_forall_ascii (P := fun c => isSchemeChar c → isSchemeChar c.toLower ∧
    (isAsciiLetter c → isAsciiLetter c.toLower) ∧ c.toLower.toLower = c.toLower) (by decide)
    (toNat_lt_of_isSchemeChar h) h

theorem part?_eq (cs : List Char) : part? cs = if cs = [] then none else some (String.ofList cs) := by
  unfold part?
  cases cs <;> rfl

theorem getD_cutFirst?_delimited {stop : Char} {before : List Char} (h : stop ∉ before) (after : List Char) :
    (cutFirst? stop (before ++ delimited stop after)).getD (before ++ delimited stop after, []) = (before, after) := by
  unfold delimited
  split
  · rename_i hnil
    rw [hnil, List.append_nil, cutFirst?_eq_none.2 h]
    rfl
  · rw [cutFirst?_eq_some.2 ⟨rfl, h⟩]
    rfl

/-- What stands behind the authority is split where it was put together. -/
theorem splitPath_append {path query fragment : List Char} (hpath : '?' ∉ path ∧ '#' ∉ path) (hquery : '#' ∉ query) :
    splitPath (path ++ (delimited '?' query ++ delimited '#' fragment)) =
      { Address.empty with path := part? path, query := part? query, fragment := part? fragment } := by
  have hbefore : '#' ∉ path ++ delimited '?' query := by
    unfold delimited
    split
    · simpa using hpath.2
    · simp [hpath.2, hquery]
  unfold splitPath
  rw [← List.append_assoc, getD_cutFirst?_delimited hbefore]
  simp only
  rw [getD_cutFirst?_delimited hpath.1]

theorem head?_path {path : List Char} (h : ∀ c ∈ path.head?, c = '/') (query fragment : List Char) :
    ∀ c ∈ (path ++ (delimited '?' query ++ delimited '#' fragment)).head?, c ∈ ['/', '?', '#'] := by
  intro c hc
  cases path with
  | cons d rest =>
      cases hc
      rw [h _ rfl]
      decide
  | nil =>
      by_cases hquery : query = []
      · by_cases hfragment : fragment = []
        · rw [hquery, hfragment] at hc
          cases hc
        · rw [hquery] at hc
          simp only [delimited, if_pos, if_neg hfragment] at hc
          cases hc
          decide
      · simp only [delimited, if_neg hquery] at hc
        cases hc
        decide

/-- Where a text is cut at the first of a sign, the sign does not stand in front of it. -/
theorem getD_cutFirst?_spec {stop : Char} {cs before after : List Char}
    (h : (cutFirst? stop cs).getD (cs, []) = (before, after)) :
    stop ∉ before ∧ (∀ c ∈ after, c ∈ cs) ∧ before <+: cs := by
  cases hcut : cutFirst? stop cs with
  | none =>
      rw [hcut] at h
      cases h
      exact ⟨cutFirst?_eq_none.1 hcut, fun c hc => absurd hc List.not_mem_nil, List.prefix_refl _⟩
  | some found =>
      rw [hcut] at h
      cases h
      obtain ⟨rfl, hbefore⟩ := cutFirst?_eq_some.1 hcut
      exact ⟨hbefore, fun c hc => List.mem_append_right _ (List.mem_cons_of_mem _ hc), List.prefix_append _ _⟩

theorem scheme?_spec {cs scheme rest : List Char} (h : scheme? cs = some (scheme, rest)) :
    ∃ before, cs = before ++ ':' :: rest ∧ scheme = before.map Char.toLower ∧ before.head?.any isAsciiLetter ∧
      ∀ c ∈ before, isSchemeChar c := by
  unfold scheme? at h
  cases hcut : cutFirst? ':' cs with
  | none =>
      rw [hcut] at h
      cases h
  | some found =>
      obtain ⟨before, after⟩ := found
      rw [hcut] at h
      simp only [Option.bind_eq_bind, Option.bind_some] at h
      split at h
      · rename_i hscheme
        cases h
        simp only [Bool.and_eq_true, List.all_eq_true] at hscheme
        exact ⟨before, (cutFirst?_eq_some.1 hcut).1, rfl, hscheme.1, hscheme.2⟩
      · cases h

namespace Layout

/-- A URL that is split into these stretches. -/
structure IsOf (l : Layout) (cs : List Char) : Prop where
  sound : l.IsSound
  splits : ∃ tail, scheme? cs = some (l.scheme, '/' :: '/' :: (l.authority ++ tail)) ∧
    splitAuthority ('/' :: '/' :: (l.authority ++ tail)) = (some l.authority, tail) ∧
    splitPath tail = { Address.empty with path := part? l.path, query := part? l.query, fragment := part? l.fragment }
  mem : ∀ c, c ∈ l.authority ∨ c ∈ l.path ∨ c ∈ l.fragment → c ∈ cs

/-- A layout is read from its characters. -/
theorem isOf_text {l : Layout} (h : l.IsSound) : l.IsOf l.text where
  sound := h
  splits := by
    refine ⟨l.path ++ (delimited '?' l.query ++ delimited '#' l.fragment), ?_, ?_, splitPath_append h.path h.query⟩
    · rw [text, scheme?_append h.letter h.scheme, h.lower]
    · rw [splitAuthority, cutAt_append h.authority (head?_path h.slash _ _)]
  mem := by
    intro c hc
    have hfragment : c ∈ l.fragment → c ∈ delimited '#' l.fragment := by
      intro hin
      rw [delimited, if_neg (List.ne_nil_of_mem hin)]
      exact List.mem_cons_of_mem _ hin
    simp only [text, List.mem_append, List.mem_cons]
    tauto

/-- Every URL with two slashes behind its scheme is laid out. -/
theorem exists_isOf {cs scheme rest : List Char} (h : scheme? cs = some (scheme, '/' :: '/' :: rest)) :
    ∃ l : Layout, l.IsOf cs ∧ l.scheme = scheme ∧ l.authority = (cutAt ['/', '?', '#'] rest).1 := by
  obtain ⟨before, rfl, rfl, hletter, hscheme⟩ := scheme?_spec h
  obtain ⟨authority, tail, hcut⟩ : ∃ authority tail, cutAt ['/', '?', '#'] rest = (authority, tail) := ⟨_, _, rfl⟩
  obtain ⟨rfl, hauthority, htail⟩ := cutAt_spec hcut
  obtain ⟨front, fragment, hfragment⟩ : ∃ front fragment, (cutFirst? '#' tail).getD (tail, []) = (front, fragment) :=
    ⟨_, _, rfl⟩
  obtain ⟨path, query, hpath⟩ : ∃ path query, (cutFirst? '?' front).getD (front, []) = (path, query) := ⟨_, _, rfl⟩
  obtain ⟨hfront, hfragments, hfrontPrefix⟩ := getD_cutFirst?_spec hfragment
  obtain ⟨hmark, hqueries, hpathPrefix⟩ := getD_cutFirst?_spec hpath
  have hpathTail : path <+: tail := hpathPrefix.trans hfrontPrefix
  have hslash : ∀ c ∈ path.head?, c = '/' := by
    intro c hc
    obtain ⟨more, rfl⟩ := hpathTail
    cases path with
    | nil => cases hc
    | cons d path =>
        cases hc
        have hin := htail c rfl
        simp only [List.mem_cons, List.not_mem_nil, or_false] at hin
        rcases hin with hin | rfl | rfl
        · exact hin
        · exact absurd List.mem_cons_self hmark
        · exact absurd (hpathPrefix.subset List.mem_cons_self) hfront
  refine ⟨⟨before.map Char.toLower, authority, path, query, fragment⟩, ⟨?_, ?_, ?_⟩, rfl, by rw [hcut]⟩
  · refine ⟨?_, ?_, ?_, hauthority, ⟨hmark, fun hin => hfront (hpathPrefix.subset hin)⟩, hslash,
      fun hin => hfront (hqueries _ hin)⟩
    · cases before with
      | nil => cases hletter
      | cons c before => exact (isSchemeChar_toLower (hscheme c List.mem_cons_self)).2.1 hletter
    · intro c hc
      obtain ⟨d, hd, rfl⟩ := List.mem_map.1 hc
      exact (isSchemeChar_toLower (hscheme d hd)).1
    · rw [List.map_map]
      exact List.map_congr_left fun c hc => (isSchemeChar_toLower (hscheme c hc)).2.2
  · refine ⟨tail, h, ?_, ?_⟩
    · rw [splitAuthority, cutAt_append hauthority htail]
    · unfold splitPath
      rw [hfragment]
      simp only [hpath]
  · intro c hc
    have htails : c ∈ path ∨ c ∈ fragment → c ∈ tail := Or.rec (fun hin => hpathTail.subset hin) (hfragments c)
    simp only [List.mem_append, List.mem_cons]
    tauto

/-- A URL that is laid out is split into its stretches, and its authority into the parts of the authority. -/
theorem IsOf.split? {l : Layout} {cs : List Char} (h : l.IsOf cs) :
    split? cs = (authority? l.authority).map fun address =>
      { address with
        scheme := some (String.ofList l.scheme)
        path := part? l.path, query := part? l.query, fragment := part? l.fragment } := by
  obtain ⟨tail, hscheme, hauthority, hpath⟩ := h.splits
  unfold Url.split?
  rw [hscheme]
  simp only [Option.elim_some, hauthority, hpath, Option.map_some]
  cases authority? l.authority <;> rfl

/-- Whether a port is too long depends on the authority alone. -/
theorem IsOf.longPort? {l k : Layout} {cs ds : List Char} (hcs : l.IsOf cs) (hds : k.IsOf ds)
    (h : l.authority = k.authority) : longPort? cs = longPort? ds := by
  obtain ⟨tail, hscheme, hauthority, -⟩ := hcs.splits
  obtain ⟨other, hotherScheme, hother, -⟩ := hds.splits
  unfold Url.longPort?
  rw [hscheme, hotherScheme]
  simp only [Option.elim_some, hauthority, hother]
  rw [h]

end Layout

end Courier.Url
