import Courier.Proofs.Url.Composed

/-! URLs in canonical form. Splitting such a URL and putting its parts together gives the URL back, character for
character: each part is cut out where its delimiters stand, and a delimiter is lost only where it has nothing on its
side, where the scheme has capital letters, or where two slashes stand without a scheme or a scheme without them. -/

namespace Courier.Url

open Courier.Text

/-- The authority of a URL, if it has one, and what stands behind it. -/
def authorityAndTail (cs : List Char) : Option (List Char) × List Char :=
  splitAuthority ((scheme? cs).elim cs (·.2))

/-- A text behind the authority in which neither the query nor the fragment is empty behind its delimiter. -/
structure IsFilled (cs : List Char) : Prop where
  fragment : ∀ cut ∈ cutFirst? '#' cs, cut.2 ≠ []
  query : ∀ cut ∈ cutFirst? '?' ((cutFirst? '#' cs).getD (cs, [])).1, cut.2 ≠ []

instance (cs : List Char) : Decidable (IsFilled cs) :=
  decidable_of_iff ((∀ cut ∈ cutFirst? '#' cs, cut.2 ≠ []) ∧
    ∀ cut ∈ cutFirst? '?' ((cutFirst? '#' cs).getD (cs, [])).1, cut.2 ≠ [])
    ⟨fun h => ⟨h.1, h.2⟩, fun h => ⟨h.fragment, h.query⟩⟩

/-- A URL in canonical form: its scheme is written in small letters and has two slashes behind it, it has no two slashes
without a scheme, and no port, user information, query or fragment is empty behind or before its delimiter. -/
structure IsCanonical (cs : List Char) : Prop where
  scheme : ∀ cut ∈ scheme? cs, cs = cut.1 ++ ':' :: cut.2 ∧ ['/', '/'] <+: cut.2
  relative : scheme? cs = none → ¬ ['/', '/'] <+: cs
  port : ∀ authority ∈ (authorityAndTail cs).1, authority.getLast? ≠ some ':'
  user : ∀ authority ∈ (authorityAndTail cs).1, ∀ cut ∈ cutLast? '@' authority, cut.1 ≠ []
  tail : IsFilled (authorityAndTail cs).2

instance (cs : List Char) : Decidable (IsCanonical cs) :=
  decidable_of_iff ((∀ cut ∈ scheme? cs, cs = cut.1 ++ ':' :: cut.2 ∧ ['/', '/'] <+: cut.2) ∧
    (scheme? cs = none → ¬ ['/', '/'] <+: cs) ∧
    (∀ authority ∈ (authorityAndTail cs).1, authority.getLast? ≠ some ':') ∧
    (∀ authority ∈ (authorityAndTail cs).1, ∀ cut ∈ cutLast? '@' authority, cut.1 ≠ []) ∧
    IsFilled (authorityAndTail cs).2)
    ⟨fun h => ⟨h.1, h.2.1, h.2.2.1, h.2.2.2.1, h.2.2.2.2⟩, fun h => ⟨h.scheme, h.relative, h.port, h.user, h.tail⟩⟩

/-! ### Behind the authority -/

theorem delimited_written {stop : Char} {cs before after : List Char}
    (h : (cutFirst? stop cs).getD (cs, []) = (before, after)) (hfilled : ∀ cut ∈ cutFirst? stop cs, cut.2 ≠ []) :
    before ++ delimited stop after = cs := by
  cases hcut : cutFirst? stop cs with
  | none =>
      rw [hcut] at h
      cases h
      simp [delimited]
  | some found =>
      rw [hcut] at h
      cases h
      have hne : after ≠ [] := hfilled _ hcut
      rw [delimited, if_neg hne, (cutFirst?_eq_some.1 hcut).1]

/-- Path, query and fragment are written as they were read. -/
theorem splitPath_written {cs : List Char} (h : IsFilled cs) :
    ((splitPath cs).path.getD "").toList ++ ((behind "?" (splitPath cs).query).toList ++
      (behind "#" (splitPath cs).fragment).toList) = cs := by
  obtain ⟨before, fragment, hfragment⟩ : ∃ before fragment, (cutFirst? '#' cs).getD (cs, []) = (before, fragment) :=
    ⟨_, _, rfl⟩
  obtain ⟨path, query, hquery⟩ : ∃ path query, (cutFirst? '?' before).getD (before, []) = (path, query) := ⟨_, _, rfl⟩
  have hfilled := h.query
  rw [hfragment] at hfilled
  have hparts : splitPath cs =
      { Address.empty with path := part? path, query := part? query, fragment := part? fragment } := by
    unfold splitPath
    rw [hfragment]
    simp only [hquery]
  calc ((splitPath cs).path.getD "").toList ++ ((behind "?" (splitPath cs).query).toList ++
        (behind "#" (splitPath cs).fragment).toList)
      = path ++ (delimited '?' query ++ delimited '#' fragment) := by
        rw [hparts, toList_getD_part?, toList_behind (show "?".toList = ['?'] from rfl),
          toList_behind (show "#".toList = ['#'] from rfl), toList_getD_part?, toList_getD_part?]
    _ = before ++ delimited '#' fragment := by
        rw [← List.append_assoc, delimited_written hquery hfilled]
    _ = cs := delimited_written hfragment h.fragment

/-! ### The whole URL -/

/-- A text without two slashes at its start has no authority. -/
theorem splitAuthority_of_not_prefix {cs : List Char} (h : ¬ ['/', '/'] <+: cs) : splitAuthority cs = (none, cs) := by
  unfold splitAuthority
  split
  · exact absurd ⟨_, rfl⟩ h
  · rfl

/-- A URL without a scheme is its path, its query and its fragment. -/
theorem toUrl_written_of_relative {cs : List Char} (hcs : IsCanonical cs) (hscheme : scheme? cs = none) {a : Address}
    (h : split? cs = some a) : a.toUrl.toList = cs := by
  have hauthority : splitAuthority cs = (none, cs) := splitAuthority_of_not_prefix (hcs.relative hscheme)
  have htail : IsFilled cs := by
    have hfilled := hcs.tail
    simpa only [authorityAndTail, hscheme, Option.elim_none, hauthority] using hfilled
  unfold split? at h
  simp only [hscheme, Option.elim_none, hauthority, Option.map_none, Option.bind_eq_bind, Option.bind_some] at h
  cases h
  have hwritten := splitPath_written htail
  simpa [Address.toUrl, Address.empty, behind] using hwritten

/-- A URL with a scheme is its scheme, its authority and the parts behind it. -/
theorem toUrl_written_of_absolute {cs scheme rest : List Char} (hcs : IsCanonical cs)
    (hscheme : scheme? cs = some (scheme, rest)) {a : Address} (h : split? cs = some a) : a.toUrl.toList = cs := by
  obtain ⟨htext, more, rfl⟩ := hcs.scheme _ hscheme
  obtain ⟨authority, tail, hcut⟩ : ∃ authority tail, cutAt ['/', '?', '#'] more = (authority, tail) := ⟨_, _, rfl⟩
  have hsplit : splitAuthority ('/' :: '/' :: more) = (some authority, tail) := by rw [splitAuthority, hcut]
  have hparts : authorityAndTail cs = (some authority, tail) := by
    rw [authorityAndTail, hscheme]
    exact hsplit
  have hport : authority.getLast? ≠ some ':' := hcs.port authority (by rw [hparts]; rfl)
  have huser : ∀ host, cutLast? '@' authority ≠ some ([], host) := by
    intro host hcut
    exact hcs.user authority (by rw [hparts]; rfl) _ hcut rfl
  have hfilled : IsFilled tail := by simpa only [hparts] using hcs.tail
  have hletter : scheme ≠ [] := by
    obtain ⟨before, -, rfl, hletter, -⟩ := scheme?_spec hscheme
    rintro hnil
    rw [List.map_eq_nil_iff.1 hnil] at hletter
    cases hletter
  unfold split? at h
  simp only [hscheme, Option.elim_some, List.cons_append, List.nil_append, hsplit] at h
  obtain ⟨address, haddress, h⟩ := Option.bind_eq_some_iff.1 h
  cases h
  calc _ = scheme ++ ':' :: '/' :: '/' :: (address.authority.toList ++ (((splitPath tail).path.getD "").toList ++
          ((behind "?" (splitPath tail).query).toList ++ (behind "#" (splitPath tail).fragment).toList))) := by
        rw [Address.toUrl_eq]
        simp [hletter, Address.authority]
    _ = scheme ++ ':' :: '/' :: '/' :: (authority ++ tail) := by
        rw [authority_written haddress hport huser, splitPath_written hfilled]
    _ = cs := by
        rw [← (cutAt_spec hcut).1, htext]
        rfl

end Courier.Url
