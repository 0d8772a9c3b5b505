import Courier.Proofs.Url.Composed

/-! URLs that start with a literal origin. Scheme, host and port up to the slash behind them are the same in a URL and
in the one with a new query, whatever stands behind the slash: no sign behind it can become part of an authority. -/

namespace Courier.Url

open Courier.Text

/-- Small letters. -/
def isSmallLetter (c : Char) : Bool := 'a' ≤ c && c ≤ 'z'

/-- A scheme in small letters, the name of a host, and perhaps a port, of signs that are no delimiters. -/
structure Origin where
  scheme : List Char
  host : List Char
  port : Option (List Char)
  letter : scheme.head?.any isSmallLetter
  schemes : ∀ c ∈ scheme, isSmallLetter c || isAsciiDigit c || c == '-' || c == '.'
  hosts : ∀ c ∈ host, isAsciiLetter c || isAsciiDigit c || c == '-' || c == '.'
  ports : ∀ p ∈ port, p ≠ [] ∧ ∀ c ∈ p, isAsciiDigit c

namespace Origin

/-- Host and port, as they are written. -/
def authority (o : Origin) : List Char := o.host ++ o.port.elim [] (':' :: ·)

/-- The start of a URL, up to the slash behind host and port. -/
def text (o : Origin) : List Char := o.scheme ++ ':' :: '/' :: '/' :: (o.authority ++ ['/'])

/-- The signs of origins behind their scheme. -/
def isSign (c : Char) : Bool := isAsciiLetter c || isAsciiDigit c || c == '-' || c == '.'

variable (o : Origin)

theorem isSign_of_small {c : Char} (h : isSmallLetter c || isAsciiDigit c || c == '-' || c == '.') : isSign c := by
  simp only [isSmallLetter, isSign, isAsciiLetter, Bool.or_eq_true, Bool.and_eq_true] at h ⊢
  tauto

theorem ne_of_isSign {c d : Char} (h : isSign c) (hd : isSign d = false) : c ≠ d := by
  rintro rfl
  rw [h] at hd
  cases hd

theorem isSchemeChar_of_isSign {c : Char} (h : isSign c) : isSchemeChar c := by
  simp only [isSign, isSchemeChar, Bool.or_eq_true] at h ⊢
  tauto

theorem mem_authority {c : Char} (h : c ∈ o.authority) : isSign c ∨ c = ':' := by
  rcases List.mem_append.1 h with hc | hc
  · exact Or.inl (o.hosts c hc)
  · cases hport : o.port with
    | none =>
        rw [hport] at hc
        cases hc
    | some p =>
        rw [hport] at hc
        rcases List.mem_cons.1 hc with rfl | hc
        · exact Or.inr rfl
        · have hdigit := (o.ports p hport).2 c hc
          simp [isSign, hdigit]

theorem not_mem_authority {d : Char} (hd : isSign d = false) (hcolon : d ≠ ':') : d ∉ o.authority := fun hin =>
  (o.mem_authority hin).elim (fun hsign => ne_of_isSign hsign hd rfl) hcolon

/-- Small letters stay as they are. -/
theorem map_toLower : o.scheme.map Char.toLower = o.scheme := by
  refine (List.map_congr_left fun c hc => ?_).trans (List.map_id _)
  have hsmall := o.schemes c hc
  have hascii : c.toNat < 128 := toNat_lt_of_isSchemeChar (isSchemeChar_of_isSign (isSign_of_small hsmall))
  exact of_forall_ascii (P := fun c => (isSmallLetter c || isAsciiDigit c || c == '-' || c == '.') → c.toLower = c)
    (by decide) hascii hsmall

/-! ### Splitting -/

theorem text_append (rest : List Char) :
    o.text ++ rest = o.scheme ++ ':' :: ('/' :: '/' :: (o.authority ++ '/' :: rest)) := by
  simp [text]

theorem scheme?_text (rest : List Char) :
    scheme? (o.text ++ rest) = some (o.scheme, '/' :: '/' :: (o.authority ++ '/' :: rest)) := by
  have hletter : o.scheme.head?.any isAsciiLetter := by
    have h := o.letter
    cases hhead : o.scheme.head? with
    | none =>
        rw [hhead] at h
        cases h
    | some c =>
        rw [hhead, Option.any_some] at h
        simp only [Option.any_some, isAsciiLetter, Bool.or_eq_true]
        exact Or.inl h
  rw [text_append, scheme?_append hletter fun c hc => isSchemeChar_of_isSign (isSign_of_small (o.schemes c hc)),
    map_toLower]

theorem cutAt_authority (rest : List Char) :
    cutAt ['/', '?', '#'] (o.authority ++ '/' :: rest) = (o.authority, '/' :: rest) := by
  refine cutAt_append (fun c hc => ?_) (fun c hc => ?_)
  · simp only [List.mem_cons, List.not_mem_nil, or_false, not_or]
    refine ⟨?_, ?_, ?_⟩
    · exact fun heq => o.not_mem_authority (d := '/') rfl (by decide) (heq ▸ hc)
    · exact fun heq => o.not_mem_authority (d := '?') rfl (by decide) (heq ▸ hc)
    · exact fun heq => o.not_mem_authority (d := '#') rfl (by decide) (heq ▸ hc)
  · cases hc
    decide

theorem getLast?_authority : o.authority.getLast? ≠ some ':' := by
  intro hlast
  unfold authority at hlast
  cases hport : o.port with
  | none =>
      rw [hport, Option.elim_none, List.append_nil] at hlast
      exact ne_of_isSign (o.hosts ':' (List.mem_of_getLast? hlast)) rfl rfl
  | some p =>
      obtain ⟨hne, hdigits⟩ := o.ports p hport
      rw [hport, Option.elim_some, List.getLast?_append_of_ne_nil _ (List.cons_ne_nil _ _), List.getLast?_cons,
        List.getLast?_eq_some_getLast hne, Option.getD_some] at hlast
      have hin := hdigits _ (List.getLast_mem hne)
      rw [Option.some.inj hlast] at hin
      exact absurd hin (by decide)

theorem isRegular (rest : List Char) : IsRegular (o.text ++ rest) := by
  refine ⟨o.scheme, _, o.scheme?_text rest, ?_, fun host hcut => ?_⟩
  · rw [o.cutAt_authority]
    exact o.getLast?_authority
  · rw [o.cutAt_authority, cutLast?_eq_none.2 (o.not_mem_authority rfl (by decide))] at hcut
    cases hcut

theorem cutPort_authority : cutPort o.authority = (o.host, o.port.getD []) := by
  have hbracket : ¬(o.authority.getLast? == some ']') = true := fun hlast =>
    o.not_mem_authority (d := ']') rfl (by decide) (List.mem_of_getLast? (eq_of_beq hlast))
  have hhost : ':' ∉ o.host := fun hin => ne_of_isSign (o.hosts ':' hin) rfl rfl
  rw [cutPort, if_neg hbracket, authority]
  cases hport : o.port with
  | none =>
      rw [Option.elim_none, List.append_nil, cutLast?_eq_none.2 hhost]
      rfl
  | some p =>
      have hdigits : ':' ∉ p := fun hin => absurd ((o.ports p hport).2 ':' hin) (by decide)
      rw [Option.elim_some, cutLast?_eq_some.2 ⟨rfl, hdigits⟩]
      rfl

/-- An origin has a host and a port and no user, if it is one at all. -/
theorem authority?_eq {a : Address} (h : authority? o.authority = some a) :
    a = { Address.empty with host := some (String.ofList o.host), port := o.port.map String.ofList } := by
  unfold authority? at h
  rw [cutLast?_eq_none.2 (o.not_mem_authority rfl (by decide))] at h
  obtain ⟨⟨host, port⟩, hhost, h⟩ := Option.bind_eq_some_iff.1 h
  unfold hostAndPort? at hhost
  simp only [Option.elim_none, o.cutPort_authority] at hhost
  split at hhost
  · cases hhost
  · cases hhost
    cases h
    have hport : part? (o.port.getD []) = o.port.map String.ofList := by
      cases hport : o.port with
      | none => rfl
      | some p =>
          rw [Option.getD_some, part?_eq, if_neg (o.ports p hport).1]
          rfl
    rw [← hport]
    rfl

/-! ### What stands behind the origin -/

theorem getD_cutFirst?_cons {stop c : Char} (h : c ≠ stop) (cs : List Char) :
    ∃ before after, (cutFirst? stop (c :: cs)).getD (c :: cs, []) = (c :: before, after) := by
  cases hcut : cutFirst? stop (c :: cs) with
  | none => exact ⟨cs, [], rfl⟩
  | some found =>
      obtain ⟨before, after⟩ := found
      obtain ⟨hcs, -⟩ := cutFirst?_eq_some.1 hcut
      cases before with
      | nil => exact absurd (List.cons.inj hcs).1 h
      | cons d before =>
          obtain rfl := (List.cons.inj hcs).1
          exact ⟨before, after, rfl⟩

theorem splitPath_slash (rest : List Char) : ∃ more, (splitPath ('/' :: rest)).path = part? ('/' :: more) := by
  obtain ⟨front, fragment, hfront⟩ := getD_cutFirst?_cons (show '/' ≠ '#' by decide) rest
  obtain ⟨path, query, hpath⟩ := getD_cutFirst?_cons (show '/' ≠ '?' by decide) front
  refine ⟨path, ?_⟩
  unfold splitPath
  rw [hfront]
  simp only [hpath]

/-- The layout of a URL that starts with an origin has its scheme and authority, and a slash behind them. -/
theorem layout_eq {l : Layout} {rest : List Char} (h : l.IsOf (o.text ++ rest)) :
    l.scheme = o.scheme ∧ l.authority = o.authority ∧ ∃ more, l.path = '/' :: more := by
  obtain ⟨tail, hscheme, hauthority, hpath⟩ := h.splits
  rw [o.scheme?_text rest, Option.some.injEq, Prod.mk.injEq] at hscheme
  obtain ⟨hscheme, hbehind⟩ := hscheme
  rw [← hbehind, splitAuthority, o.cutAt_authority, Prod.mk.injEq, Option.some.injEq] at hauthority
  obtain ⟨hauthority, rfl⟩ := hauthority
  obtain ⟨more, hmore⟩ := splitPath_slash rest
  rw [hpath] at hmore
  refine ⟨hscheme.symm, hauthority.symm, more, ?_⟩
  have hparts : ((part? l.path).getD "").toList = ((part? ('/' :: more)).getD "").toList := by rw [← hmore]
  rwa [toList_getD_part?, toList_getD_part?] at hparts

/-- A URL that starts with an origin keeps it when its query is replaced, and is split into the parts of that origin. -/
theorem split_withQuery {url : String} {parts : Address} (h : split url = .ok parts) (hurl : o.text <+: url.toList)
    {query : String} (hquery : ∀ c ∈ query.toList, isQueryChar c) :
    o.text <+: ({ parts with query := some query } : Address).toUrl.toList ∧
      ∃ found, split ({ parts with query := some query } : Address).toUrl = .ok found ∧
        found.scheme = some (String.ofList o.scheme) ∧ found.user = none ∧ found.password = none ∧
        found.host = some (String.ofList o.host) ∧ found.port = o.port.map String.ofList := by
  obtain ⟨rest, hrest⟩ := hurl
  have hsplit := (exists_split? h).2.2
  rw [← hrest] at hsplit
  obtain ⟨l, hl, -, -⟩ := Layout.exists_isOf (o.scheme?_text rest)
  obtain ⟨hscheme, hauthority, more, hpath⟩ := o.layout_eq hl
  have hregular := o.isRegular rest
  refine ⟨?_, { parts with query := part? query.toList }, Url.split_withQuery h (hrest ▸ hregular) hquery, ?_⟩
  · have huser : cutLast? '@' o.authority = none := cutLast?_eq_none.2 (o.not_mem_authority rfl (by decide))
    rw [hl.toUrl_withQuery hsplit (hauthority ▸ o.getLast?_authority)
      (fun host => by rw [hauthority, huser]; exact nofun)]
    simp [Layout.text, hscheme, hauthority, hpath, text]
  · rw [hl.split?, hauthority] at hsplit
    obtain ⟨address, haddress, rfl⟩ := Option.map_eq_some_iff.1 hsplit
    rw [o.authority?_eq haddress, hscheme]
    exact ⟨rfl, rfl, rfl, rfl, rfl⟩

end Origin

end Courier.Url
