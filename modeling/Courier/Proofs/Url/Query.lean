import Courier.Proofs.Document.Entries
import Courier.Proofs.Url.Refusal

/-! The query and the fragment of a URL, wherever it comes from. They are cut out at the first signs of their kinds, so
that a text in front of these signs says nothing about them, and a text behind a URL is added to one of the two: to the
fragment, if there is a number sign, and otherwise to the query, if there is a question mark. -/

namespace Courier.Url

open Courier.Text

/-- The query of a URL: what stands behind the first question mark, and in front of the fragment. -/
def queryOf (url : String) : String := (splitPath url.toList).query.getD ""

/-- The fragment of a URL: what stands behind the first number sign. -/
def fragmentOf (url : String) : String := (splitPath url.toList).fragment.getD ""

/-! ### Texts in front -/

theorem getD_cutFirst?_append {stop : Char} {front : List Char} (h : stop ∉ front) (cs : List Char) :
    (cutFirst? stop (front ++ cs)).getD (front ++ cs, []) =
      (front ++ ((cutFirst? stop cs).getD (cs, [])).1, ((cutFirst? stop cs).getD (cs, [])).2) := by
  cases hcut : cutFirst? stop cs with
  | none =>
      have hnone : cutFirst? stop (front ++ cs) = none := by
        rw [cutFirst?_eq_none, List.mem_append, not_or]
        exact ⟨h, cutFirst?_eq_none.1 hcut⟩
      rw [hnone]
      rfl
  | some found =>
      obtain ⟨before, after⟩ := found
      obtain ⟨rfl, hbefore⟩ := cutFirst?_eq_some.1 hcut
      have hsome : cutFirst? stop (front ++ (before ++ stop :: after)) = some (front ++ before, after) := by
        rw [cutFirst?_eq_some, List.mem_append, not_or]
        exact ⟨(List.append_assoc _ _ _).symm, h, hbefore⟩
      rw [hsome]
      rfl

/-- A text without the signs of queries and fragments has no part in them. -/
theorem splitPath_front {front : List Char} (hquery : '?' ∉ front) (hfragment : '#' ∉ front) (cs : List Char) :
    (splitPath (front ++ cs)).query = (splitPath cs).query ∧
      (splitPath (front ++ cs)).fragment = (splitPath cs).fragment := by
  obtain ⟨before, fragment, hbefore⟩ : ∃ before fragment, (cutFirst? '#' cs).getD (cs, []) = (before, fragment) :=
    ⟨_, _, rfl⟩
  unfold splitPath
  rw [getD_cutFirst?_append hfragment, hbefore]
  simp only [getD_cutFirst?_append hquery, and_self]

/-- What stands in front of the path has neither of the signs. -/
theorem exists_front (cs : List Char) : ∃ front, '?' ∉ front ∧ '#' ∉ front ∧
    cs = front ++ (splitAuthority ((scheme? cs).elim cs (·.2))).2 := by
  have hauthority (rest : List Char) : ∃ front, '?' ∉ front ∧ '#' ∉ front ∧ rest = front ++ (splitAuthority rest).2 := by
    obtain ⟨authority, tail, hsplit⟩ : ∃ authority tail, splitAuthority rest = (authority, tail) := ⟨_, _, rfl⟩
    rw [hsplit]
    cases authority with
    | none =>
        refine ⟨[], List.not_mem_nil, List.not_mem_nil, ?_⟩
        unfold splitAuthority at hsplit
        split at hsplit
        · cases hsplit
        · exact (Prod.mk.inj hsplit).2
    | some authority =>
        obtain ⟨rfl, hstops, -⟩ := splitAuthority_eq_some.1 hsplit
        have hnot {c : Char} (hc : c ∈ ['/', '?', '#']) : c ∉ authority := fun hin => hstops c hin hc
        refine ⟨'/' :: '/' :: authority, ?_, ?_, rfl⟩
        · simpa using hnot (by decide)
        · simpa using hnot (by decide)
  cases hscheme : scheme? cs with
  | none => exact hauthority cs
  | some found =>
      obtain ⟨scheme, rest⟩ := found
      obtain ⟨before, hcs, -, -, hchars⟩ := scheme?_spec hscheme
      obtain ⟨front, hquery, hfragment, hrest⟩ := hauthority rest
      have hnot {c : Char} (hc : isSchemeChar c = false) : c ∉ before := fun hin => by
        rw [hchars c hin] at hc
        cases hc
      refine ⟨before ++ ':' :: front, ?_, ?_, ?_⟩
      · simpa [hquery] using hnot rfl
      · simpa [hfragment] using hnot rfl
      · rw [hcs, List.append_assoc, List.cons_append, Option.elim_some, ← hrest]

/-- What the parts of a URL are put together of: the parts of its authority, if it has one, between its scheme and the
parts behind. -/
theorem exists_of_split? {cs : List Char} {parts : Address} (h : split? cs = some parts) :
    ∃ authority rest address, splitAuthority ((scheme? cs).elim cs (·.2)) = (authority, rest) ∧
      authority.elim (some Address.empty) authority? = some address ∧
      parts = { address with
        scheme := (scheme? cs).map fun found => String.ofList found.1
        path := (splitPath rest).path, query := (splitPath rest).query, fragment := (splitPath rest).fragment } := by
  obtain ⟨authority, rest, hauthority⟩ :
      ∃ authority rest, splitAuthority ((scheme? cs).elim cs (·.2)) = (authority, rest) := ⟨_, _, rfl⟩
  unfold split? at h
  simp only [hauthority, Option.bind_eq_bind] at h
  cases authority with
  | none =>
      cases h
      exact ⟨none, rest, Address.empty, hauthority, rfl, rfl⟩
  | some found =>
      obtain ⟨address, haddress, h⟩ := Option.bind_eq_some_iff.1 h
      cases h
      exact ⟨some found, rest, address, hauthority, haddress, rfl⟩

/-- Query and fragment of the parts of a URL are those of the URL. -/
theorem queryOf_of_split {url : String} {parts : Address} (h : split url = .ok parts) :
    queryOf url = parts.query.getD "" ∧ fragmentOf url = parts.fragment.getD "" := by
  obtain ⟨-, -, hsplit⟩ := exists_split? h
  obtain ⟨authority, rest, address, hauthority, -, rfl⟩ := exists_of_split? hsplit
  obtain ⟨front, hquery, hfragment, hcs⟩ := exists_front url.toList
  rw [hauthority] at hcs
  have hparts := splitPath_front hquery hfragment rest
  unfold queryOf fragmentOf
  rw [hcs, hparts.1, hparts.2]
  exact ⟨rfl, rfl⟩

/-! ### Parts in front of the query -/

theorem mem_of_cutPort {cs host port : List Char} (h : cutPort cs = (host, port)) {c : Char}
    (hc : c ∈ host ∨ c ∈ port) : c ∈ cs := by
  unfold cutPort at h
  cases hcut : (if cs.getLast? == some ']' then none else cutLast? ':' cs) with
  | none =>
      rw [hcut] at h
      cases h
      simpa using hc
  | some found =>
      rw [hcut] at h
      cases h
      split at hcut
      · cases hcut
      · rw [(cutLast?_eq_some.1 hcut).1]
        exact List.mem_append.2 (hc.imp id (List.mem_cons_of_mem _))

theorem mem_delimited {delimiter c : Char} {cs : List Char} (h : c ∈ delimited delimiter cs) : c = delimiter ∨ c ∈ cs := by
  unfold delimited at h
  split at h
  · cases h
  · exact List.mem_cons.1 h

theorem mem_of_hostAndPort? {cs host port : List Char} (h : hostAndPort? cs = some (host, port)) {c : Char}
    (hc : c ∈ host ∨ c ∈ delimited ':' port) : c ∈ cs ∨ c = ':' := by
  obtain ⟨before, after, hcut⟩ : ∃ before after, cutPort cs = (before, after) := ⟨_, _, rfl⟩
  unfold hostAndPort? at h
  simp only [hcut] at h
  split at h
  · cases h
  cases h
  rcases hc with hc | hc
  · exact Or.inl (mem_of_cutPort hcut (Or.inl hc))
  · exact (mem_delimited hc).symm.imp (fun hin => mem_of_cutPort hcut (Or.inr hin)) id

/-- The authority of some parts has no characters but those of the authority that they were read from. -/
theorem mem_of_mem_authority {cs : List Char} {a : Address} (h : authority? cs = some a) {c : Char}
    (hc : c ∈ a.authority.toList) : c ∈ cs ∨ c = ':' ∨ c = '@' := by
  have hcolon : ":".toList = [':'] := rfl
  unfold authority? at h
  cases hlogin : cutLast? '@' cs with
  | none =>
      rw [hlogin] at h
      obtain ⟨⟨host, port⟩, hhost, h⟩ := Option.bind_eq_some_iff.1 h
      cases h
      have hin : c ∈ host ∨ c ∈ delimited ':' port := by
        simpa [Address.authority, toList_behind hcolon, toList_getD_part?] using hc
      exact (mem_of_hostAndPort? hhost hin).imp id Or.inl
  | some found =>
      obtain ⟨login, hosts⟩ := found
      obtain ⟨rfl, -⟩ := cutLast?_eq_some.1 hlogin
      rw [hlogin] at h
      obtain ⟨⟨host, port⟩, hhost, h⟩ := Option.bind_eq_some_iff.1 h
      simp only [List.mem_append, List.mem_cons]
      have hbehind (hin : c ∈ host ∨ c ∈ delimited ':' port) :
          (c ∈ login ∨ c = '@' ∨ c ∈ hosts) ∨ c = ':' ∨ c = '@' :=
        (mem_of_hostAndPort? hhost hin).imp (fun hin => Or.inr (Or.inr hin)) Or.inl
      cases hnamed : cutFirst? ':' login with
      | none =>
          simp only [Option.map_some, Option.bind_eq_bind, Option.bind_some, hnamed] at h
          cases h
          have hin : (login ≠ [] ∧ (c ∈ login ∨ c = '@')) ∨ c ∈ host ∨ c ∈ delimited ':' port := by
            simpa [Address.authority, toList_behind hcolon, toList_getD_part?, apply_ite String.toList] using hc
          rcases hin with ⟨-, hin | hin⟩ | hin
          · exact Or.inl (Or.inl hin)
          · exact Or.inr (Or.inr hin)
          · exact hbehind hin
      | some named =>
          obtain ⟨user, password⟩ := named
          obtain ⟨rfl, -⟩ := cutFirst?_eq_some.1 hnamed
          simp only [Option.map_some, Option.bind_eq_bind, Option.bind_some, hnamed] at h
          cases h
          have hin : c ∈ user ∨ c = ':' ∨ c ∈ password ∨ c = '@' ∨ c ∈ host ∨ c ∈ delimited ':' port := by
            simpa [Address.authority, toList_behind hcolon, toList_getD_part?] using hc
          rcases hin with hin | hin | hin | hin | hin
          · exact Or.inl (Or.inl (List.mem_append_left _ hin))
          · exact Or.inr (Or.inl hin)
          · exact Or.inl (Or.inl (List.mem_append_right _ (List.mem_cons_of_mem _ hin)))
          · exact Or.inr (Or.inr hin)
          · exact hbehind hin

/-- Neither of the signs stands in a part in front of the query. -/
theorem not_mem_front {cs : List Char} {parts : Address} (h : split? cs = some parts) {c : Char}
    (hc : c ∈ ['?', '#']) :
    c ∉ (parts.scheme.getD "").toList ∧ c ∉ parts.authority.toList ∧ c ∉ (parts.path.getD "").toList := by
  obtain ⟨authority, rest, address, hauthority, haddress, rfl⟩ := exists_of_split? h
  have hsigns : c ∈ ['/', '?', '#'] ∧ isSchemeChar c = false ∧ c ≠ ':' ∧ c ≠ '@' := by
    simp only [List.mem_cons, List.not_mem_nil, or_false] at hc
    rcases hc with rfl | rfl <;> decide
  obtain ⟨hstop, hscheme, hcolon, hat⟩ := hsigns
  refine ⟨fun hin => ?_, fun hin => ?_, fun hin => ?_⟩
  · cases hfound : scheme? cs with
    | none =>
        rw [hfound] at hin
        cases hin
    | some found =>
        obtain ⟨scheme, more⟩ := found
        obtain ⟨before, -, rfl, -, hchars⟩ := scheme?_spec hfound
        rw [hfound, Option.map_some, Option.getD_some, String.toList_ofList] at hin
        obtain ⟨d, hd, rfl⟩ := List.mem_map.1 hin
        rw [(isSchemeChar_toLower (hchars d hd)).1] at hscheme
        cases hscheme
  · cases authority with
    | none =>
        cases haddress
        cases hin
    | some found =>
        rcases mem_of_mem_authority haddress hin with hin | heq | heq
        · exact (splitAuthority_eq_some.1 hauthority).2.1 c hin hstop
        · exact hcolon heq
        · exact hat heq
  · obtain ⟨before, fragment, hbefore⟩ :
        ∃ before fragment, (cutFirst? '#' rest).getD (rest, []) = (before, fragment) := ⟨_, _, rfl⟩
    obtain ⟨path, query, hpath⟩ : ∃ path query, (cutFirst? '?' before).getD (before, []) = (path, query) := ⟨_, _, rfl⟩
    have hparts : (splitPath rest).path = part? path := by
      unfold splitPath
      rw [hbefore]
      simp only [hpath]
    rw [hparts, toList_getD_part?] at hin
    obtain ⟨hquery, -, hfront⟩ := getD_cutFirst?_spec hpath
    have hfragment : '#' ∉ path := fun hmem => (getD_cutFirst?_spec hbefore).1 (hfront.subset hmem)
    simp only [List.mem_cons, List.not_mem_nil, or_false] at hc
    rcases hc with rfl | rfl
    · exact hquery hin
    · exact hfragment hin

/-- With another query, the parts of a URL make a URL with that query and the fragment as it was. -/
theorem queryOf_toUrl {url : String} {parts : Address} (h : split url = .ok parts) {query : String}
    (hquery : '#' ∉ query.toList) :
    queryOf ({ parts with query := some query } : Address).toUrl = query ∧
      fragmentOf ({ parts with query := some query } : Address).toUrl = fragmentOf url := by
  have hfront {c : Char} (hc : c ∈ ['?', '#']) := not_mem_front (exists_split? h).2.2 hc
  obtain ⟨front, hurl, hmarks⟩ : ∃ front, ({ parts with query := some query } : Address).toUrl.toList =
      front ++ (delimited '?' query.toList ++ delimited '#' (parts.fragment.getD "").toList) ∧
        ∀ c ∈ ['?', '#'], c ∉ front := by
    refine ⟨(if (parts.scheme.getD "").isEmpty then "" else parts.scheme.getD "" ++ "://").toList ++
      (parts.authority.toList ++ (parts.path.getD "").toList), ?_, fun c hc hin => ?_⟩
    · rw [Address.toUrl_eq]
      simp only [String.toList_append, toList_behind (show "?".toList = ['?'] from rfl),
        toList_behind (show "#".toList = ['#'] from rfl), Option.getD_some, List.append_assoc]
      rfl
    · obtain ⟨hscheme, hauthority, hpath⟩ := hfront hc
      simp only [List.mem_append] at hin
      rcases hin with hin | hin | hin
      · split at hin
        · cases hin
        · rw [String.toList_append, List.mem_append] at hin
          have hslashes : c ∉ "://".toList := by
            simp only [List.mem_cons, List.not_mem_nil, or_false] at hc
            rcases hc with rfl | rfl <;> decide
          exact hin.elim hscheme hslashes
      · exact hauthority hin
      · exact hpath hin
  rw [(queryOf_of_split h).2, queryOf, fragmentOf, hurl,
    splitPath_append ⟨hmarks '?' (by decide), hmarks '#' (by decide)⟩ hquery]
  exact ⟨String.toList_injective (toList_getD_part? _), String.toList_injective (toList_getD_part? _)⟩

/-! ### Texts behind a URL -/

theorem fragmentOf_of_not_mem {url : String} (h : '#' ∉ url.toList) : fragmentOf url = "" := by
  unfold fragmentOf splitPath
  rw [cutFirst?_eq_none.2 h]
  rfl

/-- What stands behind a URL with a number sign is added to its fragment. -/
theorem queryOf_append_of_mem {url : String} (h : '#' ∈ url.toList) (more : String) :
    queryOf (url ++ more) = queryOf url ∧ fragmentOf (url ++ more) = fragmentOf url ++ more := by
  cases hcut : cutFirst? '#' url.toList with
  | none => exact absurd h (cutFirst?_eq_none.1 hcut)
  | some found =>
      obtain ⟨before, after⟩ := found
      obtain ⟨hurl, hbefore⟩ := cutFirst?_eq_some.1 hcut
      have hmore : cutFirst? '#' (url ++ more).toList = some (before, after ++ more.toList) := by
        rw [String.toList_append, hurl, cutFirst?_eq_some]
        exact ⟨by simp, hbefore⟩
      unfold queryOf fragmentOf splitPath
      rw [hcut, hmore]
      refine ⟨rfl, String.toList_injective ?_⟩
      simp only [Option.getD_some, String.toList_append, toList_getD_part?]

/-- What stands behind the query of a URL is added to it. -/
theorem queryOf_append {url more : String} (hurl : '#' ∉ url.toList) (hmore : '#' ∉ more.toList)
    (hquery : '?' ∈ url.toList) : queryOf (url ++ more) = queryOf url ++ more := by
  cases hcut : cutFirst? '?' url.toList with
  | none => exact absurd hquery (cutFirst?_eq_none.1 hcut)
  | some found =>
      obtain ⟨before, after⟩ := found
      obtain ⟨htext, hbefore⟩ := cutFirst?_eq_some.1 hcut
      have hboth : '#' ∉ (url ++ more).toList := by simp [hurl, hmore]
      have hbehind : cutFirst? '?' (url ++ more).toList = some (before, after ++ more.toList) := by
        rw [String.toList_append, htext, cutFirst?_eq_some]
        exact ⟨by simp, hbefore⟩
      unfold queryOf splitPath
      rw [cutFirst?_eq_none.2 hurl, cutFirst?_eq_none.2 hboth]
      simp only [Option.getD_none, hcut, hbehind, Option.getD_some]
      refine String.toList_injective ?_
      simp only [String.toList_append, toList_getD_part?]

/-- Behind a URL without a query a question mark starts one. -/
theorem queryOf_question {url more : String} (hurl : '#' ∉ url.toList) (hmore : '#' ∉ more.toList)
    (hquery : '?' ∉ url.toList) : queryOf url = "" ∧ queryOf (url ++ "?" ++ more) = more := by
  have hboth : '#' ∉ (url ++ "?" ++ more).toList := by simp [hurl, hmore]
  have hcut : cutFirst? '?' (url ++ "?" ++ more).toList = some (url.toList, more.toList) := by
    rw [cutFirst?_eq_some]
    exact ⟨by simp, hquery⟩
  unfold queryOf splitPath
  rw [cutFirst?_eq_none.2 hurl, cutFirst?_eq_none.2 hboth]
  simp only [Option.getD_none, hcut, Option.getD_some, cutFirst?_eq_none.2 hquery]
  exact ⟨rfl, String.toList_injective (toList_getD_part? _)⟩

/-! ### Pairs behind a query -/

theorem readQuery_append (query more : String) : readQuery (query ++ "&" ++ more) = readQuery query ++ readQuery more := by
  have hcut : splitBy '&' (query ++ "&" ++ more) = splitBy '&' query ++ splitBy '&' more := by
    have htext : (query ++ "&" ++ more).toList = query.toList ++ '&' :: more.toList := by simp
    rw [splitBy, htext, List.splitOn_append_cons_self, List.map_append]
    rfl
  unfold readQuery
  rw [hcut, List.filter_append, List.map_append]

/-- The pairs of a query behind a URL come after those of the URL, whichever sign is put between the two. -/
theorem readQuery_queryOf_append {url more : String} (hurl : '#' ∉ url.toList) (hmore : '#' ∉ more.toList) :
    readQuery (queryOf (url ++ (if url.toList.contains '?' then "&" else "?") ++ more)) =
      readQuery (queryOf url) ++ readQuery more := by
  by_cases hquery : '?' ∈ url.toList
  · have hamp : '#' ∉ ("&" ++ more).toList := by simpa using hmore
    rw [if_pos (by simpa using hquery), String.append_assoc, queryOf_append hurl hamp hquery, ← String.append_assoc,
      readQuery_append]
  · obtain ⟨hnone, hmark⟩ := queryOf_question hurl hmore hquery
    rw [if_neg (by simpa using hquery), hmark, hnone]
    rfl

theorem nodup_keys_queryMap (query : String) : ((queryMap query).map (·.1)).Nodup :=
  nodup_keys_putEntries List.nodup_nil

/-- Texts that stand for themselves in a query: no sign of queries, of fragments or of escapes stands in them. -/
def IsQueryText (s : String) : Prop := ∀ c ∈ s.toList, c ∉ ['&', '=', '#', '%', '+']

theorem isQueryText_of_isAlphanum {s : String} (h : ∀ c ∈ s.toList, c.isAlphanum) : IsQueryText s := by
  intro c hc hin
  have hsign : ∀ d ∈ ['&', '=', '#', '%', '+'], d.isAlphanum = false := List.all_iff_forall_prop.1 (by decide)
  have hc := h c hc
  rw [hsign c hin] at hc
  cases hc

/-- The text of a query whose names and values stand for themselves. -/
def plainQuery (pairs : List (String × String)) : String := join "&" (pairs.map fun p => p.1 ++ "=" ++ p.2)

theorem readPair_plain {name value : String} (hname : IsQueryText name) (hvalue : IsQueryText value) :
    readPair (name ++ "=" ++ value) = (name, value) := by
  have htext : (name ++ "=" ++ value).toList = name.toList ++ '=' :: value.toList := by simp
  have hall : ∀ c ∈ name.toList, (c != '=') = true := by
    intro c hc
    refine bne_iff_ne.2 ?_
    rintro rfl
    exact hname _ hc (by decide)
  have hplain {s : String} (hs : IsQueryText s) : ofFormText s = s :=
    ofFormText_of_not_mem (fun hin => hs _ hin (by decide)) fun hin => hs _ hin (by decide)
  rw [readPair, htext, List.takeWhile_append_of_pos hall, List.dropWhile_append_of_pos hall]
  simp [hplain hname, hplain hvalue]

/-- An equals sign is the only sign between two texts that stand for themselves. -/
theorem not_mem_plainPair {name value : String} (hname : IsQueryText name) (hvalue : IsQueryText value) {c : Char}
    (hc : c ∈ ['&', '#', '%', '+']) : c ∉ (name ++ "=" ++ value).toList := by
  have hsign : c ∈ ['&', '=', '#', '%', '+'] ∧ c ≠ '=' := by
    simp only [List.mem_cons, List.not_mem_nil, or_false] at hc
    rcases hc with rfl | rfl | rfl | rfl <;> decide
  have hleft : c ∉ name.toList := fun hin => hname c hin hsign.1
  have hright : c ∉ value.toList := fun hin => hvalue c hin hsign.1
  simpa [hleft, hright] using hsign.2

/-- A query of texts that stand for themselves is read as its pairs. -/
theorem readQuery_plainQuery {pairs : List (String × String)} (h : ∀ p ∈ pairs, IsQueryText p.1 ∧ IsQueryText p.2) :
    readQuery (plainQuery pairs) = pairs := by
  have hsign : ∀ piece ∈ pairs.map (fun p => p.1 ++ "=" ++ p.2), '&' ∉ piece.toList := by
    intro piece hpiece hin
    obtain ⟨p, hp, rfl⟩ := List.mem_map.1 hpiece
    exact not_mem_plainPair (h p hp).1 (h p hp).2 (by decide) hin
  have hfilter : (pairs.map fun p => p.1 ++ "=" ++ p.2).filter (fun piece => !piece.isEmpty) =
      pairs.map fun p => p.1 ++ "=" ++ p.2 := by
    refine List.filter_eq_self.2 fun piece hpiece => ?_
    obtain ⟨p, -, rfl⟩ := List.mem_map.1 hpiece
    simp
  calc readQuery (plainQuery pairs)
      = (pairs.map fun p => p.1 ++ "=" ++ p.2).map readPair := by rw [plainQuery, readQuery_join hsign, hfilter]
    _ = pairs.map fun p => readPair (p.1 ++ "=" ++ p.2) := List.map_map
    _ = pairs.map id := List.map_congr_left fun p hp => readPair_plain (h p hp).1 (h p hp).2
    _ = pairs := List.map_id _

theorem not_mem_plainQuery {pairs : List (String × String)} (h : ∀ p ∈ pairs, IsQueryText p.1 ∧ IsQueryText p.2) :
    '#' ∉ (plainQuery pairs).toList := by
  intro hin
  rw [plainQuery, toList_join, List.map_map] at hin
  rcases mem_intercalate hin with hin | ⟨piece, hpiece, hin⟩
  · cases hin
  · obtain ⟨p, hp, rfl⟩ := List.mem_map.1 hpiece
    exact not_mem_plainPair (h p hp).1 (h p hp).2 (by decide) hin

end Courier.Url
