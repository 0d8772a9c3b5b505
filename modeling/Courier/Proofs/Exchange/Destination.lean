import Courier.Proofs.Exchange.Form
import Courier.Proofs.Failures

/-! Where a request goes. Its URL is cut into parts, and each of them is written with escapes; what can keep a part from
being written is a half of a surrogate pair, and no part has one that the URL does not have. -/

namespace Courier

namespace Text

/-! ### Pieces of texts -/

theorem subset_go₂ (cs : List Char) (i e : String.Pos.Raw) : String.Pos.Raw.extract.go₂ cs i e ⊆ cs := by
  induction cs generalizing i with
  | nil => exact List.Subset.refl _
  | cons c cs ih =>
      rw [String.Pos.Raw.extract.go₂]
      split
      · exact List.nil_subset _
      · exact List.cons_subset_cons c (ih _)

theorem subset_go₁ (cs : List Char) (i b e : String.Pos.Raw) : String.Pos.Raw.extract.go₁ cs i b e ⊆ cs := by
  induction cs generalizing i with
  | nil => exact List.Subset.refl _
  | cons c cs ih =>
      rw [String.Pos.Raw.extract.go₁]
      split
      · exact subset_go₂ _ _ _
      · exact List.subset_cons_of_subset c (ih _)

/-- A part of a text holds characters of the text, wherever it is cut out. -/
theorem subset_extract (s : String) (b e : String.Pos.Raw) : (String.Pos.Raw.extract s b e).toList ⊆ s.toList := by
  rw [String.Pos.Raw.extract]
  split
  · exact List.nil_subset _
  · rw [String.toList_ofList]
    exact subset_go₁ _ _ _ _

theorem subset_splitOnAux {s sep : String} {b i j : String.Pos.Raw} {pieces : List String}
    (h : ∀ piece ∈ pieces, piece.toList ⊆ s.toList) :
    ∀ piece ∈ s.splitOnAux sep b i j pieces, piece.toList ⊆ s.toList := by
  have hnext {pieces : List String} (h : ∀ piece ∈ pieces, piece.toList ⊆ s.toList) (b e : String.Pos.Raw) :
      ∀ piece ∈ String.Pos.Raw.extract s b e :: pieces, piece.toList ⊆ s.toList :=
    List.forall_mem_cons.2 ⟨subset_extract s b e, h⟩
  induction b, i, j, pieces using String.splitOnAux.induct s sep with
  | case1 b i j pieces hend =>
    rw [String.splitOnAux, if_pos hend]
    exact fun piece hpiece => hnext h b i piece (List.mem_reverse.1 hpiece)
  | case2 b i j pieces hend hsame i' j' hstop ih =>
    rw [String.splitOnAux, if_neg hend, if_pos hsame]
    rw [if_pos hstop]
    exact ih (hnext h b _)
  | case3 b i j pieces hend hsame i' j' hstop ih =>
    rw [String.splitOnAux, if_neg hend, if_pos hsame]
    rw [if_neg hstop]
    exact ih h
  | case4 b i j pieces hend hsame ih =>
    rw [String.splitOnAux, if_neg hend, if_neg hsame]
    exact ih h

/-- The pieces of a text hold characters of the text. -/
theorem subset_splitOn {s sep piece : String} (h : piece ∈ s.splitOn sep) : piece.toList ⊆ s.toList := by
  unfold String.splitOn at h
  split at h
  · rw [List.mem_singleton.1 h]
    exact List.Subset.refl _
  · exact subset_splitOnAux (List.forall_mem_nil _) piece h

end Text

namespace Exchange

open Text

/-- Texts of URLs that have no form in UTF-8. -/
def TargetFault.isEncoding : TargetFault → Bool
  | encoding _ => true
  | _ => false

/-- Characters of their own, none of which is a half of a surrogate pair. -/
def AreScalar (cs : List Char) : Prop := ∀ c ∈ cs, isScalar c

theorem AreScalar.of_subset {cs part : List Char} (h : AreScalar cs) (hpart : part ⊆ cs) : AreScalar part :=
  fun c hc => h c (hpart hc)

theorem isEncodable_ofList {cs : List Char} (h : AreScalar cs) : IsEncodable (String.ofList cs) := by
  intro c hc
  rw [String.toList_ofList] at hc
  exact h c hc

/-! ### Escapes -/

/-- Escaping adds no half of a pair. -/
theorem areScalar_escapeList (safe : Char → Bool) (skip : Nat) {cs : List Char} (h : AreScalar cs) :
    AreScalar (escapeList safe skip cs) := by
  induction cs generalizing skip with
  | nil => cases skip <;> exact List.forall_mem_nil _
  | cons c cs ih =>
      obtain ⟨hc, hcs⟩ := List.forall_mem_cons.1 h
      have hstay (skip : Nat) : AreScalar (c :: escapeList safe skip cs) := List.forall_mem_cons.2 ⟨hc, ih skip hcs⟩
      cases skip with
      | succ skip => exact hstay skip
      | zero =>
          rw [escapeList]
          split
          · exact hstay 2
          · refine List.forall_mem_append.2 ⟨fun d hd => ?_, ih 0 hcs⟩
            rcases of_mem_escapeChar hd with ⟨-, rfl⟩ | hd | rfl
            · exact hc
            · exact isScalar_of_lt (isUnreserved_bounds hd).1
            · exact isScalar_of_lt (by decide)

theorem escape_eq_ok (safe : Char → Bool) {s : String} (h : IsEncodable s) :
    escape safe s = .ok (String.ofList (escapeList safe 0 s.toList)) := by
  unfold escape
  rw [firstFault?_eq_none.2 h]

/-- What was written with escapes has a form in UTF-8. -/
theorem gives_escape (safe : Char → Bool) (s : String) : Gives IsEncodable (escape safe s) := by
  unfold escape
  split
  · exact gives_error _
  · rename_i hfault
    exact gives_ok (isEncodable_ofList (areScalar_escapeList safe 0 (firstFault?_eq_none.1 hfault)))

/-- Faults of URLs other than those of their encoding. -/
def TargetFault.IsPlain (fault : TargetFault) : Prop := fault.isEncoding = false

theorem fails_escape (safe : Char → Bool) {s : String} (h : IsEncodable s) :
    Fails TargetFault.IsPlain (escape safe s) := by
  rw [escape_eq_ok safe h]
  exact fails_ok _

/-! ### Parts -/

theorem subset_cutAtFirst (stop : Char) (cs : List Char) :
    (cutAtFirst stop cs).1 ⊆ cs ∧ ∀ after ∈ (cutAtFirst stop cs).2, after ⊆ cs := by
  unfold cutAtFirst
  split
  · refine ⟨(List.takeWhile_sublist _).subset, ?_⟩
    rintro _ ⟨⟩
    exact ((List.tail_sublist _).trans (List.dropWhile_sublist _)).subset
  · exact ⟨List.Subset.refl _, nofun⟩

theorem subset_cutAtLast (stop : Char) (cs : List Char) :
    (∀ before ∈ (cutAtLast stop cs).1, before ⊆ cs) ∧ (cutAtLast stop cs).2 ⊆ cs := by
  obtain ⟨hfirst, hsecond⟩ := subset_cutAtFirst stop cs.reverse
  unfold cutAtLast
  rcases hcut : cutAtFirst stop cs.reverse with ⟨after, _ | before⟩
  · exact ⟨nofun, List.Subset.refl _⟩
  · rw [hcut] at hfirst hsecond
    refine ⟨?_, fun c hc => List.mem_reverse.1 (hfirst (List.mem_reverse.1 hc))⟩
    rintro _ ⟨⟩ c hc
    exact List.mem_reverse.1 (hsecond before rfl (List.mem_reverse.1 hc))

theorem subset_cutScheme (cs : List Char) : (cutScheme cs).2 ⊆ cs := by
  obtain ⟨-, hafter⟩ := subset_cutAtFirst ':' cs
  unfold cutScheme
  rcases hcut : cutAtFirst ':' cs with ⟨before, _ | rest⟩
  · exact List.Subset.refl _
  · rw [hcut] at hafter
    dsimp only
    split
    · exact hafter rest rfl
    · exact List.Subset.refl _

/-- The parts of a URL that are written with escapes, without a half of a surrogate pair. -/
structure Pieces.AreScalar (p : Pieces) : Prop where
  userInfo : Exchange.AreScalar p.userInfo
  path : Exchange.AreScalar p.path
  query : ∀ q ∈ p.query, Exchange.AreScalar q
  fragment : ∀ f ∈ p.fragment, Exchange.AreScalar f

/-- The parts of a URL hold characters of the URL. -/
theorem areScalar_cut {cs : List Char} (h : AreScalar cs) : (cut cs).AreScalar := by
  obtain ⟨authority, rest, hcut, hauthority, hrest⟩ : ∃ authority rest, cut cs =
      ⟨(cutScheme cs).1, (cutAtLast '@' authority).1.getD [], (cutHost (cutAtLast '@' authority).2).1,
        (cutHost (cutAtLast '@' authority).2).2, (cutAtFirst '?' (cutAtFirst '#' rest).1).1,
        (cutAtFirst '?' (cutAtFirst '#' rest).1).2, (cutAtFirst '#' rest).2⟩ ∧ authority ⊆ cs ∧ rest ⊆ cs := by
    have hbehind := subset_cutScheme cs
    unfold cut
    generalize cutScheme cs = found at hbehind ⊢
    obtain ⟨scheme, behind⟩ := found
    dsimp only at hbehind ⊢
    split
    · rename_i behind
      have hlater : behind ⊆ cs := List.Subset.trans (List.subset_append_right ['/', '/'] behind) hbehind
      exact ⟨_, _, rfl, List.Subset.trans (List.takeWhile_sublist _).subset hlater,
        List.Subset.trans (List.dropWhile_sublist _).subset hlater⟩
    · exact ⟨[], _, rfl, List.nil_subset _, hbehind⟩
  obtain ⟨huser, -⟩ := subset_cutAtLast '@' authority
  obtain ⟨hbefore, hfragment⟩ := subset_cutAtFirst '#' rest
  obtain ⟨hpath, hquery⟩ := subset_cutAtFirst '?' (cutAtFirst '#' rest).1
  have hfront : (cutAtFirst '#' rest).1 ⊆ cs := List.Subset.trans hbefore hrest
  rw [hcut]
  refine ⟨?_, h.of_subset (List.Subset.trans hpath hfront),
    fun q hq => h.of_subset (List.Subset.trans (hquery q hq) hfront),
    fun f hf => h.of_subset (List.Subset.trans (hfragment f hf) hrest)⟩
  cases hfound : (cutAtLast '@' authority).1 with
  | none => exact List.forall_mem_nil _
  | some before => exact h.of_subset (List.Subset.trans (huser before hfound) hauthority)

/-! ### Hosts, ports and paths -/

theorem toNat_toLower_lt {c : Char} (h : c.toNat < 128) : c.toLower.toNat < 128 :=
  of_forall_ascii (P := fun c => c.toLower.toNat < 128) (by decide) h

/-- A host that is written with escapes has ASCII characters alone. -/
theorem fails_writeHost (host : String) : Fails TargetFault.IsPlain (writeHost host) := by
  have hascii (h : host.toList.all fun c => c.toNat < 128) : IsEncodable (host.map Char.toLower) := by
    refine isEncodable_of_ascii fun c hc => ?_
    rw [String.toList_map] at hc
    obtain ⟨d, hd, rfl⟩ := List.mem_map.1 hc
    exact toNat_toLower_lt (by simpa using List.all_eq_true.1 h d hd)
  simp only [writeHost]
  split_ifs with hempty hdigits haddress hbracket hsix hletters
  · exact fails_ok _
  · exact fails_ok _
  · exact fails_error rfl
  · exact fails_ok _
  · exact fails_error rfl
  · exact fails_escape _ (hascii hletters)
  · split
    · exact fails_ok _
    · exact fails_error rfl

theorem fails_writePort (scheme port : String) : Fails TargetFault.IsPlain (writePort scheme port) := by
  unfold writePort
  split
  · exact fails_ok _
  · split
    · exact fails_ok _
    · exact fails_error rfl

theorem fails_checkPath (path : String) (hasScheme hasAuthority : Bool) :
    Fails TargetFault.IsPlain (checkPath path hasScheme hasAuthority) := by
  unfold checkPath
  split_ifs
  · exact fails_error rfl
  · exact fails_error rfl
  · exact fails_error rfl
  · exact fails_ok _

/-- Resolving dot segments leaves segments out, and adds none. -/
theorem subset_resolveSegments (before parts : List (List Char)) : resolveSegments before parts ⊆ before ++ parts := by
  induction parts generalizing before with
  | nil =>
      rw [resolveSegments, List.append_nil]
      exact fun part => List.mem_reverse.1
  | cons segment rest ih =>
      have hrest {kept : List (List Char)} (hkept : kept ⊆ before) : kept ++ rest ⊆ before ++ segment :: rest :=
        List.append_subset.2 ⟨List.subset_append_of_subset_left _ hkept,
          List.subset_append_of_subset_right _ (List.subset_cons_self segment rest)⟩
      rw [resolveSegments]
      split_ifs
      · exact List.Subset.trans (ih before) (hrest (List.Subset.refl _))
      · exact List.Subset.trans (ih _) (hrest (List.Subset.refl _))
      · exact List.Subset.trans (ih _) (hrest (List.tail_sublist _).subset)
      · refine List.Subset.trans (ih _) fun part hpart => ?_
        simpa [or_left_comm, or_assoc] using hpart

theorem isEncodable_resolveDots {path : String} (h : IsEncodable path) : IsEncodable (resolveDots path) := by
  simp only [resolveDots]
  split
  · intro c hc
    rw [ofSegments, join, String.toList_intercalate, List.map_map] at hc
    rcases Url.mem_intercalate hc with rfl | ⟨_, hpiece, hc⟩
    · exact isScalar_of_lt (by decide)
    · obtain ⟨part, hpart, rfl⟩ := List.mem_map.1 hpiece
      obtain ⟨piece, hsegment, rfl⟩ := List.mem_map.1 (subset_resolveSegments [] _ hpart)
      rw [Function.comp_apply, String.toList_ofList] at hc
      exact h c (subset_splitOn hsegment hc)
  · exact h

namespace Target

theorem fails_mapM {α β : Type} {f : α → Except TargetFault β} {part : Option α}
    (h : ∀ a ∈ part, Fails TargetFault.IsPlain (f a)) : Fails TargetFault.IsPlain (part.mapM f) := by
  cases part with
  | none => exact fails_ok _
  | some a => exact (h a rfl).bind fun _ => fails_ok _

theorem fails_ofPieces {p : Pieces} (h : p.AreScalar) : Fails TargetFault.IsPlain (ofPieces p) := by
  have hpath (c : Bool) : IsEncodable (if c then resolveDots (String.ofList p.path) else String.ofList p.path) := by
    cases c
    · exact isEncodable_ofList h.path
    · exact isEncodable_resolveDots (isEncodable_ofList h.path)
  refine (fails_escape _ (isEncodable_ofList h.userInfo)).bind fun userInfo => (fails_writeHost _).bind fun host => ?_
  refine (fails_writePort _ _).bind fun port => (fails_checkPath _ _ _).bind fun _ => ?_
  refine (fails_escape _ (hpath _)).bind fun path => ?_
  refine (fails_mapM fun q hq => fails_escape _ (isEncodable_ofList (h.query q hq))).bind fun query => ?_
  exact (fails_mapM fun f hf => fails_escape _ (isEncodable_ofList (h.fragment f hf))).bind fun fragment => fails_ok _

/-- The path and the query of a URL, as they are written, have a form in UTF-8. -/
structure IsEncodable (t : Target) : Prop where
  path : Text.IsEncodable t.path
  query : ∀ q ∈ t.query, Text.IsEncodable q

theorem gives_ofPieces (p : Pieces) : Gives IsEncodable (ofPieces p) := by
  refine gives_bind fun userInfo => gives_bind fun host => gives_bind fun port => gives_bind fun _ => ?_
  refine (gives_escape _ _).bind fun path hpath => ?_
  have hquery : Gives (fun query => ∀ q ∈ query, Text.IsEncodable q)
      (p.query.mapM fun q => escape (isSafe unsafeInQuery) (String.ofList q)) := by
    cases p.query with
    | none => exact gives_ok forall_mem_none
    | some q =>
        refine (gives_escape _ _).bind fun written hwritten => gives_ok ?_
        rintro _ ⟨⟩
        exact hwritten
  exact hquery.bind fun query hquery => gives_bind fun fragment => gives_ok ⟨hpath, hquery⟩

theorem fails_read {url : String} (h : Text.IsEncodable url) : Fails TargetFault.IsPlain (read url) := by
  unfold read
  split
  · exact fails_error rfl
  · split
    · exact fails_error rfl
    · exact fails_ofPieces (areScalar_cut h)

theorem gives_read (url : String) : Gives IsEncodable (read url) := by
  unfold read
  split
  · exact gives_error _
  · split
    · exact gives_error _
    · exact gives_ofPieces _

theorem fails_rooted {t : Target} (h : t.IsEncodable) : Fails TargetFault.IsPlain t.rooted := by
  have hslash : isScalar '/' := isScalar_of_lt (by decide)
  have hpath : AreScalar (if t.path.isEmpty then "/" else t.path).toList := by
    split
    · exact List.forall_mem_singleton.2 hslash
    · exact h.path
  refine fails_ofPieces ⟨List.forall_mem_nil _, ?_, fun q hq => ?_, nofun⟩
  · exact List.forall_mem_cons.2 ⟨hslash, hpath.of_subset (List.dropWhile_sublist _).subset⟩
  · obtain ⟨query, hquery, rfl⟩ := Option.mem_map.1 hq
    exact h.query query hquery

/-- A URL that has a form in UTF-8 leads somewhere, or it has another fault. -/
theorem fails_ofRequest {url : String} (h : Text.IsEncodable url) : Fails TargetFault.IsPlain (ofRequest url) := by
  intro fault hfault
  rcases of_bind_error hfault with hread | ⟨t, ht, hfault⟩
  · exact fails_read h fault hread
  · split at hfault
    · cases hfault
    · exact fails_rooted (gives_read url t ht) fault hfault

end Target

end Exchange

end Courier
