import Courier.Proofs.Url.Address
import Courier.Proofs.Url.Form

/-! URLs with a new query. The parts that a URL is split into are put together with another query, and splitting the
outcome gives the same parts and the new query. Two things are lost on the way, and only they: the colon of a port that
is empty, and the sign behind a user that is empty. -/

namespace Courier.Url

open Courier.Text

/-- The authority of some parts, as it is written. -/
def Address.authority (a : Address) : String :=
  let user := a.user.getD ""
  let password := a.password.elim "" (":" ++ ·)
  (if user.isEmpty && password.isEmpty then "" else user ++ password ++ "@") ++ a.host.getD "" ++ behind ":" a.port

theorem Address.toUrl_eq (a : Address) : a.toUrl =
    (if (a.scheme.getD "").isEmpty then "" else a.scheme.getD "" ++ "://") ++ (a.authority ++
      (a.path.getD "" ++ (behind "?" a.query ++ behind "#" a.fragment))) := by
  simp only [toUrl, authority, String.append_assoc]

theorem toList_getD_part? (cs : List Char) : ((part? cs).getD "").toList = cs := by
  rw [part?_eq]
  split
  · rename_i hnil
    rw [hnil]
    rfl
  · exact String.toList_ofList

theorem toList_behind {delimiter : Char} {mark : String} (hmark : mark.toList = [delimiter]) (part : Option String) :
    (behind mark part).toList = delimited delimiter (part.getD "").toList := by
  unfold behind delimited
  simp only [String.isEmpty_iff]
  split
  · rename_i hempty
    rw [if_pos (by rw [hempty]; rfl)]
    rfl
  · rename_i hne
    rw [if_neg (by simpa using hne), String.toList_append, hmark]
    rfl

/-! ### The authority -/

theorem hostAndPort?_spec {cs host port : List Char} (h : hostAndPort? cs = some (host, port))
    (hport : cs.getLast? ≠ some ':') : cs = host ++ delimited ':' port ∧ host ≠ [] := by
  unfold hostAndPort? at h
  obtain ⟨before, after, hcut⟩ : ∃ before after, cutPort cs = (before, after) := ⟨_, _, rfl⟩
  rw [hcut] at h
  simp only at h
  split at h
  · cases h
  rename_i hgood
  cases h
  refine ⟨?_, fun hnil => hgood (by simp [hnil])⟩
  unfold cutPort at hcut
  by_cases hbracket : cs.getLast? = some ']'
  · rw [if_pos (by simpa using hbracket)] at hcut
    cases hcut
    simp [delimited]
  · rw [if_neg (by simpa using hbracket)] at hcut
    cases hlast : cutLast? ':' cs with
    | none =>
        rw [hlast] at hcut
        cases hcut
        simp [delimited]
    | some found =>
        rw [hlast] at hcut
        cases hcut
        obtain ⟨rfl, -⟩ := cutLast?_eq_some.1 hlast
        have hne : port ≠ [] := by
          rintro rfl
          simp at hport
        rw [delimited, if_neg hne]

/-- An authority is written as it was read, if its port and its user are not empty. -/
theorem authority_written {cs : List Char} {a : Address} (h : authority? cs = some a)
    (hport : cs.getLast? ≠ some ':') (huser : ∀ host, cutLast? '@' cs ≠ some ([], host)) :
    a.authority.toList = cs := by
  have hcolon : ":".toList = [':'] := rfl
  unfold authority? at h
  cases hlogin : cutLast? '@' cs with
  | none =>
      rw [hlogin] at h
      obtain ⟨⟨host, port⟩, hhost, h⟩ := Option.bind_eq_some_iff.1 h
      cases h
      have hcs := (hostAndPort?_spec hhost hport).1
      simp [Address.authority, toList_behind hcolon, toList_getD_part?, ← hcs]
  | some found =>
      obtain ⟨login, hosts⟩ := found
      obtain ⟨rfl, -⟩ := cutLast?_eq_some.1 hlogin
      rw [hlogin] at h
      obtain ⟨⟨host, port⟩, hhost, h⟩ := Option.bind_eq_some_iff.1 h
      have hlast : hosts.getLast? ≠ some ':' := by
        cases hosts with
        | nil => exact fun hnone => nomatch hnone
        | cons c hosts => simpa [List.getLast?_append] using hport
      obtain ⟨hhosts, -⟩ := hostAndPort?_spec hhost hlast
      have hlogins : login ≠ [] := fun hnil => huser hosts (by rw [hlogin, hnil])
      cases hnamed : cutFirst? ':' login with
      | none =>
          simp only [Option.map_some, Option.bind_eq_bind, Option.bind_some, hnamed] at h
          cases h
          simp [Address.authority, toList_behind hcolon, toList_getD_part?, hlogins, ← hhosts]
      | some named =>
          obtain ⟨user, password⟩ := named
          obtain ⟨rfl, -⟩ := cutFirst?_eq_some.1 hnamed
          simp only [Option.map_some, Option.bind_eq_bind, Option.bind_some, hnamed] at h
          cases h
          simp [Address.authority, toList_behind hcolon, toList_getD_part?, ← hhosts]

/-! ### Characters that can be encoded -/

theorem encodingFault?_eq_none {cs : List Char} (h : ∀ c ∈ cs, isScalar c) (fuel : Nat) :
    encodingFault? fuel cs = none := by
  induction fuel generalizing cs with
  | zero => rfl
  | succ fuel ih =>
      obtain ⟨run, rest, hcut⟩ : ∃ run rest, cutAt delimiters cs = (run, rest) := ⟨_, _, rfl⟩
      obtain ⟨rfl, -, -⟩ := cutAt_spec hcut
      have hrun : utf8 (String.ofList run) = .ok (utf8Bytes run) := by
        rw [utf8_eq_ok, String.toList_ofList]
        exact fun c hc => h c (List.mem_append_left _ (by simpa using hc))
      rw [encodingFault?, hcut]
      simp only [hrun]
      cases rest with
      | nil => rfl
      | cons c rest => exact ih fun d hd => h d (List.mem_append_right _ (List.mem_cons_of_mem _ hd))

theorem isScalar_of_encodingFault? {fuel : Nat} {cs : List Char} (h : encodingFault? fuel cs = none)
    (hfuel : cs.length < fuel) : ∀ c ∈ cs, isScalar c := by
  induction fuel generalizing cs with
  | zero => exact absurd hfuel (Nat.not_lt_zero _)
  | succ fuel ih =>
      obtain ⟨run, rest, hcut⟩ : ∃ run rest, cutAt delimiters cs = (run, rest) := ⟨_, _, rfl⟩
      obtain ⟨rfl, -, hrest⟩ := cutAt_spec hcut
      rw [encodingFault?, hcut] at h
      simp only at h
      cases hrun : utf8 (String.ofList run) with
      | error f =>
          rw [hrun] at h
          cases h
      | ok bytes =>
          have hscalar := isScalar_of_utf8 hrun
          rw [String.toList_ofList] at hscalar
          rw [hrun] at h
          cases rest with
          | nil => simpa using hscalar
          | cons d rest =>
              have hdelimiter : isScalar d := by
                have hin := hrest d rfl
                simp only [delimiters, List.mem_cons, List.not_mem_nil, or_false] at hin
                rcases hin with rfl | rfl | rfl | rfl | rfl | rfl | rfl <;> decide
              simp only [List.length_append, List.length_cons] at hfuel
              intro c hc
              rcases List.mem_append.1 hc with hc | hc
              · exact hscalar c hc
              · rcases List.mem_cons.1 hc with rfl | hc
                · exact hdelimiter
                · exact ih h (by omega) c hc

/-! ### A new query -/

/-- A URL with two slashes behind its scheme, whose authority has neither an empty port nor an empty user. -/
def IsRegular (cs : List Char) : Prop :=
  ∃ scheme rest, scheme? cs = some (scheme, '/' :: '/' :: rest) ∧
    (cutAt ['/', '?', '#'] rest).1.getLast? ≠ some ':' ∧
    ∀ host, cutLast? '@' (cutAt ['/', '?', '#'] rest).1 ≠ some ([], host)

theorem exists_split? {url : String} {parts : Address} (h : split url = .ok parts) :
    encodingFault? (url.length + 1) url.toList = none ∧ longPort? url.toList = none ∧
      split? url.toList = some parts := by
  unfold split at h
  split at h
  · cases h
  · cases h
  · rename_i hfault hport
    split at h
    · rename_i hparts
      cases h
      exact ⟨hfault, hport, hparts⟩
    · cases h

theorem isQueryChar_bounds {c : Char} (h : isQueryChar c) : c.toNat < 128 ∧ c ≠ '#' := by
  refine ⟨?_, fun heq => absurd (heq ▸ h) (by decide)⟩
  simp only [isQueryChar, Bool.or_eq_true, beq_iff_eq] at h
  rcases h with (h | rfl) | rfl
  · exact toNat_lt_of_isFormChar h
  · decide
  · decide

theorem Layout.withQuery_isSound {l : Layout} (h : l.IsSound) {query : List Char} (hquery : '#' ∉ query) :
    ({ l with query := query } : Layout).IsSound :=
  ⟨h.letter, h.scheme, h.lower, h.authority, h.path, h.slash, hquery⟩

/-- The parts of a URL with another query are put together as its layout with that query. -/
theorem Layout.IsOf.toUrl_withQuery {l : Layout} {cs : List Char} (h : l.IsOf cs) {a : Address}
    (hsplit : Url.split? cs = some a) (hport : l.authority.getLast? ≠ some ':')
    (huser : ∀ host, cutLast? '@' l.authority ≠ some ([], host)) (query : String) :
    ({ a with query := some query } : Address).toUrl.toList = ({ l with query := query.toList } : Layout).text := by
  rw [h.split?] at hsplit
  obtain ⟨address, haddress, rfl⟩ := Option.map_eq_some_iff.1 hsplit
  have hauthority := authority_written haddress hport huser
  have hscheme : l.scheme ≠ [] := by
    intro hnil
    have hletter := h.sound.letter
    rw [hnil] at hletter
    cases hletter
  rw [Address.toUrl_eq]
  simp only [Option.getD_some, String.isEmpty_iff, String.toList_append, apply_ite String.toList,
    toList_behind (show "?".toList = ['?'] from rfl), toList_behind (show "#".toList = ['#'] from rfl),
    toList_getD_part?, String.toList_ofList]
  rw [if_neg (by simpa using hscheme), Layout.text, ← hauthority]
  simp [Address.authority]

/-- Putting the parts of a URL together with another query, and splitting the outcome, changes the query alone. -/
theorem split_withQuery {url : String} {parts : Address} (h : split url = .ok parts) (hregular : IsRegular url.toList)
    {query : String} (hquery : ∀ c ∈ query.toList, isQueryChar c) :
    split ({ parts with query := some query } : Address).toUrl = .ok { parts with query := part? query.toList } := by
  obtain ⟨hfault, hlong, hsplit⟩ := exists_split? h
  obtain ⟨scheme, rest, hscheme, hport, huser⟩ := hregular
  obtain ⟨l, hl, rfl, hauthority⟩ := Layout.exists_isOf hscheme
  rw [← hauthority] at hport huser
  have hurl := hl.toUrl_withQuery hsplit hport huser query
  have hsound := Layout.withQuery_isSound hl.sound fun hin => (isQueryChar_bounds (hquery '#' hin)).2 rfl
  have hk := Layout.isOf_text hsound
  have hscalar : ∀ c ∈ ({ l with query := query.toList } : Layout).text, isScalar c := by
    have hlength : url.toList.length < url.length + 1 := by
      rw [String.length_toList]
      exact Nat.lt_succ_self _
    have hurlScalar := isScalar_of_encodingFault? hfault hlength
    have hdelimited {d : Char} {cs : List Char} (hd : isScalar d) (hcs : ∀ c ∈ cs, isScalar c) :
        ∀ c ∈ delimited d cs, isScalar c := by
      unfold delimited
      split
      · exact fun c hc => absurd hc List.not_mem_nil
      · exact fun c hc => (List.mem_cons.1 hc).elim (fun heq => heq ▸ hd) (hcs c)
    intro c hc
    simp only [Layout.text, List.mem_append, List.mem_cons] at hc
    rcases hc with hc | rfl | rfl | rfl | hc | hc | hc | hc
    · exact isScalar_of_lt (toNat_lt_of_isSchemeChar (hsound.scheme c hc))
    · decide
    · decide
    · decide
    · exact hurlScalar c (hl.mem c (Or.inl hc))
    · exact hurlScalar c (hl.mem c (Or.inr (Or.inl hc)))
    · exact hdelimited (by decide) (fun d hd => isScalar_of_lt (isQueryChar_bounds (hquery d hd)).1) c hc
    · exact hdelimited (by decide) (fun d hd => hurlScalar d (hl.mem d (Or.inr (Or.inr hd)))) c hc
  unfold split
  rw [hurl, encodingFault?_eq_none hscalar, hk.longPort? hl rfl, hlong, hk.split?]
  rw [hl.split?] at hsplit
  obtain ⟨address, haddress, rfl⟩ := Option.map_eq_some_iff.1 hsplit
  simp only [haddress, Option.map_some]

end Courier.Url
