import Mathlib
import Courier.Proofs.Language.Settled
import Courier.Proofs.Response.Content
import Courier.Proofs.Tame.Values
import Courier.Response.Output

/-! The plain output of a response. What a rule names is put into the output as it stands there, so that a map is from
then on in two places at once. As long as no later rule goes on below such a map, the rules do not meet: data and
content stay as they are, and each rule sets its path to what it names in them. -/

namespace Courier.Response

open Courier.Language Courier.Language.Path

/-! ### What rules name -/

/-- What a plain rule names in data and content as they were. A rule without a value names the content. -/
def lookedUp (all content : Value) (rule : Rule) : Except Fault Value :=
  if rule.value.isEmpty then .ok content else find [] all rule.value (.newText "")

/-- Neither path goes on from the other. -/
def AreApart (first second : List String) : Prop := ¬ first <+: second ∧ ¬ second <+: first
  deriving Decidable

/-- No rule sets a path below that of an earlier rule which names a map. -/
def NoneBelowMaps (all content : Value) (rules : List Rule) : Prop :=
  rules.Pairwise fun first later => (∃ v, lookedUp all content first = .ok v ∧ v.IsMap) →
    segments first.key <+: segments later.key → segments first.key = segments later.key

/-- The roots of what rules name. -/
def sources : List String := ["data", "content"]

variable {entries start : List (Value × Value)} {content v w : Value} {place : Owner → List String}
  {maps : List String → Prop} {changes : Changes} {rule : Rule}

/-- A rule names a part of data or content, or nothing. -/
theorem of_lookedUp (hentries : ∀ e ∈ entries, IsRooted sources e.2) (hcontent : IsRooted sources content)
    (h : lookedUp (.newMap entries) content rule = .ok v) : v = .newText "" ∨ IsRooted sources v := by
  unfold lookedUp at h
  split at h
  · cases h
    exact Or.inr hcontent
  · exact find_newMap hentries h

theorem ne_madeMap (h : v = .newText "" ∨ IsRooted sources v) (n : Nat) : v ≠ madeMap n := by
  rcases h with rfl | ⟨root, hroot, d, path, rfl⟩
  · exact Value.noConfusion
  · have hmade : root ≠ "made" := by
      rintro rfl
      exact absurd hroot (by decide)
    cases d <;> simp [Value.ofDocument, madeMap, hmade]

theorem spares_sources (h : Arranged ⟨"output", start⟩ place maps changes) :
    ∀ root ∈ sources, changes.Spares root := by
  intro root hroot
  have houtput : root ≠ "output" ∧ root ≠ "made" := by
    rcases List.mem_pair.1 hroot with rfl | rfl <;> decide
  exact h.spares houtput.1 houtput.2

/-- What rules name is settled as it is. -/
theorem settleAt_named (h : Arranged ⟨"output", start⟩ place maps changes)
    (hv : v = .newText "" ∨ IsRooted sources v) (fuel : Nat) (ids : List Identity)
    (hids : ∀ i ∈ ids, ∃ around, i = Top.identity ⟨"output", start⟩ around) :
    Value.settleAt changes fuel ids v = v := by
  rcases hv with rfl | ⟨root, hroot, d, path, rfl⟩
  · cases fuel <;> rfl
  · refine Value.settleAt_ofDocument (spares_sources h root hroot) fuel ids (fun around hin => ?_) d
    obtain ⟨owner, howner⟩ := hids _ hin
    rcases List.mem_pair.1 hroot with rfl | rfl <;> cases owner <;> simp [Top.identity] at howner

/-! ### Rules one after the other -/

section

variable (hentries : ∀ e ∈ entries, IsRooted sources e.2) (hcontent : IsRooted sources content)

include hentries

/-- A rule sets what it named before all rules. -/
theorem extractRule_eq (h : Arranged ⟨"output", start⟩ place maps changes) (rule : Rule) :
    extractRule (.newMap entries) content (.map (.placed "output" []) start) changes rule =
      lookedUp (.newMap entries) content rule >>=
        assign changes (segments rule.key) (.map (.placed "output" []) start) := by
  unfold extractRule lookedUp
  rw [find_newMap_eq (spares_sources h) hentries]
  split <;> rfl

include hcontent

/-- One rule sets its path, if that does not go through a map that was put there whole. -/
theorem exists_extractRule (h : Arranged ⟨"output", start⟩ place maps changes)
    (hv : lookedUp (.newMap entries) content rule = .ok v)
    (hclear : ∀ q, maps q → q <+: segments rule.key → q = segments rule.key) :
    ∃ places after,
      extractRule (.newMap entries) content (.map (.placed "output" []) start) changes rule = .ok after ∧
      Assigns ⟨"output", start⟩ v changes .top (segments rule.key) after ∧
      Arranged ⟨"output", start⟩ places (fun q => maps q ∨ v.IsMap ∧ q = segments rule.key) after := by
  have htop : Owner.top.IsUsed changes.length := trivial
  obtain ⟨after, hafter, hassigns⟩ := h.exists_assigns htop (segments_ne_nil rule.key)
    (by rwa [h.top, List.nil_append]) v
  obtain ⟨places, harranged⟩ := hassigns.exists_arranged h htop (ne_madeMap (of_lookedUp hentries hcontent hv))
  rw [h.top, List.nil_append] at harranged
  refine ⟨places, after, ?_, hassigns, harranged⟩
  rw [extractRule_eq hentries h, hv]
  exact hafter

omit hentries hcontent in
/-- Where a map is put, no later rule goes on below it. -/
theorem NoneBelowMaps.clear {rules : List Rule} (hrules : NoneBelowMaps (.newMap entries) content (rule :: rules))
    (hv : lookedUp (.newMap entries) content rule = .ok v)
    (hclear : ∀ r ∈ rule :: rules, ∀ q, maps q → q <+: segments r.key → q = segments r.key) :
    ∀ r ∈ rules, ∀ q, (maps q ∨ v.IsMap ∧ q = segments rule.key) → q <+: segments r.key → q = segments r.key := by
  rintro r hr q (hq | ⟨hmap, rfl⟩)
  · exact hclear r (List.mem_cons_of_mem _ hr) q hq
  · exact (List.pairwise_cons.1 hrules).1 r hr ⟨v, hv, hmap⟩

/-- Rules whose values can be looked up all set their paths. What stands at a path stays there if no rule sets one that
goes on from it or that it goes on from. -/
theorem exists_foldlM (h : Arranged ⟨"output", start⟩ place maps changes) {rules : List Rule}
    (hvalues : ∀ rule ∈ rules, ∃ v, lookedUp (.newMap entries) content rule = .ok v)
    (hclear : ∀ rule ∈ rules, ∀ q, maps q → q <+: segments rule.key → q = segments rule.key)
    (hbelow : NoneBelowMaps (.newMap entries) content rules) :
    ∃ places wholes after,
      rules.foldlM (extractRule (.newMap entries) content (.map (.placed "output" []) start)) changes = .ok after ∧
      Arranged ⟨"output", start⟩ places wholes after ∧
      (∀ path w, (∀ rule ∈ rules, AreApart (segments rule.key) path) → Leads ⟨"output", start⟩ changes w .top path →
        Leads ⟨"output", start⟩ after w .top path) ∧
      ∀ front rule back v, rules = front ++ rule :: back → lookedUp (.newMap entries) content rule = .ok v →
        (∀ later ∈ back, AreApart (segments later.key) (segments rule.key)) →
        Leads ⟨"output", start⟩ after v .top (segments rule.key) := by
  induction rules generalizing place maps changes with
  | nil => exact ⟨place, maps, changes, rfl, h, fun _ _ _ hleads => hleads, by simp⟩
  | cons first rules ih =>
      obtain ⟨u, hu⟩ := hvalues first List.mem_cons_self
      obtain ⟨inner, between, hfirst, hassigns, hinner⟩ :=
        exists_extractRule hentries hcontent h hu (hclear first List.mem_cons_self)
      obtain ⟨places, wholes, after, hafter, harranged, hkeeps, hsets⟩ :=
        ih hinner (fun r hr => hvalues r (List.mem_cons_of_mem _ hr)) (hbelow.clear hu hclear)
          (List.pairwise_cons.1 hbelow).2
      have htop : Owner.top.IsUsed changes.length := trivial
      refine ⟨places, wholes, after, ?_, harranged, fun path w hapart hleads => ?_, ?_⟩
      · rw [List.foldlM_cons, hfirst]
        exact hafter
      · obtain ⟨hfirst, hother⟩ := hapart first List.mem_cons_self
        exact hkeeps path w (fun r hr => hapart r (List.mem_cons_of_mem _ hr))
          (hassigns.keeps h htop hleads hfirst hother)
      · intro front rule back v hsplit hv hback
        cases front with
        | nil =>
            obtain ⟨rfl, rfl⟩ := List.cons.inj hsplit
            obtain rfl := Except.ok.inj (hu.symm.trans hv)
            exact hkeeps _ _ hback (hassigns.leads h htop)
        | cons r front => exact hsets front rule back v (List.cons.inj hsplit).2 hv hback

end

/-! ### The output as a whole -/

/-- Before all rules the output has its status and its content. -/
theorem arranged_basic (r : Response) (hcontent : IsRooted sources content) :
    Arranged ⟨"output", r.basic content⟩ (fun _ => []) (fun q => q = ["response"]) [] where
  current o := by cases o <;> rfl
  top := rfl
  part o key v hlookup := by
    cases o with
    | top =>
        change Value.lookup (.newText key) (r.basic content) = some v at hlookup
        simp only [basic, Value.lookup, Value.newText, List.find?_cons, Value.alike_text] at hlookup
        split at hlookup
        · cases hlookup
          refine Or.inr ⟨fun n => Value.noConfusion, ?_⟩
          rintro ⟨identity, inner, hmap⟩
          cases hmap
        · split at hlookup
          · rename_i hkey
            cases hlookup
            refine Or.inr ⟨ne_madeMap (Or.inr hcontent), fun _ => ?_⟩
            rw [← beq_iff_eq.1 hkey]
            rfl
          · cases hlookup
    | made n => cases hlookup
  short n := Nat.zero_le _
  new n _ := rfl
  others i _ := rfl

theorem isRooted_of_mem_ofEntries {root : String} (hroot : root ∈ sources) {path : List Nat} {position : Nat}
    {fields : List (String × Document)} : ∀ e ∈ Value.ofEntries root path position fields, IsRooted sources e.2 := by
  intro e he
  obtain ⟨n, d, hd⟩ := Value.exists_of_mem_ofEntries he
  exact ⟨root, hroot, d, n :: path, hd⟩

/-- The entries of data and content together are made of documents, too. -/
theorem exists_pathData {data : Document} (hdata : data = .null ∨ ∃ fields, data = .object fields) (d : Document) :
    ∃ entries, pathData (.ofDocument "data" [] data) (.ofDocument "content" [] d) = .ok (.newMap entries) ∧
      ∀ e ∈ entries, IsRooted sources e.2 := by
  have hput {pairs entries : List (Value × Value)} (hpairs : ∀ e ∈ pairs, IsRooted sources e.2)
      (hentries : ∀ e ∈ entries, IsRooted sources e.2) : ∀ e ∈ Value.putKeys pairs entries, IsRooted sources e.2 :=
    fun e he => (Value.forall_putKeys (P := fun _ => True) (fun e he => ⟨trivial, hpairs e he⟩)
      (fun e he => ⟨trivial, hentries e he⟩) e he).2
  have hbefore (fields : List (String × Document)) :
      ∀ e ∈ Value.ofEntries "data" [] 0 fields, IsRooted sources e.2 := isRooted_of_mem_ofEntries (by decide)
  have hnone : ∀ e ∈ ([] : List (Value × Value)), IsRooted sources e.2 := List.forall_mem_nil _
  cases d with
  | object contents =>
      have hcontents : ∀ e ∈ Value.ofEntries "content" [] 0 contents, IsRooted sources e.2 :=
        isRooted_of_mem_ofEntries (by decide)
      rcases hdata with rfl | ⟨fields, rfl⟩
      · exact ⟨_, rfl, hcontents⟩
      · cases fields with
        | nil => exact ⟨_, rfl, hcontents⟩
        | cons field fields => exact ⟨_, rfl, hput hcontents (hbefore (field :: fields))⟩
  | _ =>
      rcases hdata with rfl | ⟨fields, rfl⟩
      · exact ⟨_, rfl, hput hnone hnone⟩
      · cases fields with
        | nil => exact ⟨_, rfl, hput hnone hnone⟩
        | cons field fields => exact ⟨_, rfl, hput (hbefore (field :: fields)) hnone⟩

/-- A status of success accepts content that is there. -/
theorem exists_accepted {r : Response} {body : Document} (hcontent : r.content = .ok body)
    (hstatus : 200 ≤ r.status ∧ r.status < 300) :
    ∃ d, r.accepted = .ok d ∧ d = if r.status = 200 then body else .object [] := by
  by_cases h : r.status = 200
  · refine ⟨body, ?_, (if_pos h).symm⟩
    rw [accepted, if_pos (by simpa using h), hcontent]
    rfl
  · have hsuccess : isSuccessWithout r.status = true := by
      have hlt : 200 < r.status := by omega
      simp [isSuccessWithout, hlt, hstatus.2]
    refine ⟨.object [], ?_, (if_neg h).symm⟩
    rw [accepted, if_neg (by simpa using h), if_pos hsuccess]

/-- A rule whose path does not start at the content is apart from it. -/
theorem areApart_response (h : (segments rule.key).head? ≠ some "response") :
    AreApart (segments rule.key) ["response"] := by
  obtain ⟨first, rest, hfirst⟩ := List.exists_cons_of_ne_nil (segments_ne_nil rule.key)
  rw [hfirst] at h ⊢
  refine ⟨fun hprefix => h ?_, fun hprefix => h ?_⟩
  · rw [(List.cons_prefix_cons.1 hprefix).1]
    rfl
  · rw [← (List.cons_prefix_cons.1 hprefix).1]
    rfl

/-- The output before all rules. -/
def basicOutput (r : Response) (content : Value) : Value := .map (.placed "output" []) (r.basic content)

/-- The changes that plain rules make. -/
def changesBy (r : Response) (all content : Value) (rules : List Rule) : Except Fault Changes :=
  rules.foldlM (extractRule all content (r.basicOutput content)) []

theorem extract_eq {r : Response} {body d : Document} {data all : Value} (hcontent : r.content = .ok body)
    (haccepted : r.accepted = .ok d) (hall : pathData data (.ofDocument "content" [] d) = .ok all) (rules : List Rule) :
    r.extract data rules = ((r.changesBy all (.ofDocument "content" [] d) rules).mapError Error.fault).map
      fun changes => (r.basicOutput (.ofDocument "content" [] d)).settle changes := by
  unfold extract
  rw [isJson_of_content hcontent, haccepted]
  show (do
    let all ← (pathData data (.ofDocument "content" [] d)).mapError Error.fault
    let changes ← (r.changesBy all (.ofDocument "content" [] d) rules).mapError Error.fault
    pure ((r.basicOutput (.ofDocument "content" [] d)).settle changes)) = _
  rw [hall]
  show (Except.mapError Error.fault (r.changesBy all _ rules) >>= _) = _
  cases r.changesBy all (.ofDocument "content" [] d) rules <;> rfl

/-- What is left after plain rules: data and content are as they were, and the output has at each path what a rule put
there, if no later rule set a path that goes on from it or that it goes on from. -/
structure IsExtracted (r : Response) (data content all : Value) (rules : List Rule) (changes : Changes) : Prop where
  run : r.changesBy all content rules = .ok changes
  output : r.extract data rules = .ok ((r.basicOutput content).settle changes)
  data_eq : data.settle changes = data
  content_eq : content.settle changes = content
  response : walk ["response"] ((r.basicOutput content).settle changes) = .ok (some content)
  rule : ∀ front rule back v, rules = front ++ rule :: back → lookedUp all content rule = .ok v →
    (∀ later ∈ back, AreApart (segments later.key) (segments rule.key)) →
    walk (segments rule.key) ((r.basicOutput content).settle changes) = .ok (some v)

/-- Plain rules for a response of success whose body is JSON. Where no rule sets a path in the content that was put
into the output, or below a path at which an earlier rule put a map, data and content stay as they are, and the rules
do not meet. What cannot be looked up is the only fault. -/
theorem extract_separate {r : Response} {body data : Document} (hcontent : r.content = .ok body)
    (hstatus : 200 ≤ r.status ∧ r.status < 300) (hdata : data = .null ∨ ∃ fields, data = .object fields) :
    ∃ d all, r.accepted = .ok d ∧ d = (if r.status = 200 then body else .object []) ∧
      pathData (.ofDocument "data" [] data) (.ofDocument "content" [] d) = .ok all ∧
      ∀ rules : List Rule, (∀ rule ∈ rules, (segments rule.key).head? ≠ some "response") →
        NoneBelowMaps all (.ofDocument "content" [] d) rules →
        ((∀ rule ∈ rules, ∃ v, lookedUp all (.ofDocument "content" [] d) rule = .ok v) →
          ∃ changes, r.IsExtracted (.ofDocument "data" [] data) (.ofDocument "content" [] d) all rules changes) ∧
        ∀ front rule back f, rules = front ++ rule :: back →
          (∀ earlier ∈ front, ∃ v, lookedUp all (.ofDocument "content" [] d) earlier = .ok v) →
          lookedUp all (.ofDocument "content" [] d) rule = .error f →
          r.extract (.ofDocument "data" [] data) rules = .error (.fault f) := by
  obtain ⟨d, haccepted, hd⟩ := exists_accepted hcontent hstatus
  obtain ⟨entries, hall, hentries⟩ := exists_pathData hdata d
  refine ⟨d, .newMap entries, haccepted, hd, hall, fun rules hkeys hbelow => ?_⟩
  have hsource : IsRooted sources (.ofDocument "content" [] d) := ⟨"content", by decide, d, [], rfl⟩
  have hextract := extract_eq hcontent haccepted hall
  have hclear : ∀ rule ∈ rules, ∀ q, q = ["response"] → q <+: segments rule.key → q = segments rule.key := by
    rintro rule hrule _ rfl hprefix
    exact absurd hprefix (areApart_response (hkeys rule hrule)).2
  refine ⟨fun hvalues => ?_, fun front rule back f hsplit hvalues hf => ?_⟩
  · obtain ⟨places, wholes, changes, hrun, harranged, hkeeps, hsets⟩ :=
      exists_foldlM hentries hsource (arranged_basic r hsource) hvalues hclear hbelow
    have hspares := spares_sources harranged
    exact ⟨changes, {
      run := hrun
      output := by
        rw [hextract, changesBy, basicOutput, hrun]
        rfl
      data_eq := Value.settle_ofDocument (hspares "data" (by decide)) data
      content_eq := Value.settle_ofDocument (hspares "content" (by decide)) d
      response := (hkeeps _ _ (fun rule hrule => areApart_response (hkeys rule hrule))
        (.last (lookup_basic r _))).walk_settle harranged (settleAt_named harranged (Or.inr hsource))
      rule := fun front rule back v hsplit hv hback => (hsets front rule back v hsplit hv hback).walk_settle harranged
        (settleAt_named harranged (of_lookedUp hentries hsource hv)) }⟩
  · subst hsplit
    obtain ⟨places, wholes, changes, hrun, harranged, -, -⟩ :=
      exists_foldlM hentries hsource (arranged_basic r hsource) hvalues
        (fun earlier he => hclear earlier (List.mem_append_left _ he)) (List.pairwise_append.1 hbelow).1
    have hback : List.foldlM (extractRule (.newMap entries) (.ofDocument "content" [] d)
        (r.basicOutput (.ofDocument "content" [] d))) changes (rule :: back) = .error f := by
      rw [List.foldlM_cons, basicOutput, extractRule_eq hentries harranged, hf]
      rfl
    have hall : r.changesBy (.newMap entries) (.ofDocument "content" [] d) (front ++ rule :: back) = .error f := by
      rw [changesBy, List.foldlM_append, basicOutput, hrun]
      exact hback
    rw [hextract, hall]
    rfl

/-- Two paths in one map, and the content whole. -/
theorem extract_separate_token : ∃ all changes,
    (⟨200, "\x7b\"access_token\": \"t\"\x7d", []⟩ : Response).IsExtracted
        (.ofDocument "data" [] (.object [("form", .object [("user", .text "alice")])]))
        (.ofDocument "content" [] (.object [("access_token", .text "t")])) all
        [⟨"auth.token", "access_token", none⟩, ⟨"auth.user", "form.user", none⟩, ⟨"raw", "", none⟩] changes ∧
      walk ["auth", "user"] ((basicOutput ⟨200, "\x7b\"access_token\": \"t\"\x7d", []⟩
        (.ofDocument "content" [] (.object [("access_token", .text "t")]))).settle changes) =
          .ok (some (.text (.placed "data" [0, 0]) "alice")) := by
  have hread : Json.read "\x7b\"access_token\": \"t\"\x7d" = .ok (.object [("access_token", .text "t")]) := by cbv
  have hcontent : content ⟨200, "\x7b\"access_token\": \"t\"\x7d", []⟩ =
      .ok (.object [("access_token", .text "t")]) := by
    rw [content, show isBlank ⟨200, "\x7b\"access_token\": \"t\"\x7d", []⟩ = false by decide]
    exact hread
  obtain ⟨d, all, -, hd, hall, hrules⟩ := extract_separate hcontent ⟨by decide, by decide⟩
    (Or.inr ⟨[("form", .object [("user", .text "alice")])], rfl⟩)
  rw [if_pos rfl] at hd
  subst hd
  cases hall
  have htokenUser : AreApart (segments "auth.user") (segments "auth.token") := by decide
  have htokenRaw : AreApart (segments "raw") (segments "auth.token") := by decide
  have huserRaw : AreApart (segments "raw") (segments "auth.user") := by decide
  have hbelow (all content : Value) : NoneBelowMaps all content [⟨"auth.token", "access_token", none⟩,
      ⟨"auth.user", "form.user", none⟩, ⟨"raw", "", none⟩] :=
    .cons (List.forall_mem_cons.2 ⟨fun _ hprefix => absurd hprefix htokenUser.2,
      List.forall_mem_singleton.2 fun _ hprefix => absurd hprefix htokenRaw.2⟩)
      (.cons (List.forall_mem_singleton.2 fun _ hprefix => absurd hprefix huserRaw.2) (List.pairwise_singleton _ _))
  obtain ⟨changes, hextracted⟩ := (hrules [⟨"auth.token", "access_token", none⟩, ⟨"auth.user", "form.user", none⟩,
    ⟨"raw", "", none⟩] (List.forall_iff_forall_mem.1 (by decide)) (hbelow _ _)).1
      (List.forall_mem_cons.2 ⟨⟨.text (.placed "content" [0]) "t", by cbv⟩, List.forall_mem_cons.2
        ⟨⟨.text (.placed "data" [0, 0]) "alice", by cbv⟩, List.forall_mem_singleton.2 ⟨_, rfl⟩⟩⟩)
  exact ⟨_, changes, hextracted,
    hextracted.rule [_] ⟨"auth.user", "form.user", none⟩ [_] _ rfl (by cbv) (List.forall_mem_singleton.2 huserRaw)⟩

end Courier.Response
