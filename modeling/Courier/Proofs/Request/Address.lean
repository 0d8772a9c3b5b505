import Courier.Proofs.Step
import Courier.Proofs.Template.LiteralStart
import Courier.Proofs.Url.Composed
import Courier.Proofs.Url.Origin
import Courier.Proofs.Url.Query
import Courier.Request.Build

/-! The URL of a request: the parts of the rendered URL as they were, and a query that is read as the pairs of the
rendered one with those of the parameters behind. Where the URL of an endpoint starts with a literal origin, the request
goes to that origin, whatever the data, the rest of the URL, its query and its parameters are.

The query of the call is put behind the URL of the endpoint before that is split: where the URL has no fragment, its
pairs are found in the query, each name with its last value, unless a parameter sets the name. Where the URL has a
fragment, the query of the call becomes a part of that. -/

/-! ### Parts and query -/

namespace Courier.Request

open Courier.Language

/-- The key and the value of a parameter, rendered. -/
def renderedPair (data : Value) (p : EndpointParameter) : Step (String × String) := do
  return (← Step.text p.key data, ← Step.text p.value data)

/-- Puts a rendered pair into a query. -/
def putPair (query : List (String × String)) (p : EndpointParameter × String × String) : List (String × String) :=
  if p.2.2 != "" || p.1.required then putEntry p.2.1 p.2.2 query else query

/-- The parameters are rendered in their order, and then put into the query in that order. -/
theorem exists_renderedPairs {data : Value} {params : List EndpointParameter} {query merged : List (String × String)}
    {memory after : Memory}
    (h : Step.outcome (params.foldlM (withParameter data) query) memory = (.ok merged, after)) :
    ∃ pairs, Step.outcome (params.mapM (renderedPair data)) memory = (.ok pairs, after) ∧
      merged = (params.zip pairs).foldl putPair query := by
  induction params generalizing query memory with
  | nil =>
      cases h
      exact ⟨[], rfl, rfl⟩
  | cons p params ih =>
      rw [List.foldlM_cons] at h
      obtain ⟨next, between, hparam, hrest⟩ := Step.exists_of_outcome_bind_ok h
      obtain ⟨key, afterKey, hkey, hparam⟩ := Step.exists_of_outcome_bind_ok hparam
      obtain ⟨value, afterValue, hvalue, hparam⟩ := Step.exists_of_outcome_bind_ok hparam
      cases hparam
      obtain ⟨pairs, hpairs, rfl⟩ := ih hrest
      refine ⟨(key, value) :: pairs, ?_, rfl⟩
      have hpair : Step.outcome (renderedPair data p) memory = (.ok (key, value), between) := by
        rw [renderedPair, Step.outcome_bind_of_ok _ _ hkey, Step.outcome_bind_of_ok _ _ hvalue]
        rfl
      rw [List.mapM_cons, Step.outcome_bind_of_ok _ _ hpair, Step.outcome_bind_of_ok _ _ hpairs]
      rfl

/-- The URL of a request is put together of the parts of the rendered URL and a query of rendered pairs. -/
theorem exists_of_address {settings : Settings} {endpoint : Endpoint} {call : Call} {data : Value}
    {memory after : Memory} {url : String}
    (h : Step.outcome (address settings endpoint call data) memory = (.ok url, after)) :
    ∃ rendered between parts pairs query,
      Step.outcome (Step.text (urlTemplate settings endpoint call) data) memory = (.ok rendered, between) ∧
      Url.split rendered = .ok parts ∧
      Step.outcome (endpoint.params.mapM (renderedPair data)) between = (.ok pairs, after) ∧
      Url.writeQuery ((endpoint.params.zip pairs).foldl putPair (Url.queryMap (parts.query.getD ""))) = .ok query ∧
      url = ({ parts with query := some query } : Url.Address).toUrl := by
  obtain ⟨rendered, _, hrendered, hbehind⟩ := Step.exists_of_outcome_bind_ok h
  obtain ⟨parts, _, hsplit, hmerge⟩ := Step.exists_of_outcome_bind_ok hbehind
  obtain ⟨hparts, rfl⟩ := Step.of_outcome_lift_ok hsplit
  obtain ⟨merged, _, hmerged, hwritten⟩ := Step.exists_of_outcome_bind_ok hmerge
  obtain ⟨query, _, hwrite, hurl⟩ := Step.exists_of_outcome_bind_ok hwritten
  obtain ⟨hquery, rfl⟩ := Step.of_outcome_lift_ok hwrite
  cases hurl
  obtain ⟨pairs, hpairs, rfl⟩ := exists_renderedPairs hmerged
  exact ⟨rendered, _, parts, pairs, query, hrendered, hparts, hpairs, hquery, rfl⟩

theorem isLiteral_origin (o : Url.Origin) : Template.IsLiteral o.text := by
  have hnot {d : Char} (hd : Url.Origin.isSign d = false) (hmark : d ∉ [':', '/']) : d ∉ o.text := by
    simp only [List.mem_cons, List.not_mem_nil, or_false, not_or] at hmark
    simp only [Url.Origin.text, List.mem_append, List.mem_cons, List.not_mem_nil, or_false, not_or]
    have hscheme : d ∉ o.scheme := fun hin =>
      Url.Origin.ne_of_isSign (Url.Origin.isSign_of_small (o.schemes d hin)) hd rfl
    exact ⟨hscheme, hmark.1, hmark.2, hmark.2, o.not_mem_authority hd hmark.1, hmark.2⟩
  refine ⟨hnot rfl (by decide), hnot rfl (by decide), '/', ?_, by decide⟩
  have hlast : o.text = o.scheme ++ ':' :: '/' :: '/' :: o.authority ++ ['/'] := by simp [Url.Origin.text]
  rw [hlast, List.getLast?_concat]

theorem prefix_urlTemplate (settings : Settings) (endpoint : Endpoint) (call : Call) :
    (endpointUrl settings endpoint).toList <+: (urlTemplate settings endpoint call).toList := by
  unfold urlTemplate
  cases call.queryString with
  | none => exact List.prefix_refl _
  | some query =>
      simp only [String.toList_append, List.append_assoc]
      exact List.prefix_append _ _

theorem prefix_of_outcome_text {start : List Char} (h : Template.IsLiteral start) {source text : String}
    (hsource : start <+: source.toList) {data : Value} {memory after : Memory}
    (htext : Step.outcome (Step.text source data) memory = (.ok text, after)) : start <+: text.toList := by
  rw [Step.outcome_text] at htext
  rcases hresult : Mapping.text source data memory with ⟨_ | result, left⟩
  · rw [hresult] at htext
    cases htext
  · rw [hresult] at htext
    cases htext
    exact Template.prefix_of_text h hsource hresult

/-- The URL of a request starts with the literal origin of its endpoint, and is split into the parts of that origin. -/
theorem address_origin (o : Url.Origin) {settings : Settings} {endpoint : Endpoint} {call : Call} {data : Value}
    {memory after : Memory} {url : String} (horigin : o.text <+: (endpointUrl settings endpoint).toList)
    (h : Step.outcome (address settings endpoint call data) memory = (.ok url, after)) :
    o.text <+: url.toList ∧ ∃ parts, Url.split url = .ok parts ∧ parts.scheme = some (String.ofList o.scheme) ∧
      parts.user = none ∧ parts.password = none ∧ parts.host = some (String.ofList o.host) ∧
      parts.port = o.port.map String.ofList := by
  obtain ⟨rendered, _, parts, _, query, hrendered, hparts, -, hquery, rfl⟩ := exists_of_address h
  have hprefix := prefix_of_outcome_text (isLiteral_origin o)
    (horigin.trans (prefix_urlTemplate settings endpoint call)) hrendered
  exact o.split_withQuery hparts hprefix (Url.isQueryChar_of_writeQuery hquery)

/-- Signs of URLs behind the slash, in the path and in the query of the call, are no part of the authority. -/
theorem address_origin_signs :
    "http://h:8/".toList <+: "http://h:8/@u:1?x=%2F%2Fu%40e".toList ∧
      ∃ parts, Url.split "http://h:8/@u:1?x=%2F%2Fu%40e" = .ok parts ∧ parts.scheme = some "http" ∧
        parts.user = none ∧ parts.password = none ∧ parts.host = some "h" ∧ parts.port = some "8" := by
  have hslash : "http://h:8/@u:1".startsWith "/" = false := String.startsWith_string_eq_false_iff.2 (by decide)
  have hurl : endpointUrl .standard ⟨"GET", "http://h:8/@u:1", [], [], "", none⟩ = "http://h:8/@u:1" := by
    rw [endpointUrl, hslash]
    rfl
  have htemplate : urlTemplate .standard ⟨"GET", "http://h:8/@u:1", [], [], "", none⟩
      ⟨"e", none, none, some "x=//u@e"⟩ = "http://h:8/@u:1?x=//u@e" := by
    rw [urlTemplate, hurl]
    rfl
  have htext : Step.outcome (Step.text "http://h:8/@u:1?x=//u@e" .none) .empty =
      (.ok "http://h:8/@u:1?x=//u@e", .empty) := by rfl
  have hsplit : Url.split "http://h:8/@u:1?x=//u@e" =
      .ok ⟨some "http", none, none, some "h", some "8", some "/@u:1", some "x=//u@e", none⟩ := by decide
  have hmap : Url.queryMap "x=//u@e" = [("x", "//u@e")] := by decide +kernel
  have hquery : Url.writeQuery [("x", "//u@e")] = .ok "x=%2F%2Fu%40e" := by rfl
  have haddress : Step.outcome (address .standard ⟨"GET", "http://h:8/@u:1", [], [], "", none⟩
      ⟨"e", none, none, some "x=//u@e"⟩ .none) .empty = (.ok "http://h:8/@u:1?x=%2F%2Fu%40e", .empty) := by
    rw [address, htemplate, Step.outcome_bind_of_ok _ _ htext, hsplit, Step.lift_ok, pure_bind]
    simp only [Option.getD_some, List.foldlM_nil, pure_bind]
    rw [hmap, hquery, Step.lift_ok, pure_bind]
    rfl
  exact address_origin ⟨"http".toList, "h".toList, some "8".toList, by decide, List.all_eq_true.1 (by decide),
    List.all_eq_true.1 (by decide), fun p hp => by cases hp; exact ⟨by decide, List.all_eq_true.1 (by decide)⟩⟩
    (by rw [hurl]; decide) haddress

/-! ### Parameters in a query -/

/-- Whether a rendered parameter is put into the query. -/
def isPut (e : EndpointParameter × String × String) : Bool := e.2.2 != "" || e.1.required

theorem putPair_eq (query : List (String × String)) (e : EndpointParameter × String × String) :
    putPair query e = if isPut e then putEntry e.2.1 e.2.2 query else query := rfl

variable {rendered : List (EndpointParameter × String × String)}

/-- Parameters change nothing under other names than theirs. -/
theorem entryOf?_putPairs {key : String} (h : ∀ e ∈ rendered, isPut e → e.2.1 ≠ key) (query : List (String × String)) :
    entryOf? key (rendered.foldl putPair query) = entryOf? key query := by
  induction rendered generalizing query with
  | nil => rfl
  | cons e rendered ih =>
      rw [List.foldl_cons, ih fun f hf => h f (List.mem_cons_of_mem _ hf), putPair_eq]
      by_cases hput : isPut e = true
      · rw [if_pos hput, entryOf?_putEntry_of_ne (h e List.mem_cons_self hput).symm]
      · rw [if_neg hput]

theorem nodup_keys_putPairs {query : List (String × String)} (h : (query.map (·.1)).Nodup) :
    ((rendered.foldl putPair query).map (·.1)).Nodup := by
  induction rendered generalizing query with
  | nil => exact h
  | cons e rendered ih =>
      refine ih ?_
      rw [putPair_eq]
      split
      · exact nodup_keys_putEntry h
      · exact h

/-- A name that no parameter sets has one value, that of the query. -/
theorem mem_putPairs_iff {key value : String} (h : ∀ e ∈ rendered, isPut e → e.2.1 ≠ key) {query : List (String × String)}
    (hkeys : (query.map (·.1)).Nodup) (hentry : entryOf? key query = some value) (other : String) :
    (key, other) ∈ rendered.foldl putPair query ↔ other = value := by
  have hfound := (entryOf?_putPairs h query).trans hentry
  constructor
  · intro hin
    have hother := entryOf?_of_mem (nodup_keys_putPairs hkeys) hin
    exact Option.some.inj (hother.symm.trans hfound)
  · rintro rfl
    exact mem_of_entryOf? hfound

/-! ### The query of the call -/

variable {settings : Settings} {endpoint : Endpoint} {call : Call} {data : Value} {memory after : Memory} {url : String}

/-- A template without tags is rendered as it stands. -/
theorem outcome_text_of_not_mem {source : String} (h : '\x7b' ∉ source.toList) (data : Value) (memory : Memory) :
    Step.outcome (Step.text source data) memory = (.ok source, memory) := by
  have hplain : Template.isPlain source = true := by simpa [Template.isPlain] using h
  rw [Step.outcome_text, Mapping.text, Template.render, if_pos hplain]
  rfl

/-- Where the URL of an endpoint has no number sign, every name of the query of a literal call is found in the query of
the composed URL, with its last value and no other, unless a parameter sets it, and there is no fragment as before. Where
the URL has a number sign, the query of the call stands at the end of the fragment, and the query has the pairs of the
endpoint and of its parameters alone. -/
theorem address_queryString {pairs : List (String × String)}
    (hplain : '\x7b' ∉ (urlTemplate settings endpoint call).toList)
    (hpairs : ∀ p ∈ pairs, Url.IsQueryText p.1 ∧ Url.IsQueryText p.2)
    (hcall : call.queryString = some (Url.plainQuery pairs))
    (h : Step.outcome (address settings endpoint call data) memory = (.ok url, after)) :
    ∃ rendered, Step.outcome (endpoint.params.mapM (renderedPair data)) memory = (.ok rendered, after) ∧
      ('#' ∉ (endpointUrl settings endpoint).toList →
        Url.fragmentOf url = Url.fragmentOf (endpointUrl settings endpoint) ∧
        ∀ key value, lastOf? key pairs = some value →
          (∀ e ∈ endpoint.params.zip rendered, isPut e → e.2.1 ≠ key) →
          ∀ other, (key, other) ∈ Url.readQuery (Url.queryOf url) ↔ other = value) ∧
      ('#' ∈ (endpointUrl settings endpoint).toList →
        Url.fragmentOf url = Url.fragmentOf (endpointUrl settings endpoint) ++
          (if (endpointUrl settings endpoint).toList.contains '?' then "&" else "?") ++ Url.plainQuery pairs ∧
        Url.readQuery (Url.queryOf url) = (endpoint.params.zip rendered).foldl putPair
          (Url.queryMap (Url.queryOf (endpointUrl settings endpoint)))) := by
  obtain ⟨text, between, parts, rendered, query, htext, hparts, hrendered, hquery, rfl⟩ := exists_of_address h
  cases (outcome_text_of_not_mem hplain data memory).symm.trans htext
  have hmore : '#' ∉ (Url.plainQuery pairs).toList := Url.not_mem_plainQuery hpairs
  have htemplate : urlTemplate settings endpoint call = endpointUrl settings endpoint ++
      (if (endpointUrl settings endpoint).toList.contains '?' then "&" else "?") ++ Url.plainQuery pairs := by
    rw [urlTemplate, hcall]
  have hnone : '#' ∉ query.toList := fun hin => (Url.isQueryChar_bounds (Url.isQueryChar_of_writeQuery hquery _ hin)).2 rfl
  obtain ⟨hcomposed, hfragment⟩ := Url.queryOf_toUrl hparts hnone
  have hread := Url.readQuery_writeQuery hquery
  rw [← (Url.queryOf_of_split hparts).1] at hread
  rw [hcomposed, hfragment, hread]
  refine ⟨rendered, hrendered, fun hmark => ?_, fun hmark => ?_⟩
  · have hsign : '#' ∉ (if (endpointUrl settings endpoint).toList.contains '?' then "&" else "?").toList := by
      split <;> decide
    have htext : '#' ∉ (urlTemplate settings endpoint call).toList := by
      rw [htemplate, String.toList_append, String.toList_append, List.mem_append, List.mem_append]
      exact fun hin => hin.elim (fun hin => hin.elim hmark hsign) hmore
    have hpairsRead : Url.readQuery (Url.queryOf (urlTemplate settings endpoint call)) =
        Url.readQuery (Url.queryOf (endpointUrl settings endpoint)) ++ pairs := by
      rw [htemplate, Url.readQuery_queryOf_append hmark hmore, Url.readQuery_plainQuery hpairs]
    refine ⟨by rw [Url.fragmentOf_of_not_mem htext, Url.fragmentOf_of_not_mem hmark], fun key value hlast hput => ?_⟩
    refine mem_putPairs_iff hput (Url.nodup_keys_queryMap _) ?_
    rw [Url.queryMap, hpairsRead, putEntries_append, entryOf?_putEntries, hlast]
    rfl
  · rw [htemplate, String.append_assoc]
    obtain ⟨hqueryOf, hfragmentOf⟩ := Url.queryOf_append_of_mem hmark
      ((if (endpointUrl settings endpoint).toList.contains '?' then "&" else "?") ++ Url.plainQuery pairs)
    rw [hqueryOf, hfragmentOf, String.append_assoc]
    exact ⟨rfl, rfl⟩

/-- The query of the call has the last word over that of the endpoint, and a parameter is put behind the two. -/
theorem address_queryString_page :
    '#' ∉ "http://h/a?page=1".toList ∧
      ∀ other, ("page", other) ∈ Url.readQuery (Url.queryOf "http://h/a?page=3&k=v") ↔ other = "3" := by
  have hslash : "http://h/a?page=1".startsWith "/" = false := String.startsWith_string_eq_false_iff.2 (by decide)
  have hurl : endpointUrl .standard ⟨"GET", "http://h/a?page=1", [], [⟨"k", "v", false, ""⟩], "", none⟩ =
      "http://h/a?page=1" := by
    rw [endpointUrl, hslash]
    rfl
  have htemplate : urlTemplate .standard ⟨"GET", "http://h/a?page=1", [], [⟨"k", "v", false, ""⟩], "", none⟩
      ⟨"e", none, none, some "page=2&page=3"⟩ = "http://h/a?page=1&page=2&page=3" := by
    rw [urlTemplate, hurl]
    rfl
  have htext : Step.outcome (Step.text "http://h/a?page=1&page=2&page=3" .none) .empty =
      (.ok "http://h/a?page=1&page=2&page=3", .empty) := by rfl
  have hsplit : Url.split "http://h/a?page=1&page=2&page=3" =
      .ok ⟨some "http", none, none, some "h", none, some "/a", some "page=1&page=2&page=3", none⟩ := by decide
  have hmap : Url.queryMap "page=1&page=2&page=3" = [("page", "3")] := by decide +kernel
  have hparams : Step.outcome ([⟨"k", "v", false, ""⟩].foldlM (withParameter .none) [("page", "3")]) .empty =
      (.ok [("page", "3"), ("k", "v")], .empty) := by rfl
  have hquery : Url.writeQuery [("page", "3"), ("k", "v")] = .ok "page=3&k=v" := by rfl
  have haddress : Step.outcome (address .standard
      ⟨"GET", "http://h/a?page=1", [], [⟨"k", "v", false, ""⟩], "", none⟩ ⟨"e", none, none, some "page=2&page=3"⟩
        .none) .empty = (.ok "http://h/a?page=3&k=v", .empty) := by
    rw [address, htemplate, Step.outcome_bind_of_ok _ _ htext, hsplit, Step.lift_ok, pure_bind]
    simp only [Option.getD_some]
    rw [hmap, Step.outcome_bind_of_ok _ _ hparams, hquery, Step.lift_ok, pure_bind]
    rfl
  have hpairs : ∀ p ∈ [("page", "2"), ("page", "3")], Url.IsQueryText p.1 ∧ Url.IsQueryText p.2 := by
    simp only [List.forall_mem_cons]
    refine ⟨⟨?_, ?_⟩, ⟨?_, ?_⟩, List.forall_mem_nil _⟩
    all_goals exact Url.isQueryText_of_isAlphanum (List.all_iff_forall_prop.1 (by decide))
  obtain ⟨rendered, hrendered, hquery, -⟩ :=
    address_queryString (by rw [htemplate]; decide) hpairs (show some "page=2&page=3" = _ by rfl) haddress
  have hparam : Step.outcome ([⟨"k", "v", false, ""⟩].mapM (renderedPair .none)) .empty =
      (.ok [("k", "v")], .empty) := by rfl
  cases hparam.symm.trans hrendered
  rw [hurl] at hquery
  have hmark : '#' ∉ "http://h/a?page=1".toList := by decide
  refine ⟨hmark, (hquery hmark).2 "page" "3" rfl ?_⟩
  intro e he _
  rw [List.mem_singleton.1 he]
  decide

end Courier.Request
