import Courier.Proofs.Language.Documents
import Courier.Proofs.Request.Parts
import Courier.Proofs.Step

/-! The stages of a request. Each of them sees the caller's data and the values of its own rules, so that as long as the
caller's data stays as it was, what a stage makes depends on the last rule of each key of that stage and on nothing else
of the call. -/

namespace Courier.Request

open Courier.Language

/-- The last rule of a stage under a key. -/
def lastRule? (call : Call) (stage : Stage) (key : String) : Option OutboundRule :=
  (call.outboundFor stage).reverse.find? fun r => r.key == key

/-- What a rule says of its key. -/
def contentOf (r : OutboundRule) : String × Mapping.Format := (r.value, r.resolvedFormat)

/-- Two calls say the same of every key in a stage: the last rules under it do, or there are none. -/
def SameRules (first second : Call) (stage : Stage) : Prop :=
  ∀ key, (lastRule? first stage key).map contentOf = (lastRule? second stage key).map contentOf

/-- The building of a request up to the texts of a stage, with the data that these see. -/
def upTo (settings : Settings) (endpoint : Endpoint) (call : Call) (data : Value) (stage : Stage) : Step Value :=
  match stage with
  | .param => stageData data call .param
  | .header => do
    let params ← stageData data call .param
    let _ ← inStage .param (methodAndAddress settings endpoint call params)
    stageData data call .header
  | .body => do
    let params ← stageData data call .param
    let _ ← inStage .param (methodAndAddress settings endpoint call params)
    let headers ← stageData data call .header
    let _ ← inStage .header (headersOf endpoint call headers)
    stageData data call .body

/-- When the texts of a stage are rendered, the caller's data is still as it was. -/
def IsUntouched (settings : Settings) (endpoint : Endpoint) (call : Call) (data : Value) (stage : Stage) : Prop :=
  ((upTo settings endpoint call data stage).outcome .empty).2 = .empty

variable {settings : Settings} {endpoint : Endpoint} {call : Call} {data : Value} {stage : Stage}

theorem IsUntouched.eq_empty {r : Except Error Value} {after : Memory}
    (h : IsUntouched settings endpoint call data stage)
    (hrun : (upTo settings endpoint call data stage).outcome .empty = (r, after)) : after = .empty := by
  rw [IsUntouched, hrun] at h
  exact h

/-- A request is put together of what the stages make, each of the data that it sees. -/
theorem exists_of_build {memory after : Memory} {r : Request}
    (h : (build settings endpoint call data).outcome memory = (.ok r, after)) :
    ∃ params atParams headers atHeaders body atBody,
      (upTo settings endpoint call data .param).outcome memory = (.ok params, atParams) ∧
      ((methodAndAddress settings endpoint call params).outcome atParams).1 = .ok (r.method, r.url) ∧
      (upTo settings endpoint call data .header).outcome memory = (.ok headers, atHeaders) ∧
      ((headersOf endpoint call headers).outcome atHeaders).1 = .ok r.headers ∧
      (upTo settings endpoint call data .body).outcome memory = (.ok body, atBody) ∧
      ((bodyOf endpoint body).outcome atBody).1 = .ok (r.body, r.bodyType) := by
  obtain ⟨params, atParams, hparams, h⟩ := Step.exists_of_outcome_bind_ok h
  obtain ⟨⟨method, url⟩, _, haddress, h⟩ := Step.exists_of_outcome_bind_ok h
  obtain ⟨headers, atHeaders, hheaders, h⟩ := Step.exists_of_outcome_bind_ok h
  obtain ⟨made, _, hmade, h⟩ := Step.exists_of_outcome_bind_ok h
  obtain ⟨body, atBody, hbody, h⟩ := Step.exists_of_outcome_bind_ok h
  obtain ⟨⟨text, type⟩, _, htext, h⟩ := Step.exists_of_outcome_bind_ok h
  cases h
  refine ⟨params, atParams, headers, atHeaders, body, atBody, hparams, congrArg Prod.fst haddress, ?_,
    congrArg Prod.fst hmade, ?_, congrArg Prod.fst htext⟩
  · rw [upTo, Step.outcome_bind_of_ok _ _ hparams, Step.outcome_bind_of_ok _ _ haddress, hheaders]
  · rw [upTo, Step.outcome_bind_of_ok _ _ hparams, Step.outcome_bind_of_ok _ _ haddress,
      Step.outcome_bind_of_ok _ _ hheaders, Step.outcome_bind_of_ok _ _ hmade, hbody]

/-- Texts that change nothing leave nothing to drop. -/
theorem outcome_inStage {α : Type} {step : Step α} {memory : Memory} {r : Except Error α}
    (h : step.outcome memory = (r, memory)) : (inStage stage step).outcome memory = (r, memory) := by
  change ((step.outcome memory).1, if _ then memory else (step.outcome memory).2) = _
  rw [h, ite_self]

/-! ### No step takes changes back -/

theorem isKept_keeps : Step.IsKept Step.Keeps where
  pure := Step.keeps_pure
  bind := Step.Keeps.bind
  settled := Step.keeps_settled
  fault := Step.keeps_lift _
  encoding := Step.keeps_lift _
  url := Step.keeps_lift _

theorem keeps_withRules (data : Value) (stage : Stage) (rules : List OutboundRule) (entries : List (Value × Value)) :
    (withRules data stage rules entries).Keeps :=
  isKept_keeps.withRules (fun _ => Step.keeps_value _ _ _ _ _) rules entries

theorem keeps_stageData (data : Value) (call : Call) (stage : Stage) : (stageData data call stage).Keeps :=
  isKept_keeps.stageData fun _ => Step.keeps_value _ _ _ _ _

/-- Where the data of a stage is made without changes, there were none before it. -/
theorem stageData_of_upTo {prepared : Value}
    (h : (upTo settings endpoint call data stage).outcome .empty = (.ok prepared, .empty)) :
    (stageData data call stage).outcome .empty = (.ok prepared, .empty) := by
  cases stage with
  | param => exact h
  | header =>
      obtain ⟨_, _, -, h⟩ := Step.exists_of_outcome_bind_ok h
      obtain ⟨_, before, -, h⟩ := Step.exists_of_outcome_bind_ok h
      obtain rfl := (keeps_stageData data call .header).eq_empty h
      exact h
  | body =>
      obtain ⟨_, _, -, h⟩ := Step.exists_of_outcome_bind_ok h
      obtain ⟨_, _, -, h⟩ := Step.exists_of_outcome_bind_ok h
      obtain ⟨_, _, -, h⟩ := Step.exists_of_outcome_bind_ok h
      obtain ⟨_, before, -, h⟩ := Step.exists_of_outcome_bind_ok h
      obtain rfl := (keeps_stageData data call .body).eq_empty h
      exact h

/-- What a stage does to the values of its own rules is dropped only where nothing was changed before. -/
theorem keeps_inStage {α : Type} {step : Step α} (h : step.Keeps) (stage : Stage) : (inStage stage step).Keeps := by
  intro memory hafter
  change (if _ then memory else (step.outcome memory).2) = .empty at hafter
  split at hafter
  · exact hafter
  · exact h memory hafter

theorem keeps_methodAndAddress (settings : Settings) (endpoint : Endpoint) (call : Call) (data : Value) :
    (methodAndAddress settings endpoint call data).Keeps :=
  isKept_keeps.methodAndAddress (Step.keeps_text _ _) (Step.keeps_text _ _) fun _ _ =>
    ⟨Step.keeps_text _ _, Step.keeps_text _ _⟩

theorem keeps_headersOf (endpoint : Endpoint) (call : Call) (data : Value) : (headersOf endpoint call data).Keeps :=
  isKept_keeps.headersOf (fun _ _ => ⟨Step.keeps_text _ _, Step.keeps_text _ _⟩) fun _ _ => Step.keeps_text _ _

theorem keeps_bodyOf (endpoint : Endpoint) (data : Value) : (bodyOf endpoint data).Keeps :=
  isKept_keeps.bodyOf (Step.keeps_text _ _) fun _ _ => Step.keeps_text _ _

/-- A request that is built without changing the caller's data was built on that data in every stage. -/
theorem isUntouched_of_build {r : Request}
    (h : (build settings endpoint call data).outcome .empty = (.ok r, .empty)) (stage : Stage) :
    IsUntouched settings endpoint call data stage := by
  obtain ⟨params, atParams, hparams, h⟩ := Step.exists_of_outcome_bind_ok h
  obtain ⟨⟨method, url⟩, atAddress, haddress, h⟩ := Step.exists_of_outcome_bind_ok h
  obtain ⟨headers, atHeaders, hheaders, h⟩ := Step.exists_of_outcome_bind_ok h
  obtain ⟨made, atMade, hmade, h⟩ := Step.exists_of_outcome_bind_ok h
  obtain ⟨body, atBody, hbody, h⟩ := Step.exists_of_outcome_bind_ok h
  obtain ⟨⟨text, type⟩, atText, htext, h⟩ := Step.exists_of_outcome_bind_ok h
  cases h
  -- from the end, where there are no changes, back to the start
  obtain rfl := (keeps_inStage (keeps_bodyOf endpoint body) .body).eq_empty htext
  obtain rfl := (keeps_stageData data call .body).eq_empty hbody
  obtain rfl := (keeps_inStage (keeps_headersOf endpoint call headers) .header).eq_empty hmade
  obtain rfl := (keeps_stageData data call .header).eq_empty hheaders
  obtain rfl := (keeps_inStage (keeps_methodAndAddress settings endpoint call params) .param).eq_empty haddress
  cases stage with
  | param => rw [IsUntouched, upTo, hparams]
  | header =>
      rw [IsUntouched, upTo, Step.outcome_bind_of_ok _ _ hparams, Step.outcome_bind_of_ok _ _ haddress, hheaders]
  | body =>
      rw [IsUntouched, upTo, Step.outcome_bind_of_ok _ _ hparams, Step.outcome_bind_of_ok _ _ haddress,
        Step.outcome_bind_of_ok _ _ hheaders, Step.outcome_bind_of_ok _ _ hmade, hbody]

/-! ### The data of a stage -/

/-- The value that a text comes to under a key of a stage, on data without changes. -/
def ruleValue (data : Value) (stage : Stage) (key : String) (content : String × Mapping.Format) : Value :=
  match ((Step.value content.2 content.1 data (placeOf stage) (pathOf key)).outcome .empty).1 with
  | .ok v => v
  | .error _ => .none

/-- The entries that rules put into the data of a stage. -/
def ruleEntries (data : Value) (stage : Stage) (rules : List OutboundRule) : List (String × Value) :=
  rules.map fun r => (r.key, ruleValue data stage r.key (contentOf r))

theorem lastOf?_ruleEntries (data : Value) (call : Call) (stage : Stage) (key : String) :
    lastOf? key (ruleEntries data stage (call.outboundFor stage)) =
      ((lastRule? call stage key).map contentOf).map (ruleValue data stage key) := by
  rw [lastOf?, ruleEntries, ← List.map_reverse, List.find?_map, lastRule?]
  show Option.map _ (Option.map _ (List.find? (fun r : OutboundRule => r.key == key) _)) = _
  cases hfound : (call.outboundFor stage).reverse.find? fun r => r.key == key with
  | none => rfl
  | some r =>
      have hkey := List.find?_some hfound
      obtain rfl := beq_iff_eq.1 hkey
      rfl

/-- Calls that say the same of every key put the same entries into the data, up to their order. -/
theorem ruleEntries_perm (data : Value) {first second : Call} {stage : Stage} {base : List (String × Value)}
    (hrules : SameRules first second stage) (hbase : (base.map (·.1)).Nodup) :
    (putEntries (ruleEntries data stage (first.outboundFor stage)) base).Perm
      (putEntries (ruleEntries data stage (second.outboundFor stage)) base) := by
  refine perm_of_entryOf? (nodup_keys_putEntries hbase) (nodup_keys_putEntries hbase) fun key => ?_
  rw [entryOf?_putEntries, entryOf?_putEntries, lastOf?_ruleEntries, lastOf?_ruleEntries, hrules key]

/-- Rules see the data as it was given, and put their values into it one after the other. -/
theorem eq_of_withRules {data : Value} {stage : Stage} {rules : List OutboundRule} {spelling : String → Identity}
    {entries : List (String × Value)} {result : List (Value × Value)}
    (hspelling : ∀ key, key ∈ entries.map (·.1) ∨ spelling key = .loose)
    (h : (withRules data stage rules (Value.named spelling entries)).outcome .empty = (.ok result, .empty)) :
    result = Value.named spelling (putEntries (ruleEntries data stage rules) entries) := by
  induction rules generalizing entries with
  | nil =>
      cases h
      rfl
  | cons r rules ih =>
      obtain ⟨v, between, hvalue, hrest⟩ := Step.exists_of_outcome_bind_ok h
      obtain rfl := (keeps_withRules data stage rules _).eq_empty hrest
      have hv : ruleValue data stage r.key (contentOf r) = v := by
        rw [ruleValue, contentOf, hvalue]
      rw [Value.newText, Value.putKey_named (hspelling r.key)] at hrest
      refine (ih (fun key => ?_) hrest).trans ?_
      · exact (hspelling key).imp_left mem_keys_putEntry_of_mem
      · rw [← hv]
        rfl

/-- The entries that all stages start from. A key of the data keeps its spelling, and the others are new texts. -/
theorem exists_base (root : String) (entries : List (String × Document)) :
    ∃ (spelling : String → Identity) (base : List (String × Value)), (base.map (·.1)).Nodup ∧
      (∀ key, key ∈ base.map (·.1) ∨ spelling key = .loose) ∧
      Value.putKeys (Value.ofEntries root [] 0 entries) [] = Value.named spelling base := by
  obtain ⟨pairs, hpairs, -⟩ := Value.exists_ofEntries_eq root [] 0 entries
  refine ⟨fun key => if key ∈ (putEntries pairs []).map (·.1) then .placed root [] else .loose, putEntries pairs [],
    nodup_keys_putEntries List.nodup_nil, fun key => ?_, ?_⟩
  · by_cases hkey : key ∈ (putEntries pairs []).map (·.1)
    · exact Or.inl hkey
    · exact Or.inr (if_neg hkey)
  · rw [hpairs]
    refine (Value.putKeys_named pairs []).trans (List.map_congr_left fun e he => ?_)
    dsimp only
    rw [if_pos (List.mem_map_of_mem he)]

/-- The data of a stage is the caller's with the values of the rules of that stage. -/
theorem exists_eq_of_stageData (root : String) (entries : List (String × Document)) :
    ∃ (spelling : String → Identity) (base : List (String × Value)), (base.map (·.1)).Nodup ∧
      ∀ {call : Call} {stage : Stage} {prepared : Value},
        (stageData (.ofDocument root [] (.object entries)) call stage).outcome .empty = (.ok prepared, .empty) →
        prepared = .newMap (Value.named spelling
          (putEntries (ruleEntries (.ofDocument root [] (.object entries)) stage (call.outboundFor stage)) base)) := by
  obtain ⟨spelling, base, hbase, hspelling, hentries⟩ := exists_base root entries
  refine ⟨spelling, base, hbase, fun {call stage prepared} h => ?_⟩
  obtain ⟨_, _, hsettled, h⟩ := Step.exists_of_outcome_bind_ok h
  cases hsettled
  obtain ⟨given, _, hgiven, h⟩ := Step.exists_of_outcome_bind_ok h
  obtain ⟨hgiven, rfl⟩ := Step.of_outcome_lift_ok hgiven
  obtain ⟨result, _, hresult, h⟩ := Step.exists_of_outcome_bind_ok h
  cases h
  cases hgiven
  rw [hentries] at hresult
  rw [eq_of_withRules hspelling hresult]

/-- Texts see the data of a stage alike in two calls that say the same of every key in that stage. -/
theorem text_stageData {root : String} {entries : List (String × Document)} {first second : Call} {stage : Stage}
    {prepared other : Value} (hrules : SameRules first second stage)
    (hfirst : (stageData (.ofDocument root [] (.object entries)) first stage).outcome .empty = (.ok prepared, .empty))
    (hsecond : (stageData (.ofDocument root [] (.object entries)) second stage).outcome .empty = (.ok other, .empty))
    (source : String) : Step.text source prepared = Step.text source other := by
  obtain ⟨spelling, base, hbase, hprepared⟩ := exists_eq_of_stageData root entries
  obtain rfl := hprepared hfirst
  obtain rfl := hprepared hsecond
  have hperm := ruleEntries_perm (.ofDocument root [] (.object entries)) hrules hbase
  exact Step.text_congr (Template.render_perm (nodup_keys_putEntries hbase) hperm source)

/-! ### What a stage makes -/

theorem methodAndAddress_congr (settings : Settings) (endpoint : Endpoint) {first second : Call} {data other : Value}
    (hquery : first.queryString = second.queryString)
    (htext : ∀ source, Step.text source data = Step.text source other) :
    methodAndAddress settings endpoint first data = methodAndAddress settings endpoint second other := by
  have htemplate : urlTemplate settings endpoint first = urlTemplate settings endpoint second := by
    rw [urlTemplate, urlTemplate, hquery]
  have hparameter : withParameter data = withParameter other := by
    funext query p
    rw [withParameter, withParameter, htext, htext]
  rw [methodAndAddress, methodAndAddress, address, address, htext, htext, htemplate, hparameter]

theorem bodyOf_congr (endpoint : Endpoint) {data other : Value}
    (htext : ∀ source, Step.text source data = Step.text source other) :
    bodyOf endpoint data = bodyOf endpoint other := by
  have htexts : (fun t => Step.text t data) = fun t => Step.text t other := funext htext
  rw [bodyOf, bodyOf, htext, htexts]

theorem headersOf_congr (endpoint : Endpoint) {first second : Call} (data : Value) (hfirst : first.outbound.isSome)
    (hsecond : second.outbound.isSome) (hrules : first.outboundFor .header = second.outboundFor .header) :
    headersOf endpoint first data = headersOf endpoint second data := by
  have hnone (call : Call) (h : call.outbound.isSome) : call.outbound.isNone = false := by
    rw [← Option.not_isSome, h]
    rfl
  rw [headersOf, headersOf, hnone first hfirst, hnone second hsecond, hrules]

theorem stageData_congr (data : Value) {first second : Call} {stage : Stage}
    (hrules : first.outboundFor stage = second.outboundFor stage) :
    stageData data first stage = stageData data second stage := by
  rw [stageData, stageData, hrules]

/-- The stages of a request are isolated from each other: as long as no text before its own ones has changed the
caller's data, what a stage makes depends on the last rule of each key of that stage and on nothing else of the call. -/
theorem build_isolated {first second : Call} {root : String} {entries : List (String × Document)} {r s : Request}
    {after after' : Memory} (hdata : data = .ofDocument root [] (.object entries))
    (hquery : first.queryString = second.queryString) (hfirst : first.outbound.isSome)
    (hsecond : second.outbound.isSome)
    (hr : (build settings endpoint first data).outcome .empty = (.ok r, after))
    (hs : (build settings endpoint second data).outcome .empty = (.ok s, after')) :
    (IsUntouched settings endpoint first data .param → IsUntouched settings endpoint second data .param →
      SameRules first second .param → r.method = s.method ∧ r.url = s.url) ∧
    (IsUntouched settings endpoint first data .header → IsUntouched settings endpoint second data .header →
      first.outboundFor .header = second.outboundFor .header → r.headers = s.headers) ∧
    (IsUntouched settings endpoint first data .body → IsUntouched settings endpoint second data .body →
      SameRules first second .body → r.body = s.body ∧ r.bodyType = s.bodyType) := by
  subst hdata
  obtain ⟨params, _, headers, _, body, _, hparams, haddress, hheaders, hmade, hbody, htext⟩ := exists_of_build hr
  obtain ⟨params', _, headers', _, body', _, hparams', haddress', hheaders', hmade', hbody', htext'⟩ :=
    exists_of_build hs
  refine ⟨fun hfree hfree' hrules => ?_, fun hfree hfree' hrules => ?_, fun hfree hfree' hrules => ?_⟩
  · obtain rfl := hfree.eq_empty hparams
    obtain rfl := hfree'.eq_empty hparams'
    rw [methodAndAddress_congr settings endpoint hquery
      (text_stageData hrules (stageData_of_upTo hparams) (stageData_of_upTo hparams'))] at haddress
    exact Prod.mk.inj (Except.ok.inj (haddress.symm.trans haddress'))
  · obtain rfl := hfree.eq_empty hheaders
    obtain rfl := hfree'.eq_empty hheaders'
    have hdata := stageData_of_upTo hheaders
    rw [stageData_congr _ hrules] at hdata
    cases hdata.symm.trans (stageData_of_upTo hheaders')
    rw [headersOf_congr endpoint headers hfirst hsecond hrules] at hmade
    exact Except.ok.inj (hmade.symm.trans hmade')
  · obtain rfl := hfree.eq_empty hbody
    obtain rfl := hfree'.eq_empty hbody'
    rw [bodyOf_congr endpoint (text_stageData hrules (stageData_of_upTo hbody) (stageData_of_upTo hbody'))] at htext
    exact Prod.mk.inj (Except.ok.inj (htext.symm.trans htext'))

/-- Rules under different keys in another order, one of them behind an earlier rule of its key, make the same request. -/
theorem build_isolated_order :
    ∃ r s,
      (build .standard ⟨"GET", "http://h/", [], [], "", none⟩
        ⟨"e", some [⟨⟨"a", "1", some .template⟩, .param⟩, ⟨⟨"b", "2", some .template⟩, .param⟩,
          ⟨⟨"k", "v", some .template⟩, .body⟩], none, none⟩
        (.ofDocument "data" [] (.object []))).outcome .empty = (.ok r, .empty) ∧
      (build .standard ⟨"GET", "http://h/", [], [], "", none⟩
        ⟨"e", some [⟨⟨"b", "2", some .template⟩, .param⟩, ⟨⟨"k", "v", some .template⟩, .body⟩,
          ⟨⟨"a", "0", some .template⟩, .param⟩, ⟨⟨"a", "1", some .template⟩, .param⟩], none, none⟩
        (.ofDocument "data" [] (.object []))).outcome .empty = (.ok s, .empty) ∧
      (r.method = s.method ∧ r.url = s.url) ∧ r.headers = s.headers ∧ r.body = s.body ∧ r.bodyType = s.bodyType := by
  have hslash : "http://h/".startsWith "/" = false := String.startsWith_string_eq_false_iff.2 (by decide)
  have hsplit : Url.split "http://h/" = .ok ⟨some "http", none, none, some "h", none, some "/", none, none⟩ := by decide
  have hmap : Url.queryMap "" = [] := by decide +kernel
  have htext (data : Value) (memory : Memory) :
      (Step.text "http://h/" data).outcome memory = (.ok "http://h/", memory) := by rfl
  have hmethod (data : Value) (memory : Memory) : (Step.text "GET" data).outcome memory = (.ok "GET", memory) := by rfl
  have haddress (call : Call) (hquery : call.queryString = none) (data : Value) (memory : Memory) :
      (inStage .param (methodAndAddress .standard ⟨"GET", "http://h/", [], [], "", none⟩ call data)).outcome memory =
        (.ok ("GET", "http://h/"), memory) := by
    have htemplate : urlTemplate .standard ⟨"GET", "http://h/", [], [], "", none⟩ call = "http://h/" := by
      rw [urlTemplate, endpointUrl, hslash, hquery]
      rfl
    refine outcome_inStage ?_
    rw [methodAndAddress, Step.outcome_bind_of_ok _ _ (hmethod data memory), address, htemplate, bind_assoc,
      Step.outcome_bind_of_ok _ _ (htext data memory), hsplit, Step.lift_ok, pure_bind]
    simp only [Option.getD_none, List.foldlM_nil, pure_bind]
    rw [hmap]
    rfl
  have hbuild (call : Call) (hquery : call.queryString = none) {params headers body : Value}
      (hparams : (stageData (.ofDocument "data" [] (.object [])) call .param).outcome .empty = (.ok params, .empty))
      (hheaders : (stageData (.ofDocument "data" [] (.object [])) call .header).outcome .empty = (.ok headers, .empty))
      (hmade : (inStage .header (headersOf ⟨"GET", "http://h/", [], [], "", none⟩ call headers)).outcome .empty =
        (.ok defaultHeaders, .empty))
      (hbody : (stageData (.ofDocument "data" [] (.object [])) call .body).outcome .empty = (.ok body, .empty)) :
      (build .standard ⟨"GET", "http://h/", [], [], "", none⟩ call (.ofDocument "data" [] (.object []))).outcome
        .empty = (.ok ⟨"GET", "http://h/", defaultHeaders, "", none⟩, .empty) := by
    rw [build, Step.outcome_bind_of_ok _ _ hparams, Step.outcome_bind_of_ok _ _ (haddress call hquery params .empty)]
    simp only
    rw [Step.outcome_bind_of_ok _ _ hheaders, Step.outcome_bind_of_ok _ _ hmade, Step.outcome_bind_of_ok _ _ hbody]
    rfl
  have hr := hbuild ⟨"e", some [⟨⟨"a", "1", some .template⟩, .param⟩, ⟨⟨"b", "2", some .template⟩, .param⟩,
    ⟨⟨"k", "v", some .template⟩, .body⟩], none, none⟩ rfl rfl rfl rfl rfl
  have hs := hbuild ⟨"e", some [⟨⟨"b", "2", some .template⟩, .param⟩, ⟨⟨"k", "v", some .template⟩, .body⟩,
    ⟨⟨"a", "0", some .template⟩, .param⟩, ⟨⟨"a", "1", some .template⟩, .param⟩], none, none⟩ rfl rfl rfl rfl rfl
  obtain ⟨hparam, hheader, hbody⟩ := build_isolated rfl (by rfl) (by rfl) (by rfl) hr hs
  refine ⟨_, _, hr, hs, hparam (isUntouched_of_build hr _) (isUntouched_of_build hs _) fun key => ?_,
    hheader (isUntouched_of_build hr _) (isUntouched_of_build hs _) (by rfl),
    hbody (isUntouched_of_build hr _) (isUntouched_of_build hs _) fun key => rfl⟩
  show (List.find? _ [_, _]).map contentOf = (List.find? _ [_, _, _]).map contentOf
  by_cases ha : "a" = key
  · subst ha
    rfl
  · by_cases hb : "b" = key
    · subst hb
      rfl
    · simp [ha, hb]

end Courier.Request
