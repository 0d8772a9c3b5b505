import Courier.Proofs.Request.Isolation
import Courier.Proofs.Tame.Runs

/-! Requests that are built without touching the caller's data. Where the texts of an endpoint and the rules of a call
change nothing by their form, no stage leaves a change behind, whether the building ends with a request or with an
error, so that all stages start from the same data. -/

namespace Courier

open Courier.Language

namespace Step

variable {α β : Type} {P : α → Prop} {Q : β → Prop}

/-- A step that leaves no change where there was none, and comes to something with a property unless it is an error. -/
def IsQuiet (P : α → Prop) (step : Step α) : Prop := (step.outcome .empty).2 = .empty ∧ Gives P (step.outcome .empty).1

theorem isQuiet_pure {a : α} (h : P a) : IsQuiet P (pure a) := ⟨rfl, gives_ok h⟩

theorem IsQuiet.bind {step : Step α} {next : α → Step β} (h : IsQuiet P step) (hnext : ∀ a, P a → IsQuiet Q (next a)) :
    IsQuiet Q (step >>= next) := by
  obtain ⟨hafter, hresult⟩ := h
  unfold IsQuiet
  rw [outcome_bind]
  rcases hstep : step.outcome .empty with ⟨e | a, after⟩
  · rw [hstep] at hafter
    exact ⟨hafter, gives_error e⟩
  · rw [hstep] at hafter hresult
    obtain rfl : after = .empty := hafter
    exact hnext a (hresult a rfl)

theorem isQuiet_lift {ε : Type} (cause : ε → Error) (r : Except ε α) : IsQuiet (fun _ => True) (lift cause r) := by
  unfold IsQuiet
  rw [outcome_lift]
  exact ⟨rfl, fun _ _ => trivial⟩

theorem isQuiet_settled (v : Value) : IsQuiet (· = v) (settled v) := ⟨rfl, gives_ok (Value.settle_nil v)⟩

/-- Quiet steps without regard to their results are kept in chains. -/
theorem isKept_isQuiet : IsKept fun step => step.IsQuiet fun _ => True where
  pure _ := isQuiet_pure trivial
  bind h hnext := h.bind fun a _ => hnext a
  settled _ := ⟨rfl, fun _ _ => trivial⟩
  fault := isQuiet_lift _
  encoding := isQuiet_lift _
  url := isQuiet_lift _

variable {data : Value} {source : String}

theorem isQuiet_text (h : Template.isQuiet source) (hdata : data.IsData) : IsQuiet (fun _ => True) (text source data) := by
  unfold IsQuiet
  rw [outcome_text]
  exact ⟨Mapping.text_of_isQuiet h hdata, fun _ _ => trivial⟩

theorem isQuiet_value {format : Mapping.Format} (h : Mapping.isQuiet format source data) (hdata : data.IsData)
    (root : String) (path : List Nat) : IsQuiet Value.IsDatum (value format source data root path) := by
  have hevaluating : IsQuiet (fun v => v.IsTame ∧ v.isInert) (evaluating (Mapping.evaluate format source data)) := by
    obtain ⟨hafter, hresult⟩ := Mapping.evaluate_of_isQuiet h hdata
    exact ⟨hafter, gives_mapError hresult⟩
  refine hevaluating.bind fun v hv => (isQuiet_settled v).bind ?_
  rintro _ rfl
  exact isQuiet_pure (Value.isDatum_place hv.1 hv.2 root path)

end Step

namespace Request

/-- All templates that are rendered for a request. -/
def templatesOf (settings : Settings) (endpoint : Endpoint) (call : Call) : List String :=
  [endpoint.method, urlTemplate settings endpoint call, endpoint.body] ++ endpoint.bodyType.toList ++
    (endpoint.params ++ endpoint.headers).flatMap (fun p => [p.key, p.value]) ++
    (call.outboundFor .header).map (·.key)

/-- Whether no text that is rendered or worked out for a request changes anything. -/
def isQuiet (settings : Settings) (endpoint : Endpoint) (call : Call) (data : Value) : Bool :=
  (templatesOf settings endpoint call).all Template.isQuiet &&
    (call.outbound.getD []).all fun r => Mapping.isQuiet r.resolvedFormat r.value data

variable {settings : Settings} {endpoint : Endpoint} {call : Call} {data prepared : Value} {stage : Stage}

theorem isQuiet_withRules (hdata : data.IsData) {rules : List OutboundRule}
    (h : ∀ r ∈ rules, Mapping.isQuiet r.resolvedFormat r.value data) {entries : List (Value × Value)}
    (hentries : ∀ e ∈ entries, e.2.IsDatum) :
    (withRules data stage rules entries).IsQuiet fun result => ∀ e ∈ result, e.2.IsDatum := by
  induction rules generalizing entries with
  | nil => exact Step.isQuiet_pure hentries
  | cons r rules ih =>
      rw [List.forall_mem_cons] at h
      refine (Step.isQuiet_value h.1 hdata _ _).bind fun v hv => ih h.2 ?_
      exact Value.forall_isDatum_putKey _ hv hentries

theorem isQuiet_stageData (hdata : data.IsData)
    (h : ∀ r ∈ call.outboundFor stage, Mapping.isQuiet r.resolvedFormat r.value data) :
    (stageData data call stage).IsQuiet Value.IsData := by
  refine (Step.isQuiet_settled data).bind ?_
  rintro _ rfl
  obtain ⟨identity, entries, rfl, hentries⟩ := id hdata
  refine Step.IsQuiet.bind (P := (· = entries)) ⟨rfl, gives_ok rfl⟩ ?_
  rintro _ rfl
  refine (isQuiet_withRules hdata h (Value.forall_isDatum_putKeys hentries (List.forall_mem_nil _))).bind fun result hresult => ?_
  exact Step.isQuiet_pure (Value.isData_newMap hresult)

theorem isQuiet_inStage {α : Type} {P : α → Prop} {step : Step α} (h : step.IsQuiet P) (stage : Stage) :
    (inStage stage step).IsQuiet P := by
  obtain ⟨hafter, hresult⟩ := h
  have hrun : step.outcome .empty = ((step.outcome .empty).1, .empty) := Prod.ext rfl hafter
  unfold Step.IsQuiet
  rw [outcome_inStage hrun]
  exact ⟨rfl, hresult⟩

/-! ### The texts of a stage -/

theorem mem_templatesOf_params {p : EndpointParameter} (hp : p ∈ endpoint.params) {source : String}
    (hsource : source ∈ [p.key, p.value]) : source ∈ templatesOf settings endpoint call :=
  List.mem_append_left _ (List.mem_append_right _ (List.mem_flatMap.2 ⟨p, List.mem_append_left _ hp, hsource⟩))

theorem mem_templatesOf_headers {p : EndpointParameter} (hp : p ∈ endpoint.headers) {source : String}
    (hsource : source ∈ [p.key, p.value]) : source ∈ templatesOf settings endpoint call :=
  List.mem_append_left _ (List.mem_append_right _ (List.mem_flatMap.2 ⟨p, List.mem_append_right _ hp, hsource⟩))

section

variable (h : ∀ source ∈ templatesOf settings endpoint call, (Step.text source data).IsQuiet fun _ => True)

include h

theorem isQuiet_methodAndAddress : (methodAndAddress settings endpoint call data).IsQuiet fun _ => True :=
  Step.isKept_isQuiet.methodAndAddress (h endpoint.method (by simp [templatesOf])) (h _ (by simp [templatesOf]))
    fun p hp => ⟨h p.key (mem_templatesOf_params hp (by simp)), h p.value (mem_templatesOf_params hp (by simp))⟩

theorem isQuiet_headersOf : (headersOf endpoint call data).IsQuiet fun _ => True := by
  refine Step.isKept_isQuiet.headersOf (fun p hp => ?_) fun r hr => ?_
  · exact ⟨h p.key (mem_templatesOf_headers hp (by simp)), h p.value (mem_templatesOf_headers hp (by simp))⟩
  · exact h r.key (List.mem_append_right _ (List.mem_map_of_mem hr))

theorem isQuiet_bodyOf : (bodyOf endpoint data).IsQuiet fun _ => True := by
  refine Step.isKept_isQuiet.bodyOf (h endpoint.body (by simp [templatesOf])) fun t ht => h t ?_
  simp [templatesOf, Option.mem_def.1 ht]

end

/-! ### Requests -/

/-- Texts that change nothing leave the caller's data as they are, whether the building ends with a request or with an
error, and each stage starts from that data. -/
theorem build_untouched {root : String} {entries : List (String × Document)}
    (h : isQuiet settings endpoint call (.ofDocument root [] (.object entries))) :
    ((build settings endpoint call (.ofDocument root [] (.object entries))).outcome .empty).2 = .empty ∧
      ∀ stage, IsUntouched settings endpoint call (.ofDocument root [] (.object entries)) stage := by
  simp only [isQuiet, Bool.and_eq_true, List.all_eq_true] at h
  obtain ⟨htexts, hrules⟩ := h
  have hdata := Value.isData_ofDocument root [] entries
  have hstage (stage : Stage) : (stageData (.ofDocument root [] (.object entries)) call stage).IsQuiet Value.IsData :=
    isQuiet_stageData hdata fun r hr => hrules r (List.mem_of_mem_filter hr)
  have htext {prepared : Value} (hprepared : prepared.IsData) (source : String)
      (hsource : source ∈ templatesOf settings endpoint call) : (Step.text source prepared).IsQuiet fun _ => True :=
    Step.isQuiet_text (htexts source hsource) hprepared
  have haddress {prepared : Value} (hprepared : prepared.IsData) :
      (inStage .param (methodAndAddress settings endpoint call prepared)).IsQuiet fun _ => True :=
    isQuiet_inStage (isQuiet_methodAndAddress (htext hprepared)) _
  have hheaders {prepared : Value} (hprepared : prepared.IsData) :
      (inStage .header (headersOf endpoint call prepared)).IsQuiet fun _ => True :=
    isQuiet_inStage (isQuiet_headersOf (htext hprepared)) _
  have hbody {prepared : Value} (hprepared : prepared.IsData) :
      (inStage .body (bodyOf endpoint prepared)).IsQuiet fun _ => True :=
    isQuiet_inStage (isQuiet_bodyOf (htext hprepared)) _
  constructor
  · have hbuild : (build settings endpoint call (.ofDocument root [] (.object entries))).IsQuiet fun _ => True := by
      refine (hstage .param).bind fun params hparams => (haddress hparams).bind fun address _ => ?_
      refine (hstage .header).bind fun headers hprepared => (hheaders hprepared).bind fun made _ => ?_
      exact (hstage .body).bind fun body hprepared => (hbody hprepared).bind fun _ _ => Step.isQuiet_pure trivial
    exact hbuild.1
  · intro stage
    have hupTo : (upTo settings endpoint call (.ofDocument root [] (.object entries)) stage).IsQuiet Value.IsData := by
      cases stage with
      | param => exact hstage .param
      | header =>
          refine (hstage .param).bind fun params hparams => (haddress hparams).bind fun address _ => ?_
          exact hstage .header
      | body =>
          refine (hstage .param).bind fun params hparams => (haddress hparams).bind fun address _ => ?_
          refine (hstage .header).bind fun headers hprepared => (hheaders hprepared).bind fun made _ => ?_
          exact hstage .body
    exact hupTo.1

/-- A list is left alone by a rule that reads it before a body shows it. -/
theorem build_untouched_items :
    isQuiet .standard ⟨"GET", "http://h/", [], [], "\x7b\x7b items \x7d\x7d", none⟩
        ⟨"e", some [⟨⟨"k", "items", some .formula⟩, .param⟩], none, none⟩
        (.ofDocument "data" [] (.object [("items", .list [])])) ∧
      ((build .standard ⟨"GET", "http://h/", [], [], "\x7b\x7b items \x7d\x7d", none⟩
        ⟨"e", some [⟨⟨"k", "items", some .formula⟩, .param⟩], none, none⟩
        (.ofDocument "data" [] (.object [("items", .list [])]))).outcome .empty).2 = .empty ∧
      ∀ stage, IsUntouched .standard ⟨"GET", "http://h/", [], [], "\x7b\x7b items \x7d\x7d", none⟩
        ⟨"e", some [⟨⟨"k", "items", some .formula⟩, .param⟩], none, none⟩
        (.ofDocument "data" [] (.object [("items", .list [])])) stage := by
  have hslash : "http://h/".startsWith "/" = false := String.startsWith_string_eq_false_iff.2 (by decide)
  have htemplate : urlTemplate .standard ⟨"GET", "http://h/", [], [], "\x7b\x7b items \x7d\x7d", none⟩
      ⟨"e", some [⟨⟨"k", "items", some .formula⟩, .param⟩], none, none⟩ = "http://h/" := by
    rw [urlTemplate, endpointUrl, hslash]
    rfl
  have hbody : Template.isQuiet "\x7b\x7b items \x7d\x7d" := by
    have hbrace : ∀ content ∈ Template.bareTexts (Template.cut "\x7b\x7b items \x7d\x7d".toList), '\x7b' ∉ content := by
      decide
    have hnames : Template.tagNames (Template.cut "\x7b\x7b items \x7d\x7d".toList) = ["items".toList] := by decide
    refine Template.isQuiet_of_tags (by decide) (fun content hcontent => ?_) (fun name hname => ?_)
    · exact Token.isPlain_of_not_mem (hbrace content hcontent)
    · rw [hnames] at hname
      rw [List.mem_singleton.1 hname]
      exact List.forall_iff_forall_mem.1 (by decide)
  have hrule : Formula.isQuiet "items" (.ofDocument "data" [] (.object [("items", .list [])])) :=
    Formula.KeyPath.isQuiet_text ⟨"items", [], by decide, by decide, by decide⟩ "data" (by decide) rfl (by simp)
  have hquiet : isQuiet .standard ⟨"GET", "http://h/", [], [], "\x7b\x7b items \x7d\x7d", none⟩
      ⟨"e", some [⟨⟨"k", "items", some .formula⟩, .param⟩], none, none⟩
      (.ofDocument "data" [] (.object [("items", .list [])])) := by
    have htexts : templatesOf .standard ⟨"GET", "http://h/", [], [], "\x7b\x7b items \x7d\x7d", none⟩
        ⟨"e", some [⟨⟨"k", "items", some .formula⟩, .param⟩], none, none⟩ =
        ["GET", "http://h/", "\x7b\x7b items \x7d\x7d"] := by
      rw [templatesOf, htemplate]
      rfl
    have hplain : Template.isQuiet "GET" ∧ Template.isQuiet "http://h/" := ⟨by rfl, by rfl⟩
    rw [isQuiet, htexts]
    simp only [hplain, hbody, List.all_cons, List.all_nil, Option.getD_some, Bool.and_true]
    exact hrule
  exact ⟨hquiet, build_untouched hquiet⟩

end Request

end Courier
