import Courier.Request.Build

/-! What all parts of a request have in common. Each part is a chain of templates that are rendered, of values that are
settled and of results that can be refused, so that a property of steps that these have and that chains keep is one of
every part. -/

namespace Courier

open Courier.Language

/-- A property of steps that is kept where they are chained, and that the steps without a template in them have. -/
structure Step.IsKept (Q : {α : Type} → Step α → Prop) : Prop where
  pure : ∀ {α : Type} (a : α), Q (pure a)
  bind : ∀ {α β : Type} {step : Step α} {next : α → Step β}, Q step → (∀ a, Q (next a)) → Q (step >>= next)
  settled : ∀ v, Q (Step.settled v)
  fault : ∀ {α : Type} (r : Except Fault α), Q (Step.lift .fault r)
  encoding : ∀ {α : Type} (r : Except Text.EncodingFault α), Q (Step.lift .encoding r)
  url : ∀ r : Except Url.Fault Url.Address, Q (Step.lift Request.urlError r)

namespace Step.IsKept

open Courier.Request

variable {Q : {α : Type} → Step α → Prop} (hQ : IsKept Q)

include hQ

theorem foldlM {α β : Type} {f : β → α → Step β} {as : List α} (h : ∀ b, ∀ a ∈ as, Q (f b a)) (b : β) :
    Q (as.foldlM f b) := by
  induction as generalizing b with
  | nil => exact hQ.pure b
  | cons a as ih =>
      rw [List.foldlM_cons]
      exact hQ.bind (h b a List.mem_cons_self) fun b => ih (fun b a ha => h b a (List.mem_cons_of_mem _ ha)) b

variable {settings : Settings} {endpoint : Endpoint} {call : Call} {data : Value} {stage : Stage}

theorem withRules (h : ∀ r : OutboundRule, Q (Step.value r.resolvedFormat r.value data (placeOf stage) (pathOf r.key)))
    (rules : List OutboundRule) (entries : List (Value × Value)) : Q (withRules data stage rules entries) := by
  induction rules generalizing entries with
  | nil => exact hQ.pure entries
  | cons r rules ih => exact hQ.bind (h r) fun v => ih _

/-- The data of a stage is made of the values of its rules. -/
theorem stageData
    (h : ∀ r : OutboundRule, Q (Step.value r.resolvedFormat r.value data (placeOf stage) (pathOf r.key))) :
    Q (stageData data call stage) := by
  refine hQ.bind (hQ.settled data) fun v => hQ.bind (hQ.fault _) fun entries => ?_
  exact hQ.bind (hQ.withRules h _ _) fun _ => hQ.pure _

theorem methodAndAddress (hmethod : Q (Step.text endpoint.method data))
    (hurl : Q (Step.text (urlTemplate settings endpoint call) data))
    (hparams : ∀ p ∈ endpoint.params, Q (Step.text p.key data) ∧ Q (Step.text p.value data)) :
    Q (methodAndAddress settings endpoint call data) := by
  refine hQ.bind hmethod fun method => hQ.bind ?_ fun url => hQ.pure _
  refine hQ.bind hurl fun text => hQ.bind (hQ.url _) fun parts => ?_
  refine hQ.bind (hQ.foldlM (fun query p hp => ?_) _) fun query => hQ.bind (hQ.encoding _) fun _ => hQ.pure _
  exact hQ.bind (hparams p hp).1 fun _ => hQ.bind (hparams p hp).2 fun _ => hQ.pure _

theorem computedHeader (key : String) : Q (computedHeader data key) :=
  hQ.bind (hQ.settled _) fun _ => hQ.fault _

theorem withDeclared {p : EndpointParameter} (h : Q (Step.text p.key data) ∧ Q (Step.text p.value data))
    (computed : List String) (headers : List (String × String)) : Q (withDeclared data computed headers p) := by
  refine hQ.bind h.1 fun name => ?_
  dsimp only
  split
  · exact hQ.bind (hQ.computedHeader _) fun _ => hQ.pure _
  · exact hQ.bind h.2 fun _ => hQ.pure _

theorem headersOf (hheaders : ∀ p ∈ endpoint.headers, Q (Step.text p.key data) ∧ Q (Step.text p.value data))
    (hrules : ∀ r ∈ call.outboundFor .header, Q (Step.text r.key data)) : Q (headersOf endpoint call data) := by
  have hcomputed (headers : List (String × String)) (key : String) (hkey : Q (Step.text key data)) :
      Q (withComputed data headers key) :=
    hQ.bind hkey fun _ => hQ.bind (hQ.computedHeader key) fun _ => hQ.pure _
  unfold Request.headersOf
  split
  · exact hQ.foldlM (fun headers p hp => hQ.withDeclared (hheaders p hp) _ _) _
  · refine hQ.bind (hQ.foldlM (fun headers p hp => ?_) _) fun declared => hQ.foldlM (fun headers key hkey => ?_) _
    · exact hQ.withDeclared (hheaders p (List.mem_filter.1 hp).1) _ _
    · obtain ⟨r, hr, rfl⟩ := List.mem_map.1 (List.mem_filter.1 hkey).1
      exact hcomputed headers r.key (hrules r hr)

theorem bodyOf (hbody : Q (Step.text endpoint.body data)) (htype : ∀ t ∈ endpoint.bodyType, Q (Step.text t data)) :
    Q (bodyOf endpoint data) := by
  refine hQ.bind hbody fun body => hQ.bind ?_ fun _ => hQ.pure _
  cases h : endpoint.bodyType with
  | none => exact hQ.pure _
  | some t => exact hQ.bind (htype t h) fun _ => hQ.pure _

end Step.IsKept

end Courier
