import Courier.Proofs.Engine
import Courier.Proofs.Request.Parts

/-! The errors that the parts of a call can end with. A missing token is an error of authorization alone, and only where
the source asks for tokens. -/

namespace Courier

open Courier.Language Courier.Exchange

section

variable {ε α β σ : Type} {P : ε → Prop}

/-- Whatever error a program ends with, it has a property. -/
def Raises (P : ε → Prop) (step : ExceptT ε (StateM σ) α) : Prop := ∀ s e after, comesTo step s = (.error e, after) → P e

theorem raises_pure (a : α) : Raises P (pure a : ExceptT ε (StateM σ) α) := nofun

theorem Raises.bind {step : ExceptT ε (StateM σ) α} {next : α → ExceptT ε (StateM σ) β} (h : Raises P step)
    (hnext : ∀ a, Raises P (next a)) : Raises P (step >>= next) := by
  intro s e after hrun
  rw [comesTo_bind] at hrun
  rcases hstep : comesTo step s with ⟨f | a, between⟩
  · rw [hstep] at hrun
    cases hrun
    exact h s _ _ hstep
  · rw [hstep] at hrun
    exact hnext a between e after hrun

theorem Raises.foldlM {f : β → α → ExceptT ε (StateM σ) β} (h : ∀ b a, Raises P (f b a)) (as : List α) (b : β) :
    Raises P (as.foldlM f b) := by
  induction as generalizing b with
  | nil => exact raises_pure b
  | cons a as ih =>
      rw [List.foldlM_cons]
      exact (h b a).bind ih

theorem Raises.mono {Q : ε → Prop} {step : ExceptT ε (StateM σ) α} (h : Raises P step) (hPQ : ∀ e, P e → Q e) :
    Raises Q step :=
  fun s e after hrun => hPQ e (h s e after hrun)

/-- Whatever error stands in the place of a result, it has a property. -/
def Fails (P : ε → Prop) (r : Except ε α) : Prop := ∀ e, r = .error e → P e

theorem fails_ok (a : α) : Fails P (.ok a) := nofun

theorem fails_error {e : ε} (h : P e) : Fails P (.error e : Except ε α) := by
  rintro _ ⟨⟩
  exact h

theorem Fails.bind {r : Except ε α} {next : α → Except ε β} (h : Fails P r) (hnext : ∀ a, Fails P (next a)) :
    Fails P (r >>= next) := by
  cases r with
  | error e => exact fails_error (h e rfl)
  | ok a => exact hnext a

theorem Fails.mapError {δ : Type} {Q : δ → Prop} {r : Except δ α} {cause : δ → ε} (h : Fails Q r)
    (hcause : ∀ d, Q d → P (cause d)) : Fails P (r.mapError cause) := by
  cases r with
  | ok a => exact fails_ok a
  | error d => exact fails_error (hcause d (h d rfl))

theorem Fails.mono {Q : ε → Prop} {r : Except ε α} (h : Fails P r) (hPQ : ∀ e, P e → Q e) : Fails Q r :=
  fun e he => hPQ e (h e he)

/-- A result that does not depend on the state ends with no other error than its own. -/
theorem raises_lift {r : Except ε α} (h : Fails P r) : Raises P (liftM r : ExceptT ε (StateM σ) α) := by
  intro s e after hrun
  cases r with
  | ok a => cases hrun
  | error f =>
      cases hrun
      exact h _ rfl

end

namespace Error

/-- The errors of the library itself. The others are those of values, of encodings and of the network. -/
def isOwn : Error → Bool
  | malformedUrl _ | unknownEndpoint _ | refused _ | noToken _ _ => true
  | _ => false

/-- The error of an answer without a token. -/
def lacksToken : Error → Bool
  | noToken _ _ => true
  | _ => false

/-- Every error but that of an answer without a token. -/
def IsOther (e : Error) : Prop := e.lacksToken = false

theorem fails_mapError {δ α : Type} (cause : δ → Error) (h : ∀ d, (cause d).lacksToken = false) (r : Except δ α) :
    Fails IsOther (r.mapError cause) :=
  Fails.mapError (Q := fun _ => True) (fun _ _ => trivial) fun d _ => h d

end Error

/-! ### Building -/

namespace Step

theorem raises_lift {ε α : Type} (cause : ε → Error) (h : ∀ f, (cause f).lacksToken = false) (r : Except ε α) :
    Raises Error.IsOther (Step.lift cause r) :=
  Courier.raises_lift (Error.fails_mapError cause h r)

/-- What a text or a rule raises is a fault. -/
theorem raises_evaluating {α : Type} (run : Memory → Except Fault α × Memory) :
    Raises Error.IsOther (Step.evaluating run) := by
  intro memory e after hrun
  exact Error.fails_mapError .fault (fun _ => rfl) (run memory).1 e (congrArg Prod.fst hrun)

theorem raises_settled (v : Value) : Raises Error.IsOther (Step.settled v) := nofun

theorem raises_value (format : Mapping.Format) (source : String) (data : Value) (root : String) (path : List Nat) :
    Raises Error.IsOther (Step.value format source data root path) :=
  (raises_evaluating _).bind fun v => (raises_settled v).bind fun _ => raises_pure _

theorem isKept_raises : IsKept (Raises Error.IsOther) where
  pure := raises_pure
  bind := Raises.bind
  settled := raises_settled
  fault := raises_lift .fault fun _ => rfl
  encoding := raises_lift .encoding fun _ => rfl
  url := raises_lift _ (by rintro (_ | _ | _) <;> rfl)

end Step

namespace Request

theorem raises_inStage {α : Type} {step : Step α} (h : Raises Error.IsOther step) (stage : Stage) :
    Raises Error.IsOther (inStage stage step) := by
  intro memory e after hrun
  have hresult : (comesTo step memory).1 = .error e := congrArg Prod.fst hrun
  exact h memory e _ (Prod.ext hresult rfl)

/-- Building a request asks for no token. -/
theorem raises_build (settings : Settings) (endpoint : Endpoint) (call : Call) (data : Value) :
    Raises Error.IsOther (build settings endpoint call data) := by
  have htext (source : String) (data : Value) : Raises Error.IsOther (Step.text source data) :=
    Step.raises_evaluating _
  have hdata (stage : Stage) : Raises Error.IsOther (stageData data call stage) :=
    Step.isKept_raises.stageData fun _ => Step.raises_value _ _ _ _ _
  have haddress (params : Value) : Raises Error.IsOther (methodAndAddress settings endpoint call params) :=
    Step.isKept_raises.methodAndAddress (htext _ _) (htext _ _) fun _ _ => ⟨htext _ _, htext _ _⟩
  have hheaders (headers : Value) : Raises Error.IsOther (headersOf endpoint call headers) :=
    Step.isKept_raises.headersOf (fun _ _ => ⟨htext _ _, htext _ _⟩) fun _ _ => htext _ _
  have hbody (body : Value) : Raises Error.IsOther (bodyOf endpoint body) :=
    Step.isKept_raises.bodyOf (htext _ _) fun _ _ => htext _ _
  refine (hdata .param).bind fun params => (raises_inStage (haddress params) .param).bind fun address => ?_
  refine (hdata .header).bind fun headers => (raises_inStage (hheaders headers) .header).bind fun made => ?_
  exact (hdata .body).bind fun body => (raises_inStage (hbody body) .body).bind fun text => raises_pure _

end Request

/-! ### Sending -/

namespace Exchange

theorem fails_checkedHeaders (headers : List (String × String)) : Fails Error.IsOther (checkedHeaders headers) := by
  induction headers with
  | nil => exact fails_ok _
  | cons h rest ih =>
      refine (Error.fails_mapError .encoding (fun _ => rfl) _).bind fun _ => ?_
      refine (Error.fails_mapError .encoding (fun _ => rfl) _).bind fun _ => ?_
      exact ih.bind fun _ => fails_ok _

theorem fails_ofRequest (r : Request) : Fails Error.IsOther (Payload.ofRequest r) := by
  unfold Payload.ofRequest
  split_ifs
  · exact fails_ok _
  · exact (Error.fails_mapError .json (fun _ => rfl) _).bind fun _ => fails_ok _
  · exact fails_ok _
  · exact (Error.fails_mapError .encoding (fun _ => rfl) _).bind fun _ => fails_ok _

theorem fails_body (payload : Payload) : Fails Error.IsOther payload.body := by
  cases payload with
  | form fields => exact (Error.fails_mapError .encoding (fun _ => rfl) _).bind fun _ => fails_ok _
  | _ => exact fails_ok _

/-- What keeps a request from going out. -/
theorem fails_outgoing (r : Request) : Fails Error.IsOther (outgoing r) := by
  refine (fails_ofRequest r).bind fun payload => (Error.fails_mapError .target (fun _ => rfl) _).bind fun target => ?_
  exact (fails_checkedHeaders _).bind fun headers => (fails_body payload).bind fun body => fails_ok _

theorem fails_plain (a : Answer) : Fails Error.IsOther a.plain := by
  unfold Answer.plain
  split
  · exact fails_ok _
  · exact fails_error rfl

theorem fails_toResponse (a : Answer) : Fails Error.IsOther a.toResponse :=
  (Error.fails_mapError .unreadable (fun _ => rfl) _).bind fun _ => fails_ok _

theorem fails_redirectedTarget (target : Target) (location : String) :
    Fails Error.IsOther (redirectedTarget target location) := by
  refine (Error.fails_mapError .location (fun _ => rfl) _).bind fun _ => ?_
  refine (Error.fails_mapError .target (fun _ => rfl) _).bind fun _ => ?_
  exact (Error.fails_mapError .target (fun _ => rfl) _).bind fun _ => Error.fails_mapError .target (fun _ => rfl) _

theorem raises_sendOne (target : Target) (message : Message) : Raises Error.IsOther (sendOne target message) := by
  have hget : Raises Error.IsOther (get : Online Network) := nofun
  have hset (network : Network) : Raises Error.IsOther (set network : Online PUnit) := nofun
  refine hget.bind fun network => (hset _).bind fun _ => ?_
  split
  · exact raises_lift (fails_error rfl)
  · split
    · exact raises_lift (fails_error rfl)
    · exact raises_pure _

theorem raises_follow (fuel : Nat) (target : Target) (message : Message) :
    Raises Error.IsOther (follow fuel target message) := by
  induction fuel generalizing target message with
  | zero => exact raises_lift (fails_error rfl)
  | succ fuel ih =>
      refine (raises_sendOne target message).bind fun answer => ?_
      split
      · exact raises_lift (fails_plain answer)
      · refine (raises_lift (fails_redirectedTarget target _)).bind fun next => ?_
        exact (raises_lift (fails_plain answer)).bind fun _ => ih _ _

theorem raises_send (r : Request) : Raises Error.IsOther (send r) := by
  refine (raises_lift (fails_outgoing r)).bind fun sent => ?_
  refine (raises_follow _ sent.1 sent.2).bind fun answer => (raises_lift (fails_toResponse answer)).bind fun response => ?_
  split
  · exact raises_lift (fails_error rfl)
  · exact raises_pure _

end Exchange

/-! ### Authorization -/

theorem Response.fails_isJson (r : Response) : Fails Error.IsOther (r.isJson.mapError .json) :=
  Error.fails_mapError .json (fun _ => rfl) _

theorem Response.fails_accepted (r : Response) : Fails Error.IsOther r.accepted := by
  unfold accepted
  split_ifs
  · exact Error.fails_mapError .json (fun _ => rfl) _
  · exact fails_ok _
  · exact fails_error rfl

namespace Authentication

/-- The error of a request for a token is that of an answer without one, or none of authorization. -/
theorem fails_tokenOf (r : Response) (c : Credentials) :
    Fails (fun e => e.IsOther ∨ e = .noToken r.status c.url) (tokenOf r c) := by
  rw [tokenOf_eq]
  split
  · exact fails_error (.inl rfl)
  · exact fails_error (.inr rfl)
  · refine (r.fails_accepted.mono fun e h => .inl h).bind fun d => ?_
    split
    · split
      · exact (Error.fails_mapError .fault (fun _ => rfl) _).mono fun e h => .inl h
      · exact fails_error (.inr rfl)
    · exact fails_error (.inr rfl)

/-- Of all ways of authentication only the one by a token that is asked for lacks one. -/
theorem raises_apply (a : Authentication) (r : Request) (credentials : Option Credentials) :
    Raises (fun e => e.IsOther ∨ a = passwordGrant ∧ ∃ c status, credentials = some c ∧ e = .noToken status c.url)
      (a.apply r credentials) := by
  cases credentials with
  | none => exact raises_pure _
  | some c =>
      cases a with
      | passwordGrant =>
          rw [apply_passwordGrant]
          refine ((raises_send _).mono fun e h => .inl h).bind fun response => ?_
          refine (raises_lift ((fails_tokenOf response c).mono ?_)).bind fun t => raises_pure _
          rintro e (h | h)
          · exact .inl h
          · exact .inr ⟨rfl, c, response.status, rfl, h⟩
      | basic =>
          refine Raises.bind ?_ fun value => ?_
          · refine Raises.bind (raises_lift ?_) fun bytes => raises_pure _
            exact (Error.fails_mapError .encoding (fun _ => rfl) _).mono fun e h => .inl h
          · cases value <;> exact raises_pure _
      | _ => exact raises_pure _

end Authentication

/-! ### Whole calls -/

namespace Response

theorem raises_withRules (endpoint : Endpoint) (data all whole : Value) (position : Nat) (rules : List Rule)
    (output : List (Value × Value)) :
    Raises Error.IsOther (withRules endpoint data all whole position rules output) := by
  induction rules generalizing position output with
  | nil => exact raises_pure _
  | cons rule rules ih =>
      refine (Step.raises_evaluating _).bind fun name => ?_
      dsimp only
      split
      · exact ih _ _
      · exact (Step.raises_value _ _ _ _ _).bind fun v => ih _ _

theorem raises_output (r : Response) (data : Value) (endpoint : Endpoint) (call : Call) :
    Raises Error.IsOther (r.output data endpoint call) := by
  refine (raises_lift r.fails_isJson).bind fun isJson => ?_
  dsimp only
  split
  · exact raises_pure _
  · refine (raises_lift (r.fails_accepted.mapError fun e h => h)).bind fun document => ?_
    split
    · exact raises_pure _
    · refine (Step.raises_lift .fault (fun _ => rfl) _).bind fun all => ?_
      exact (raises_withRules _ _ _ _ _ _ _).bind fun entries => Step.raises_settled _

end Response

namespace Engine

theorem raises_offline {α : Type} {P : Error → Prop} {s : Step α} (h : Raises P s) : Raises P (offline s) := by
  rintro ⟨memory, network⟩ e after hrun
  have hresult : (comesTo s memory).1 = .error e := congrArg Prod.fst hrun
  exact h memory e _ (Prod.ext hresult rfl)

theorem raises_online {α : Type} {P : Error → Prop} {s : Online α} (h : Raises P s) : Raises P (online s) := by
  rintro ⟨memory, network⟩ e after hrun
  have hresult : (comesTo s network).1 = .error e := congrArg Prod.fst hrun
  exact h network e _ (Prod.ext hresult rfl)

variable (e : Engine) (data : Value) (call : Document)

theorem fails_endpoint (name : String) : Fails Error.IsOther (e.endpoint name) := by
  unfold endpoint
  split
  · exact fails_ok _
  · exact fails_error rfl

theorem raises_draft : Raises Error.IsOther (e.draft data call) := by
  refine (Step.raises_lift .fault (fun _ => rfl) _).bind fun data => ?_
  refine (raises_lift ((Error.fails_mapError .invalid (fun _ => rfl) _).mapError fun f h => h)).bind fun call => ?_
  refine (raises_lift ((e.fails_endpoint _).mapError fun f h => h)).bind fun endpoint => ?_
  exact (Request.raises_build _ _ _ _).bind fun request => raises_pure _

/-- A call lacks a token only if the source asks for tokens, and the error names the place that was asked. -/
theorem raises_request :
    Raises (fun f => f.IsOther ∨ ∃ c status, e.tokenCredentials? = some c ∧ f = .noToken status c.url)
      (e.request data call) := by
  rw [request_eq]
  refine (raises_offline ((e.raises_draft data call).mono fun f h => .inl h)).bind fun draft => ?_
  refine (raises_online ((Authentication.raises_apply _ _ _).mono ?_)).bind fun request => ?_
  · rintro f (h | ⟨hgrant, c, status, hc, h⟩)
    · exact .inl h
    · have htag := (Authentication.ofTag_eq_passwordGrant _).1 hgrant
      exact .inr ⟨c, status, by simp [tokenCredentials?, htag, hc], h⟩
  · refine Raises.mono (P := Error.IsOther) ?_ fun f h => .inl h
    exact (raises_online (raises_send request)).bind fun response => raises_offline (response.raises_output _ _ _)

end Engine

end Courier
