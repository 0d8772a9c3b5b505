import Courier.Engine
import Courier.Proofs.Language.Documents
import Courier.Proofs.Response.Content
import Courier.Proofs.Step

/-! What a call does on the network, and in which order. Everything that needs no network comes first, so that a call
that cannot be made sends nothing. A token is asked for before the request of the endpoint goes out, and without one it
does not go out. -/

namespace Courier

open Courier.Language Courier.Exchange

/-! ### Tokens -/

/-- The token in an answer: what stands under its key in the object that a response of success holds. -/
def Authentication.tokenIn? (answer : Except Error Response) : Option Document :=
  match answer with
  | .ok r => if r.status == 200 then r.content.toOption.bind (·.get? "access_token") else none
  | .error _ => none

namespace Response

/-- The output for no data and no rules is status and body, or status and content. -/
theorem extract_none (r : Response) : r.extract .none [] =
    match r.isJson with
    | .error cause => .error (.json cause)
    | .ok false => .ok r.raw
    | .ok true => r.accepted.map fun d => .map (.placed "output" []) (r.basic (Value.ofDocument "content" [] d)) := by
  unfold extract
  cases r.isJson with
  | error cause => rfl
  | ok b =>
      cases b with
      | false => rfl
      | true =>
          cases r.accepted with
          | error e => rfl
          | ok d =>
              have hpath : ∃ v, pathData .none (Value.ofDocument "content" [] d) = .ok v := by
                cases d <;> exact ⟨_, rfl⟩
              obtain ⟨v, hv⟩ := hpath
              show (do
                let _ ← (pathData .none (Value.ofDocument "content" [] d)).mapError Error.fault
                _) = _
              rw [hv]
              rfl

/-- A body that is no content stands there as a text. -/
theorem lookup_raw (r : Response) : Value.lookup (.newText "response")
    [(.newText "response", .newText r.body), (.newText "status", .newInt r.status)] = some (.newText r.body) := by
  simp [Value.lookup, Value.newText, Value.alike_text]

end Response

namespace Authentication

/-- What the output of a request for a token has under the key of one. -/
theorem tokenOf_eq (r : Response) (c : Credentials) : tokenOf r c =
    match r.isJson with
    | .error cause => .error (.json cause)
    | .ok false => .error (.noToken r.status c.url)
    | .ok true => r.accepted.bind fun d =>
        match d with
        | .object entries =>
          match Value.lookup (.newText "access_token") (Value.ofEntries "content" [] 0 entries) with
          | some v => tokenText v
          | none => .error (.noToken r.status c.url)
        | _ => .error (.noToken r.status c.url) := by
  unfold tokenOf
  rw [Response.extract_none]
  cases r.isJson with
  | error cause => rfl
  | ok b =>
      cases b with
      | false =>
          have h := Response.lookup_raw r
          simp only [Response.raw, Value.newMap, bind, Except.bind, h]
          rfl
      | true =>
          cases r.accepted with
          | error e => rfl
          | ok d =>
              have h := Response.lookup_basic r (Value.ofDocument "content" [] d)
              simp only [Except.map, bind, Except.bind, h]
              cases d with
              | object entries =>
                  simp only [Value.ofDocument]
                  cases Value.lookup (.newText "access_token") (Value.ofEntries "content" [] 0 entries) <;> rfl
              | _ => rfl

/-- What a token in an answer stands in. -/
theorem exists_of_tokenIn? {answer : Except Error Response} {d : Document} (h : tokenIn? answer = some d) :
    ∃ r entries, answer = .ok r ∧ r.status = 200 ∧ r.content = .ok (.object entries) ∧
      entryOf? "access_token" entries = some d := by
  cases answer with
  | error e => cases h
  | ok r =>
      simp only [tokenIn?] at h
      split at h
      · rename_i hstatus
        cases hcontent : r.content with
        | error cause =>
            rw [hcontent] at h
            cases h
        | ok body =>
            rw [hcontent] at h
            cases body with
            | object entries => exact ⟨r, entries, rfl, by simpa using hstatus, hcontent, h⟩
            | _ => cases h
      · cases h

theorem tokenIn?_ok {r : Response} {d : Document} (hstatus : r.status = 200) (hcontent : r.content = .ok d) :
    tokenIn? (.ok r) = d.get? "access_token" := by
  simp [tokenIn?, hstatus, hcontent, Except.toOption]

/-- A token that is in an answer is taken from it. -/
theorem exists_tokenOf {r : Response} {d : Document} (c : Credentials) (h : tokenIn? (.ok r) = some d) :
    ∃ t, (Value.ofDocument "content" [] d).toText = .ok t ∧ tokenOf r c = .ok t := by
  obtain ⟨_, entries, heq, hstatus, hcontent, hentry⟩ := exists_of_tokenIn? h
  cases heq
  have hd : d.IsJson := by
    cases Response.isJson_content hcontent with
    | object _ _ hall => exact hall _ (mem_of_entryOf? hentry)
  obtain ⟨t, ht⟩ := Value.exists_toText_ofDocument hd "content"
  refine ⟨t, ht [], ?_⟩
  obtain ⟨path, hlookup⟩ := Value.exists_lookup_ofEntries "content" [] 0 hentry
  have haccepted : r.accepted = .ok (.object entries) := by simp [Response.accepted, hstatus, hcontent, Except.mapError]
  rw [tokenOf_eq, Response.isJson_of_content hcontent, haccepted]
  simp only [Except.bind, hlookup, tokenText, ht, Except.mapError]

/-- Without a token in its answer a request for one fails. -/
theorem exists_tokenOf_error {r : Response} (c : Credentials) (h : tokenIn? (.ok r) = none) :
    ∃ f, tokenOf r c = .error f := by
  rw [tokenOf_eq]
  cases hjson : r.isJson with
  | error cause => exact ⟨_, rfl⟩
  | ok b =>
      cases b with
      | false => exact ⟨_, rfl⟩
      | true =>
          cases haccepted : r.accepted with
          | error f => exact ⟨f, rfl⟩
          | ok d =>
              cases d with
              | object entries =>
                  have hentry : entryOf? "access_token" entries = none := by
                    rcases Response.of_accepted haccepted with ⟨hstatus, hcontent⟩ | ⟨_, hnone⟩
                    · exact (tokenIn?_ok hstatus hcontent).symm.trans h
                    · cases hnone
                      rfl
                  have hlookup := Value.lookup_ofEntries_eq_none "content" [] 0 hentry
                  refine ⟨.noToken r.status c.url, ?_⟩
                  simp only [Except.bind, hlookup]
              | _ => exact ⟨_, rfl⟩

/-! ### Authorization -/

/-- The value of the authorization header that is known without asking for it, if there is to be one. -/
def known (a : Authentication) (credentials : Option Credentials) : Except Error (Option String) :=
  match a, credentials with
  | basic, some c =>
    ((Text.utf8 (c.username.getD "" ++ ":" ++ c.password.getD "")).mapError .encoding).map fun bytes =>
      some ("Basic " ++ Text.Base64.encode bytes)
  | bearer, some c => .ok (some ("Bearer " ++ c.token.getD ""))
  | _, _ => .ok none

end Authentication

/-- A request as it goes out: it has the value of authorization, if there is one, and is otherwise as it was built. -/
structure Request.IsAuthorized (built : Request) (value : Option String) (sent : Request) : Prop where
  unchanged : value = none → sent = built
  method : sent.method = built.method
  url : sent.url = built.url
  body : sent.body = built.body
  bodyType : sent.bodyType = built.bodyType
  others : sent.headers.filter (·.1 != "Authorization") = built.headers.filter (·.1 != "Authorization")
  authorization : entryOf? "Authorization" sent.headers = value.or (entryOf? "Authorization" built.headers)

namespace Request

theorem isAuthorized_none (r : Request) : r.IsAuthorized none r where
  unchanged _ := rfl
  method := rfl
  url := rfl
  body := rfl
  bodyType := rfl
  others := rfl
  authorization := rfl

theorem isAuthorized_withHeader (r : Request) (value : String) :
    r.IsAuthorized (some value) (r.withHeader "Authorization" value) where
  unchanged h := by cases h
  method := rfl
  url := rfl
  body := rfl
  bodyType := rfl
  others := filter_putEntry "Authorization" value r.headers
  authorization := entryOf?_putEntry_self "Authorization" value r.headers

/-- Authorization by a value that is known, or by none. -/
theorem isAuthorized_elim (r : Request) (value : Option String) :
    r.IsAuthorized value (value.elim r (r.withHeader "Authorization")) := by
  cases value with
  | none => exact r.isAuthorized_none
  | some v => exact r.isAuthorized_withHeader v

end Request

namespace Authentication

theorem ofTag_eq_passwordGrant (name : Option String) : ofTag name = passwordGrant ↔ name = some "OAUTH2_PASSWORD" := by
  constructor
  · intro h
    unfold ofTag at h
    cases hfind : all.find? fun a => some a.tag == name with
    | none =>
        rw [hfind] at h
        cases h
    | some a =>
        rw [hfind] at h
        cases h
        have htag := List.find?_some hfind
        exact (by simpa using htag : some passwordGrant.tag = name).symm
  · intro h
    rw [h]
    decide

/-- A known value, or none, is all that the request gets, and nothing is sent for it. -/
theorem comesTo_apply {a : Authentication} {credentials : Option Credentials} {value : Option String}
    (ha : a ≠ passwordGrant ∨ credentials = none) (h : a.known credentials = .ok value) (r : Request)
    (network : Network) :
    comesTo (a.apply r credentials) network = (.ok (value.elim r (r.withHeader "Authorization")), network) := by
  cases credentials with
  | none =>
      cases a <;>
      · cases h
        rfl
  | some c =>
      cases a with
      | anonymous =>
          cases h
          rfl
      | basic =>
          rw [known] at h
          cases hbytes : Text.utf8 (c.username.getD "" ++ ":" ++ c.password.getD "") with
          | error cause =>
              rw [hbytes] at h
              cases h
          | ok bytes =>
              rw [hbytes] at h
              cases h
              simp only [apply, authorization, hbytes]
              rfl
      | bearer =>
          cases h
          rfl
      | passwordGrant => rcases ha with ha | ha <;> contradiction

theorem exists_comesTo_apply {a : Authentication} {credentials : Option Credentials} {value : Option String}
    (ha : a ≠ passwordGrant ∨ credentials = none) (h : a.known credentials = .ok value) (r : Request)
    (network : Network) :
    ∃ sent, r.IsAuthorized value sent ∧ comesTo (a.apply r credentials) network = (.ok sent, network) :=
  ⟨_, r.isAuthorized_elim value, comesTo_apply ha h r network⟩

theorem comesTo_apply_error {a : Authentication} {credentials : Option Credentials} {e : Error}
    (h : a.known credentials = .error e) (r : Request) (network : Network) :
    comesTo (a.apply r credentials) network = (.error e, network) := by
  cases credentials with
  | none => cases a <;> cases h
  | some c =>
      cases a with
      | basic =>
          rw [known] at h
          cases hbytes : Text.utf8 (c.username.getD "" ++ ":" ++ c.password.getD "") with
          | error cause =>
              rw [hbytes] at h
              cases h
              simp only [apply, authorization, hbytes]
              rfl
          | ok bytes =>
              rw [hbytes] at h
              cases h
      | _ => cases h

/-- The token stands in the request as soon as there is one. -/
theorem apply_passwordGrant (r : Request) (c : Credentials) :
    apply passwordGrant r (some c) = send (tokenRequest c) >>= fun response =>
      Online.lift (tokenOf response c) >>= fun t => pure (r.withHeader "Authorization" ("Bearer " ++ t)) := by
  simp only [apply, authorization, bind_assoc, pure_bind]

/-- Authorization by a token that is asked for: the answer decides, and the network is as the request for the token
leaves it. -/
theorem comesTo_apply_passwordGrant (r : Request) (c : Credentials) (network : Network) :
    comesTo (apply passwordGrant r (some c)) network =
      ((comesTo (send (tokenRequest c)) network).1.bind fun response =>
          (tokenOf response c).map fun t => r.withHeader "Authorization" ("Bearer " ++ t),
        (comesTo (send (tokenRequest c)) network).2) := by
  rw [apply_passwordGrant, comesTo_bind]
  rcases comesTo (send (tokenRequest c)) network with ⟨e | response, after⟩
  · rfl
  · show comesTo (Online.lift (tokenOf response c) >>= _) after =
      ((tokenOf response c).map fun t => r.withHeader "Authorization" ("Bearer " ++ t), after)
    cases tokenOf response c with
    | error e => rfl
    | ok t => rfl

end Authentication

/-! ### Whole calls -/

namespace Exchange

/-- The network after requests were sent over it one after the other, whatever came back for each of them. -/
def networkAfter (network : Network) (requests : List Request) : Network :=
  requests.foldl (fun network r => (comesTo (send r) network).2) network

end Exchange

/-- What a call has ready before it uses the network. -/
structure Draft where
  data : Value
  call : Call
  endpoint : Endpoint
  request : Request

namespace Engine

variable (e : Engine) (data : Value) (call : Document) (memory : Memory) (network : Network)

/-- The part of a call that needs no network: its data and its rules are read, its endpoint is looked up and its
request is built. -/
def draft : Step Draft := do
  let data ← Step.lift .fault (dataMap data)
  let call ← Step.lift id (readCall call)
  let endpoint ← Step.lift id (e.endpoint call.endpoint)
  let request ← Request.build e.settings endpoint call data
  return ⟨data, call, endpoint, request⟩

/-- A request is sent, and its response becomes the output. -/
def received (request : Request) (data : Value) (endpoint : Endpoint) (call : Call) : Live Value := do
  let response ← online (send request)
  offline (response.output data endpoint call)

/-- The part of a call that needs the network: a request is authorized and sent, and its response becomes the output. -/
def exchange (d : Draft) : Live Value := do
  let request ← online (e.authentication.apply d.request e.source.credentials)
  received request d.data d.endpoint d.call

/-- The result of a call, or the error that it ends with. -/
def resultOf : Except Error Value := (comesTo (e.request data call) (memory, network)).1

/-- The network that a call leaves. -/
def networkOf : Network := (comesTo (e.request data call) (memory, network)).2.2

/-- The credentials that a token is asked for with. -/
def tokenCredentials? : Option Credentials :=
  if e.source.authType == some "OAUTH2_PASSWORD" then e.source.credentials else none

theorem comesTo_offline {α : Type} (s : Step α) :
    comesTo (offline s) (memory, network) = ((s.outcome memory).1, (s.outcome memory).2, network) := rfl

theorem comesTo_online {α : Type} (s : Online α) :
    comesTo (online s) (memory, network) = ((comesTo s network).1, memory, (comesTo s network).2) := rfl

theorem of_comesTo_offline_ok {α : Type} {s : Step α} {a : α} {memory after : Memory} {network later : Network}
    (h : comesTo (offline s) (memory, network) = (.ok a, after, later)) :
    s.outcome memory = (.ok a, after) ∧ network = later := by
  rw [comesTo_offline] at h
  obtain ⟨hresult, hmemory, hnetwork⟩ := Prod.mk.inj h |>.imp_right Prod.mk.inj
  exact ⟨Prod.ext hresult hmemory, hnetwork⟩

theorem of_comesTo_online_ok {α : Type} {s : Online α} {a : α} {memory after : Memory} {network later : Network}
    (h : comesTo (online s) (memory, network) = (.ok a, after, later)) :
    comesTo s network = (.ok a, later) ∧ memory = after := by
  rw [comesTo_online] at h
  obtain ⟨hresult, hmemory, hnetwork⟩ := Prod.mk.inj h |>.imp_right Prod.mk.inj
  exact ⟨Prod.ext hresult hnetwork, hmemory⟩

theorem offline_pure {α : Type} (a : α) : offline (pure a) = pure a := rfl

theorem offline_bind {α β : Type} (s : Step α) (next : α → Step β) :
    offline (s >>= next) = offline s >>= fun a => offline (next a) := by
  funext ⟨memory, network⟩
  show comesTo (offline (s >>= next)) (memory, network) = comesTo (offline s >>= fun a => offline (next a)) _
  rw [comesTo_bind, comesTo_offline, comesTo_offline, Step.outcome_bind]
  rcases s.outcome memory with ⟨_ | a, after⟩ <;> rfl

/-- A call is its part without the network and then its part with it. -/
theorem request_eq : e.request data call = offline (e.draft data call) >>= e.exchange := by
  unfold request draft prepare
  cases dataMap data with
  | error f => rfl
  | ok data =>
      cases readCall call with
      | error f => rfl
      | ok call =>
          simp only [Step.lift_ok, offline_pure, pure_bind]
          cases e.endpoint call.endpoint with
          | error f => rfl
          | ok endpoint =>
              simp only [Step.lift_ok, offline_pure, pure_bind, offline_bind, bind_assoc]
              rfl

variable {e network}

/-- A request that is authorized is sent once, and its output needs the network no more. -/
theorem network_exchange {d : Draft} {sent : Request} {between : Network}
    (h : comesTo (e.authentication.apply d.request e.source.credentials) network = (.ok sent, between)) :
    (comesTo (e.exchange d) (memory, network)).2.2 = (comesTo (send sent) between).2 := by
  have hauthorized : comesTo (online (e.authentication.apply d.request e.source.credentials)) (memory, network) =
      (.ok sent, memory, between) := by
    rw [comesTo_online, h]
  unfold exchange received
  rw [comesTo_bind_of_ok _ hauthorized, comesTo_bind, comesTo_online]
  rcases comesTo (send sent) between with ⟨f | response, after⟩
  · rfl
  · show (comesTo (offline (response.output d.data d.endpoint d.call)) (memory, after)).2.2 = after
    rw [comesTo_offline]

/-- A request that cannot be authorized is not sent. -/
theorem exchange_of_error {d : Draft} {f : Error} {between : Network}
    (h : comesTo (e.authentication.apply d.request e.source.credentials) network = (.error f, between)) :
    comesTo (e.exchange d) (memory, network) = (.error f, memory, between) := by
  have hauthorized : comesTo (online (e.authentication.apply d.request e.source.credentials)) (memory, network) =
      (.error f, memory, between) := by
    rw [comesTo_online, h]
  unfold exchange
  rw [comesTo_bind_of_error _ hauthorized]

theorem eq_some_of_tokenCredentials? {c : Credentials} (h : e.tokenCredentials? = some c) :
    e.authentication = .passwordGrant ∧ e.source.credentials = some c := by
  unfold tokenCredentials? at h
  split at h
  · rename_i htag
    exact ⟨(Authentication.ofTag_eq_passwordGrant _).2 (by simpa using htag), h⟩
  · cases h

theorem of_tokenCredentials?_eq_none (h : e.tokenCredentials? = none) :
    e.authentication ≠ .passwordGrant ∨ e.source.credentials = none := by
  unfold tokenCredentials? at h
  split at h
  · exact Or.inr h
  · rename_i htag
    refine Or.inl fun hgrant => htag ?_
    simpa using (Authentication.ofTag_eq_passwordGrant _).1 hgrant

/-- With a token in the answer to the request for one, the request of the endpoint follows. -/
theorem exchange_of_token {c : Credentials} (hc : e.tokenCredentials? = some c) (d : Draft) {token : Document}
    (h : Authentication.tokenIn? (comesTo (send (Authentication.tokenRequest c)) network).1 = some token) :
    ∃ t sent, (Value.ofDocument "content" [] token).toText = .ok t ∧
      d.request.IsAuthorized (some ("Bearer " ++ t)) sent ∧
      (comesTo (e.exchange d) (memory, network)).2.2 =
        networkAfter network [Authentication.tokenRequest c, sent] := by
  obtain ⟨hgrant, hcredentials⟩ := eq_some_of_tokenCredentials? hc
  obtain ⟨response, _, hanswer, _⟩ := Authentication.exists_of_tokenIn? h
  rw [hanswer] at h
  obtain ⟨t, ht, htoken⟩ := Authentication.exists_tokenOf c h
  refine ⟨t, _, ht, d.request.isAuthorized_withHeader _, network_exchange memory ?_⟩
  rw [hgrant, hcredentials, Authentication.comesTo_apply_passwordGrant, hanswer]
  simp only [Except.bind, htoken, Except.map]

/-- Without a token in the answer to the request for one, nothing else is sent. -/
theorem exchange_of_no_token {c : Credentials} (hc : e.tokenCredentials? = some c) (d : Draft)
    (h : Authentication.tokenIn? (comesTo (send (Authentication.tokenRequest c)) network).1 = none) :
    ∃ f, comesTo (e.exchange d) (memory, network) =
      (.error f, memory, networkAfter network [Authentication.tokenRequest c]) := by
  obtain ⟨hgrant, hcredentials⟩ := eq_some_of_tokenCredentials? hc
  have happly := Authentication.comesTo_apply_passwordGrant d.request c network
  rw [← hgrant, ← hcredentials] at happly
  cases hanswer : (comesTo (send (Authentication.tokenRequest c)) network).1 with
  | error f =>
      refine ⟨f, exchange_of_error memory ?_⟩
      rw [happly, hanswer]
      rfl
  | ok response =>
      rw [hanswer] at h
      obtain ⟨f, htoken⟩ := Authentication.exists_tokenOf_error c h
      refine ⟨f, exchange_of_error memory ?_⟩
      rw [happly, hanswer]
      simp only [Except.bind, htoken, Except.map]
      rfl

variable (e network)

/-- What goes over the network in a call. A call that cannot be read, names no endpoint or whose request cannot be built
sends nothing. A source that asks for tokens and has credentials sends the request for one, and then the request of the
endpoint if and only if the answer holds a token; any other source sends the request of the endpoint alone. That request
is the one that was built, with the value of authorization. -/
theorem networkOf_request :
    match ((e.draft data call).outcome memory).1 with
    | .error f => e.resultOf data call memory network = .error f ∧ e.networkOf data call memory network = network
    | .ok d =>
      match e.tokenCredentials? with
      | some c =>
        match Authentication.tokenIn? (comesTo (send (Authentication.tokenRequest c)) network).1 with
        | some token => ∃ t sent, (Value.ofDocument "content" [] token).toText = .ok t ∧
            d.request.IsAuthorized (some ("Bearer " ++ t)) sent ∧
            e.networkOf data call memory network = networkAfter network [Authentication.tokenRequest c, sent]
        | none => (∃ f, e.resultOf data call memory network = .error f) ∧
            e.networkOf data call memory network = networkAfter network [Authentication.tokenRequest c]
      | none =>
        match e.authentication.known e.source.credentials with
        | .ok value => ∃ sent, d.request.IsAuthorized value sent ∧
            e.networkOf data call memory network = networkAfter network [sent]
        | .error f => e.resultOf data call memory network = .error f ∧ e.networkOf data call memory network = network := by
  unfold resultOf networkOf
  rw [request_eq, comesTo_bind, comesTo_offline]
  rcases (e.draft data call).outcome memory with ⟨f | d, after⟩
  · exact ⟨rfl, rfl⟩
  · simp only
    split
    · rename_i c hc
      split
      · rename_i token htoken
        exact exchange_of_token after hc d htoken
      · rename_i htoken
        obtain ⟨f, hf⟩ := exchange_of_no_token after hc d htoken
        exact ⟨⟨f, congrArg Prod.fst hf⟩, congrArg (·.2.2) hf⟩
    · rename_i hc
      have hnone := of_tokenCredentials?_eq_none hc
      split
      · rename_i value hvalue
        obtain ⟨sent, hsent, happly⟩ := Authentication.exists_comesTo_apply hnone hvalue d.request network
        exact ⟨sent, hsent, network_exchange after happly⟩
      · rename_i f hf
        have hexchange := exchange_of_error after (Authentication.comesTo_apply_error hf d.request network)
        exact ⟨congrArg Prod.fst hexchange, congrArg (·.2.2) hexchange⟩

end Engine

end Courier
