import Courier.Proofs.Engine
import Courier.Proofs.Request.Headers
import Mathlib.Data.List.Nodup
import Mathlib.Data.List.Pairwise

/-! The names of the headers of a request. Three hands write them, one after the other: the header that every request
starts with, the headers of the endpoint and of the rules under the names that their keys are rendered as, and
authorization. What is written last under a name stays. Names are told apart by their spelling, so that two that differ
in nothing but small and capital letters stand side by side. -/

namespace Courier

open Courier.Language Courier.Exchange

namespace Request

/-- Entries that are computed in turn, each put under its name as soon as it is there, are put there in their order. -/
theorem foldlM_putEntry {m : Type → Type} [Monad m] [LawfulMonad m] {α β : Type} (entry : α → m (String × β))
    (as : List α) (before : List (String × β)) :
    as.foldlM (fun entries a => do
      let e ← entry a
      return putEntry e.1 e.2 entries) before = do return putEntries (← as.mapM entry) before := by
  induction as generalizing before with
  | nil => rw [List.foldlM_nil, List.mapM_nil, pure_bind]; rfl
  | cons a as ih =>
      simp only [List.foldlM_cons, List.mapM_cons, ih, bind_assoc, pure_bind]
      rfl

/-- The headers of a call in the order in which they are written: all that the endpoint declares, or with rules those
that it requires and those of the rules. -/
def allSlots (endpoint : Endpoint) (call : Call) : List Slot :=
  if call.outbound.isNone then endpoint.headers.map fun h => ⟨h.key, some h.value⟩ else slots endpoint call

/-- A header with its name and its value. -/
def Slot.entry (data : Value) (slot : Slot) : Step (String × String) := do
  let name ← Step.text slot.key data
  return (name, ← slot.value data)

/-- The headers that a call writes, each with the name that its key is rendered as. -/
def writtenHeaders (endpoint : Endpoint) (call : Call) (data : Value) : Step (List (String × String)) :=
  (allSlots endpoint call).mapM (Slot.entry data)

/-- With rules and without them, the headers of a request are those that the call writes, put under their names behind
the first one. -/
theorem headersOf_eq_putEntries (endpoint : Endpoint) (call : Call) (data : Value) :
    headersOf endpoint call data = do return putEntries (← writtenHeaders endpoint call data) defaultHeaders := by
  have hslot : withSlot data = fun headers slot => do
      let e ← slot.entry data
      return putEntry e.1 e.2 headers := by
    funext headers slot
    simp [withSlot, Slot.entry]
  rw [writtenHeaders, ← foldlM_putEntry, ← hslot, allSlots]
  cases h : call.outbound.isNone with
  | true =>
      have hdeclared : withDeclared data [] = fun headers h => withSlot data headers ⟨h.key, some h.value⟩ := rfl
      rw [headersOf, h, if_pos rfl, if_pos rfl, List.foldlM_map, hdeclared]
  | false =>
      have hsome : call.outbound.isSome := by
        rw [← Option.not_isNone, h]
        rfl
      rw [headersOf_eq hsome]
      rfl

/-- The headers that a request is built with. -/
theorem exists_headers_of_build {settings : Settings} {endpoint : Endpoint} {call : Call} {data : Value}
    {memory after : Memory} {r : Request} (h : (build settings endpoint call data).outcome memory = (.ok r, after)) :
    ∃ prepared between written, (upTo settings endpoint call data .header).outcome memory = (.ok prepared, between) ∧
      ((writtenHeaders endpoint call prepared).outcome between).1 = .ok written ∧
      r.headers = putEntries written defaultHeaders := by
  obtain ⟨-, -, prepared, between, -, -, -, -, hprepared, hheaders, -, -⟩ := exists_of_build h
  rw [headersOf_eq_putEntries, Step.outcome_bind] at hheaders
  rcases hwritten : (writtenHeaders endpoint call prepared).outcome between with ⟨f | written, later⟩
  · rw [hwritten] at hheaders
    cases hheaders
  · rw [hwritten] at hheaders
    exact ⟨prepared, between, written, hprepared, congrArg Prod.fst hwritten, (Except.ok.inj hheaders).symm⟩

/-- All that is written into the headers of a request, in its order: the first header, the headers that the call writes,
and the value of authorization if there is one. -/
def contributions (written : List (String × String)) (value : Option String) : List (String × String) :=
  defaultHeaders ++ written ++ value.toList.map fun v => ("Authorization", v)

section

variable {written : List (String × String)} {value : Option String}

theorem mem_contributions {name : String} :
    name ∈ (contributions written value).map (·.1) ↔
      name = "Accept" ∨ name ∈ written.map (·.1) ∨ (value.isSome ∧ name = "Authorization") := by
  cases value <;> simp [contributions, defaultHeaders]

theorem lastOf?_accept :
    lastOf? "Accept" (contributions written value) = some ((lastOf? "Accept" written).getD "application/json") := by
  have hvalue : lastOf? "Accept" (value.toList.map fun v => ("Authorization", v)) = none := by
    cases value <;> rfl
  have hdefault : lastOf? "Accept" defaultHeaders = some "application/json" := rfl
  rw [contributions, lastOf?_append, lastOf?_append, hvalue, hdefault, Option.none_or]
  cases lastOf? "Accept" written <;> rfl

theorem lastOf?_authorization :
    lastOf? "Authorization" (contributions written value) = value.or (lastOf? "Authorization" written) := by
  have hvalue : lastOf? "Authorization" (value.toList.map fun v => ("Authorization", v)) = value := by
    cases value <;> rfl
  have hdefault : lastOf? "Authorization" defaultHeaders = none := rfl
  rw [contributions, lastOf?_append, lastOf?_append, hvalue, hdefault, Option.or_none]

theorem lastOf?_other {name : String} (haccept : name ≠ "Accept") (hauthorization : name ≠ "Authorization") :
    lastOf? name (contributions written value) = lastOf? name written := by
  have hvalue : lastOf? name (value.toList.map fun v => ("Authorization", v)) = none := by
    cases value with
    | none => rfl
    | some v => exact lastOf?_eq_none (by simpa using hauthorization)
  have hdefault : lastOf? name defaultHeaders = none := lastOf?_eq_none (by simpa [defaultHeaders] using haccept)
  rw [contributions, lastOf?_append, lastOf?_append, hvalue, hdefault, Option.none_or, Option.or_none]

end

end Request

namespace Authentication

/-- Authorization is one more header, the last one that is written. -/
theorem headers_of_apply {a : Authentication} (ha : a ≠ passwordGrant) {credentials : Option Credentials}
    {built sent : Request} {network after : Network}
    (h : comesTo (a.apply built credentials) network = (.ok sent, after)) :
    ∃ value, a.known credentials = .ok value ∧
      sent.headers = putEntries (value.toList.map fun v => ("Authorization", v)) built.headers := by
  cases hknown : a.known credentials with
  | error f =>
      rw [comesTo_apply_error hknown] at h
      cases h
  | ok value =>
      rw [comesTo_apply (Or.inl ha) hknown] at h
      cases h
      cases value <;> exact ⟨_, rfl, rfl⟩

end Authentication

/-- Names of headers that differ are pairwise different headers if no two of them differ in case alone. -/
theorem Exchange.Headers.pairwise_same_iff {names : List String} (h : names.Nodup) :
    names.Pairwise (fun a b => ¬ same a b) ↔ ∀ a ∈ names, ∀ b ∈ names, same a b → a = b := by
  have hsymm : Std.Symm fun a b => ¬ same a b = true := by
    refine ⟨fun a b hab hba => hab ?_⟩
    rw [same, beq_iff_eq] at hba ⊢
    exact hba.symm
  constructor
  · intro hpairwise a ha b hb hsame
    by_contra hne
    exact hpairwise.forall ha hb hne hsame
  · intro hall
    exact h.pairwise_of_forall_ne fun a ha b hb hne hsame => hne (hall a ha b hb hsame)

namespace Engine

open Request

/-- The headers of a request that is prepared without asking for a token are all that is written into them. -/
theorem exists_headers_of_prepare {e : Engine} (hauth : e.authentication ≠ .passwordGrant) {data : Value} {call : Call}
    {memory : Memory} {network : Network} {request : Request} {after : Memory × Network}
    (h : comesTo (e.prepare data call) (memory, network) = (.ok request, after)) :
    ∃ endpoint prepared between written value,
      e.endpoint call.endpoint = .ok endpoint ∧
      (upTo e.settings endpoint call data .header).outcome memory = (.ok prepared, between) ∧
      ((writtenHeaders endpoint call prepared).outcome between).1 = .ok written ∧
      e.authentication.known e.source.credentials = .ok value ∧
      request.headers = putEntries (contributions written value) [] := by
  obtain ⟨endpoint, ⟨_, _⟩, hfound, h⟩ := exists_of_comesTo_bind_ok h
  obtain ⟨hlifted, rfl⟩ := of_comesTo_offline_ok hfound
  obtain ⟨hendpoint, rfl⟩ := Step.of_outcome_lift_ok hlifted
  obtain ⟨built, ⟨_, _⟩, hmade, h⟩ := exists_of_comesTo_bind_ok h
  obtain ⟨hbuilt, rfl⟩ := of_comesTo_offline_ok hmade
  obtain ⟨prepared, between, written, hprepared, hwritten, hheaders⟩ := exists_headers_of_build hbuilt
  obtain ⟨value, hvalue, hsent⟩ := Authentication.headers_of_apply hauth (of_comesTo_online_ok h).1
  refine ⟨endpoint, prepared, between, written, value, hendpoint, hprepared, hwritten, hvalue, ?_⟩
  rw [hsent, hheaders, contributions, putEntries_append, putEntries_append]
  rfl

/-- A request that is prepared without asking for a token has one header for each name that is written into it: the first
one, the names that the keys of its headers are rendered as, and the one of authorization. What is written last under a
name stays, so that a header of the call replaces the first one under its name, and authorization replaces any header of
the call under its own. Two of the names are equal up to case exactly where two of the spellings are. -/
theorem headers_of_prepare {e : Engine} (hauth : e.authentication ≠ .passwordGrant) {data : Value} {call : Call}
    {memory : Memory} {network : Network} {request : Request} {after : Memory × Network}
    (h : comesTo (e.prepare data call) (memory, network) = (.ok request, after)) :
    ∃ endpoint prepared between written value,
      e.endpoint call.endpoint = .ok endpoint ∧
      (upTo e.settings endpoint call data .header).outcome memory = (.ok prepared, between) ∧
      ((writtenHeaders endpoint call prepared).outcome between).1 = .ok written ∧
      e.authentication.known e.source.credentials = .ok value ∧
      (request.headers.map (·.1)).Nodup ∧
      (∀ name, name ∈ request.headers.map (·.1) ↔
        name = "Accept" ∨ name ∈ written.map (·.1) ∨ (value.isSome ∧ name = "Authorization")) ∧
      entryOf? "Accept" request.headers = some ((lastOf? "Accept" written).getD "application/json") ∧
      entryOf? "Authorization" request.headers = value.or (lastOf? "Authorization" written) ∧
      (∀ name, name ≠ "Accept" → name ≠ "Authorization" → entryOf? name request.headers = lastOf? name written) ∧
      ((request.headers.map (·.1)).Pairwise (fun a b => ¬ Headers.same a b) ↔
        ∀ a ∈ (contributions written value).map (·.1), ∀ b ∈ (contributions written value).map (·.1),
          Headers.same a b → a = b) := by
  obtain ⟨endpoint, prepared, between, written, value, hendpoint, hprepared, hwritten, hvalue, hheaders⟩ :=
    exists_headers_of_prepare hauth h
  have hnodup : (request.headers.map (·.1)).Nodup := by
    rw [hheaders]
    exact nodup_keys_putEntries List.nodup_nil
  have hmem (name : String) :
      name ∈ request.headers.map (·.1) ↔ name ∈ (contributions written value).map (·.1) := by
    rw [hheaders, mem_keys_putEntries]
    simp
  have hentry (name : String) : entryOf? name request.headers = lastOf? name (contributions written value) := by
    rw [hheaders, entryOf?_putEntries]
    exact Option.or_none
  refine ⟨endpoint, prepared, between, written, value, hendpoint, hprepared, hwritten, hvalue, hnodup,
    fun name => (hmem name).trans mem_contributions, (hentry _).trans lastOf?_accept,
    (hentry _).trans lastOf?_authorization,
    fun name haccept hauthorization => (hentry _).trans (lastOf?_other haccept hauthorization), ?_⟩
  rw [Headers.pairwise_same_iff hnodup]
  simp only [hmem]

/-- A source with one endpoint, which declares some headers. -/
def declaring (headers : List EndpointParameter) (authType : Option String) (credentials : Option Credentials) :
    Engine :=
  ⟨⟨[("e", ⟨"GET", "http://h/", headers, [], "", none⟩)], authType, credentials⟩, .standard⟩

/-- A header of the endpoint takes the place of the first one, and authorization takes the place of another. -/
theorem headers_of_prepare_replaced :
    ∃ request after,
      comesTo ((declaring [⟨"Accept", "text/plain", true, "string"⟩, ⟨"Authorization", "x", true, "string"⟩]
        (some "OAUTH2_BEARER") (some ⟨none, none, some "t", none, none, none, none, []⟩)).prepare
          (.ofDocument "data" [] (.object [])) ⟨"e", none, none, none⟩) (.empty, ⟨[], []⟩) = (.ok request, after) ∧
      (request.headers.map (·.1)).Nodup ∧ entryOf? "Authorization" request.headers = some "Bearer t" ∧
      request.headers = [("Accept", "text/plain"), ("Authorization", "Bearer t")] := by
  have hresult : (comesTo ((declaring [⟨"Accept", "text/plain", true, "string"⟩,
      ⟨"Authorization", "x", true, "string"⟩] (some "OAUTH2_BEARER")
      (some ⟨none, none, some "t", none, none, none, none, []⟩)).prepare
        (.ofDocument "data" [] (.object [])) ⟨"e", none, none, none⟩) (.empty, ⟨[], []⟩)).1 =
      .ok ⟨"GET", "http://h/", [("Accept", "text/plain"), ("Authorization", "Bearer t")], "", none⟩ := by
    decide +kernel
  have hrun := Prod.ext (y := (_, _)) hresult rfl
  obtain ⟨_, _, _, _, value, _, _, _, hvalue, hnodup, _, _, hauthorization, _, _⟩ :=
    headers_of_prepare (by decide) hrun
  cases hvalue
  exact ⟨_, _, hrun, hnodup, hauthorization, rfl⟩

/-- A header of the endpoint whose name is spelled with a small letter does not replace the first one. -/
theorem exists_same_of_prepare :
    ¬ ∀ (e : Engine), e.authentication ≠ .passwordGrant → ∀ (data : Value) (call : Call) (memory : Memory)
      (network : Network) (request : Request) (after : Memory × Network),
      comesTo (e.prepare data call) (memory, network) = (.ok request, after) →
      (request.headers.map (·.1)).Pairwise fun a b => ¬ Headers.same a b := by
  intro h
  have hresult : (comesTo ((declaring [⟨"accept", "text/plain", true, "string"⟩] none none).prepare
      (.ofDocument "data" [] (.object [])) ⟨"e", none, none, none⟩) (.empty, ⟨[], []⟩)).1 =
      .ok ⟨"GET", "http://h/", [("Accept", "application/json"), ("accept", "text/plain")], "", none⟩ := by
    decide +kernel
  have hpairwise := h _ (by decide) _ _ _ _ _ _ (Prod.ext (y := (_, _)) hresult rfl)
  exact absurd hpairwise (by decide +kernel)

end Engine

end Courier
