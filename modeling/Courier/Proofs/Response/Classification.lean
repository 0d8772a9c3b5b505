import Mathlib
import Courier.Proofs.Engine
import Courier.Proofs.Response.Rules

/-! What becomes of the response that an exchange ends in. Its status and its content decide whether the call is
refused, and whether the output is the body as it is or a map of status, content and the values of rules. -/

namespace Courier

open Courier.Language Courier.Exchange

namespace Exchange

/-- The response that an exchange ends in, whatever its status. -/
def exchanged (r : Request) : Online Response := do
  let (target, message) ← Online.lift (outgoing r)
  let answer ← follow (redirectLimit + 1) target message
  Online.lift answer.toResponse

/-- What is sent is exchanged, and a status of failure refuses it. -/
theorem send_eq (r : Request) : send r = exchanged r >>= fun response =>
    if isFailure response.status then throw (.refused response) else return response := by
  unfold send exchanged
  simp only [bind_assoc]

theorem comesTo_send {request : Request} {network left : Network} {r : Response}
    (h : comesTo (exchanged request) network = (.ok r, left)) :
    comesTo (send request) network = (if 400 ≤ r.status then .error (.refused r) else .ok r, left) := by
  rw [send_eq, comesTo_bind_of_ok _ h]
  by_cases hstatus : 400 ≤ r.status
  · simp only [isFailure, hstatus, decide_true, if_true]
    rfl
  · simp only [isFailure, hstatus, decide_false, Bool.false_eq_true, if_false]
    rfl

end Exchange

namespace Response

variable {endpoint : Endpoint} {data : Value}

/-- The rules of a call evaluate without an error for a response, and nothing in them changes the data. -/
def RulesEvaluate (r : Response) (data : Value) (endpoint : Endpoint) (call : Call) : Prop :=
  ∀ rules d all, call.inbound = some rules → r.accepted = .ok d →
    r.merged data (Value.ofDocument "content" [] d) = .ok all →
    ∃ output, (withRules endpoint data all (r.whole (Value.ofDocument "content" [] d)) 0 rules
      (r.basic (Value.ofDocument "content" [] d))).outcome .empty = (.ok output, .empty)

/-! ### Outputs -/

variable {r : Response} {call : Call}

/-- The content that counts under a status of success. -/
def counted (r : Response) (d : Document) : Document := if r.status = 200 then d else .object []

theorem accepted_of_success {d : Document} (hcontent : r.content = .ok d) (hlower : 200 ≤ r.status)
    (hupper : r.status < 300) : r.accepted = .ok (r.counted d) := by
  unfold accepted counted isSuccessWithout
  by_cases hstatus : r.status = 200
  · simp [hstatus, hcontent, Except.mapError]
  · have hafter : 200 < r.status := by omega
    simp [hstatus, hafter, hupper]

theorem accepted_of_not_success (h : ¬ (200 ≤ r.status ∧ r.status < 300)) : r.accepted = .error (.refused r) := by
  have hstatus : r.status ≠ 200 := by omega
  have hsuccess : isSuccessWithout r.status = false := by
    unfold isSuccessWithout
    simp only [Bool.and_eq_false_iff, decide_eq_false_iff_not]
    omega
  simp [accepted, hstatus, hsuccess]

/-- A body that is no content is handed on as it is. -/
theorem outcome_output_raw (hshallow : r.IsShallow) (hcontent : ¬ r.HasContent) (memory : Memory) :
    (r.output data endpoint call).outcome memory = (.ok r.raw, memory) := by
  unfold output
  rw [isJson_of_not_hasContent hshallow hcontent]
  rfl

/-- Content under a status that means no success refuses the call. -/
theorem outcome_output_refused (hcontent : r.HasContent) (hstatus : ¬ (200 ≤ r.status ∧ r.status < 300))
    (memory : Memory) : (r.output data endpoint call).outcome memory = (.error (.refused r), memory) := by
  obtain ⟨d, hd⟩ := r.hasContent_iff.1 hcontent
  unfold output
  rw [isJson_of_content hd, accepted_of_not_success hstatus]
  rfl

/-- Content under a status of success becomes a map that has status and content, unless rules of their names set them. -/
theorem exists_outcome_output {identity : Identity} {before : List (Value × Value)} {d : Document}
    (hd : r.content = .ok d) (hlower : 200 ≤ r.status) (hupper : r.status < 300)
    (hrules : r.RulesEvaluate (.map identity before) endpoint call) :
    ∃ entries, (r.output (.map identity before) endpoint call).outcome .empty =
        (.ok (.newMap (outputOf entries)), .empty) ∧
      (∃ v, entryOf? "status" entries = some v) ∧ (∃ v, entryOf? "response" entries = some v) ∧
      ((∀ rule ∈ call.inbound.getD [], nameOf (.map identity before) rule ≠ .ok "status") →
        entryOf? "status" entries = some (.newInt r.status)) ∧
      ((∀ rule ∈ call.inbound.getD [], nameOf (.map identity before) rule ≠ .ok "response") →
        entryOf? "response" entries = some (.ofDocument "content" [] (r.counted d))) := by
  have haccepted := accepted_of_success hd hlower hupper
  have hfirst : entryOf? "status" [("status", Value.newInt r.status),
      ("response", Value.ofDocument "content" [] (r.counted d))] = some (.newInt r.status) := rfl
  have hsecond : entryOf? "response" [("status", Value.newInt r.status),
      ("response", Value.ofDocument "content" [] (r.counted d))] =
        some (.ofDocument "content" [] (r.counted d)) := rfl
  unfold output
  rw [isJson_of_content hd, haccepted]
  simp only [Step.lift_ok, pure_bind, Bool.not_true, Bool.false_eq_true, if_false]
  cases hinbound : call.inbound with
  | none => exact ⟨_, rfl, ⟨_, hfirst⟩, ⟨_, hsecond⟩, fun _ => hfirst, fun _ => hsecond⟩
  | some rules =>
      obtain ⟨out, hout⟩ := hrules rules _ _ hinbound haccepted rfl
      rw [basic_eq] at hout
      obtain ⟨pairs, hsets, rfl⟩ := exists_of_outcome_withRules hout
      have hpairs := hsets.forall₂
      refine ⟨putEntries pairs [("status", .newInt r.status), ("response", .ofDocument "content" [] (r.counted d))], ?_,
        exists_entryOf?_putEntries ⟨_, hfirst⟩, exists_entryOf?_putEntries ⟨_, hsecond⟩,
        fun hnone => ?_, fun hnone => ?_⟩
      · simp only [merged, Step.lift_ok, pure_bind, basic_eq]
        rw [Step.outcome_bind_of_ok _ _ hout]
        rfl
      · exact (entryOf?_putEntries_of_forall₂ hpairs hnone).trans hfirst
      · exact (entryOf?_putEntries_of_forall₂ hpairs hnone).trans hsecond

/-- Brackets beyond the nesting limit are no JSON, and they are not handed on either: reading them ends the call. -/
theorem outcome_output_brackets {n : Nat} (h : Json.nestingLimit < n) (status : Int)
    (headers : List (String × List String)) (memory : Memory) :
    (output ⟨status, String.ofList (List.replicate n '['), headers⟩ data endpoint call).outcome memory =
      (.error (.json (.tooDeep .list)), memory) := by
  have hblank : isBlank ⟨status, String.ofList (List.replicate n '['), headers⟩ = false := by
    have hpos : n ≠ 0 := by omega
    have hbracket : Text.isBlank '[' = false := rfl
    simp [isBlank, Text.isBlankText, hpos, hbracket]
  have hjson : isJson ⟨status, String.ofList (List.replicate n '['), headers⟩ = .error (.tooDeep .list) := by
    unfold isJson content
    simp [hblank, Json.read_brackets h, Json.Fault.isUnreadable]
  unfold output
  rw [hjson]
  rfl

end Response

namespace Engine

variable {request : Request} {network left : Network} {r : Response} {endpoint : Endpoint} {call : Call}

/-- The output that is made of the response of an exchange, unless its status is one of failure. -/
theorem received_of_exchanged (h : comesTo (exchanged request) network = (.ok r, left)) (data : Value)
    (memory : Memory) :
    (comesTo (received request data endpoint call) (memory, network)).1 =
      if 400 ≤ r.status then .error (.refused r) else ((r.output data endpoint call).outcome memory).1 := by
  unfold received
  rw [comesTo_bind, comesTo_online, comesTo_send h]
  by_cases hstatus : 400 ≤ r.status
  · simp only [if_pos hstatus]
  · simp only [if_neg hstatus]
    rw [comesTo_offline]

/-- What becomes of the response that an exchange ends in. It is refused under a status of failure, or with content under
a status that means no success. Below the statuses of failure, a body without content is handed on with the status, and
content makes a map that has status and content under their names, unless rules of these names set them. -/
theorem received_classified {identity : Identity} {entries : List (Value × Value)}
    (hexchange : comesTo (exchanged request) network = (.ok r, left)) (hshallow : r.IsShallow)
    (hrules : r.RulesEvaluate (.map identity entries) endpoint call) :
    ((comesTo (received request (.map identity entries) endpoint call) (.empty, network)).1 = .error (.refused r) ↔
      400 ≤ r.status ∨ (r.HasContent ∧ ¬ (200 ≤ r.status ∧ r.status < 300))) ∧
    (r.status < 400 → ¬ r.HasContent →
      (comesTo (received request (.map identity entries) endpoint call) (.empty, network)).1 =
        .ok (.newMap [(.newText "response", .newText r.body), (.newText "status", .newInt r.status)])) ∧
    (∀ d, r.content = .ok d → 200 ≤ r.status → r.status < 300 → ∃ output,
      (comesTo (received request (.map identity entries) endpoint call) (.empty, network)).1 =
        .ok (.newMap (Response.outputOf output)) ∧
      (∃ v, entryOf? "status" output = some v) ∧ (∃ v, entryOf? "response" output = some v) ∧
      ((∀ rule ∈ call.inbound.getD [], Response.nameOf (.map identity entries) rule ≠ .ok "status") →
        entryOf? "status" output = some (.newInt r.status)) ∧
      ((∀ rule ∈ call.inbound.getD [], Response.nameOf (.map identity entries) rule ≠ .ok "response") →
        entryOf? "response" output = some (.ofDocument "content" [] (if r.status = 200 then d else .object [])))) := by
  rw [received_of_exchanged hexchange]
  refine ⟨?_, fun hstatus hcontent => ?_, fun d hd hlower hupper => ?_⟩
  · by_cases hfailure : 400 ≤ r.status
    · simp [hfailure]
    · rw [if_neg hfailure]
      by_cases hcontent : r.HasContent
      · by_cases hsuccess : 200 ≤ r.status ∧ r.status < 300
        · obtain ⟨d, hd⟩ := r.hasContent_iff.1 hcontent
          obtain ⟨output, houtput, _⟩ := Response.exists_outcome_output hd hsuccess.1 hsuccess.2 hrules
          simp [houtput, hfailure, hsuccess]
        · simp [Response.outcome_output_refused hcontent hsuccess, hcontent, hsuccess]
      · simp [Response.outcome_output_raw hshallow hcontent, hfailure, hcontent]
  · have hfailure : ¬ 400 ≤ r.status := by omega
    rw [if_neg hfailure, Response.outcome_output_raw hshallow hcontent]
    rfl
  · have hfailure : ¬ 400 ≤ r.status := by omega
    obtain ⟨output, houtput, hrest⟩ := Response.exists_outcome_output hd hlower hupper hrules
    refine ⟨output, ?_, hrest⟩
    rw [if_neg hfailure, houtput]

/-- A list under status 200 with a rule that gives it a second name. -/
theorem received_classified_list :
    comesTo (exchanged ⟨"GET", "http://h/", [], "", none⟩) ⟨[.answer 200 [] [91, 49, 93]], []⟩ =
      (.ok ⟨200, "[1]", []⟩, ⟨[], [⟨"GET", "http://h/", [("Host", "h"), ("Accept", "*/*")], []⟩]⟩) ∧
    ∃ output, (comesTo (received ⟨"GET", "http://h/", [], "", none⟩ (.newMap [])
        ⟨"GET", "http://h/", [], [], "", none⟩ ⟨"e", none, some [⟨"k", "", none⟩], none⟩)
        (.empty, ⟨[.answer 200 [] [91, 49, 93]], []⟩)).1 = .ok (.newMap (Response.outputOf output)) ∧
      entryOf? "status" output = some (.newInt 200) ∧
      entryOf? "response" output = some (.ofDocument "content" [] (.list [.int 1])) := by
  have hexchange : comesTo (exchanged ⟨"GET", "http://h/", [], "", none⟩) ⟨[.answer 200 [] [91, 49, 93]], []⟩ =
      (.ok ⟨200, "[1]", []⟩, ⟨[], [⟨"GET", "http://h/", [("Host", "h"), ("Accept", "*/*")], []⟩]⟩) := by cbv
  have hread : Json.read "[1]" = .ok (.list [.int 1]) := rfl
  have hname (key : String) (h : "k" ≠ key) : ∀ rule ∈ [(⟨"k", "", none⟩ : Rule)],
      Response.nameOf (.newMap []) rule ≠ .ok key := by
    intro rule hrule heq
    cases List.mem_singleton.1 hrule
    exact h (Except.ok.inj heq)
  have hshallow : Response.IsShallow ⟨200, "[1]", []⟩ := by
    refine Or.inr fun c hc => ?_
    rw [hread] at hc
    cases hc
  have hrules : Response.RulesEvaluate ⟨200, "[1]", []⟩ (.newMap []) ⟨"GET", "http://h/", [], [], "", none⟩
      ⟨"e", none, some [⟨"k", "", none⟩], none⟩ := by
    intro rules d all hinbound haccepted hmerged
    cases hinbound
    have hd : d = .list [.int 1] := (Except.ok.inj haccepted).symm
    subst hd
    cases hmerged
    exact ⟨_, rfl⟩
  obtain ⟨_, _, hmapped⟩ := received_classified hexchange hshallow hrules
  obtain ⟨output, houtput, _, _, hstatus, hresponse⟩ := hmapped (.list [.int 1]) hread (by decide) (by decide)
  exact ⟨hexchange, output, houtput, hstatus (hname "status" (by decide)), hresponse (hname "response" (by decide))⟩

end Engine

end Courier
