import Courier.Proofs.Request.Isolation

/-! How the headers of a request with rules are put together. They are written one after the other, first those that the
endpoint requires and then those of the rules that it does not require, each under its rendered key. A header whose key
has a rule takes the value that the last rule of the key computed, whoever declares it. -/

namespace Courier

namespace Request

open Courier.Language

variable {endpoint : Endpoint} {call : Call} {data prepared : Value}

/-- What a template is rendered as on data without changes. -/
def rendered (data : Value) (source : String) : Except Error String := ((Step.text source data).outcome .empty).1

/-- The headers that an endpoint requires. -/
def required (endpoint : Endpoint) : List EndpointParameter := endpoint.headers.filter (·.required)

/-- The last header of a key that an endpoint requires. -/
def lastRequired? (endpoint : Endpoint) (key : String) : Option EndpointParameter :=
  (required endpoint).reverse.find? fun h => h.key == key

/-- The keys of the rules for headers. -/
def ruleKeys (call : Call) : List String := (call.outboundFor .header).map (·.key)

/-! ### Writing headers -/

/-- A header to be written: its key, and the template of its value unless a rule computes it. -/
structure Slot where
  key : String
  template : Option String

/-- The value of a header. -/
def Slot.value (data : Value) (slot : Slot) : Step String :=
  match slot.template with
  | none => computedHeader data slot.key
  | some t => Step.text t data

/-- Writes a header. -/
def withSlot (data : Value) (headers : List (String × String)) (slot : Slot) : Step (List (String × String)) := do
  let name ← Step.text slot.key data
  return putEntry name (← slot.value data) headers

/-- The header that an endpoint declares. -/
def declaredSlot (call : Call) (h : EndpointParameter) : Slot :=
  ⟨h.key, if (ruleKeys call).contains h.key then none else some h.value⟩

/-- The headers that only rules declare. -/
def computedSlots (endpoint : Endpoint) (call : Call) : List Slot :=
  ((ruleKeys call).filter fun key => !((required endpoint).map (·.key)).contains key).map fun key => ⟨key, none⟩

/-- The headers of a request in the order in which they are written. -/
def slots (endpoint : Endpoint) (call : Call) : List Slot :=
  (required endpoint).map (declaredSlot call) ++ computedSlots endpoint call

/-- With rules, the headers of a request are written one after the other. -/
theorem headersOf_eq (h : call.outbound.isSome) (data : Value) :
    headersOf endpoint call data = (slots endpoint call).foldlM (withSlot data) defaultHeaders := by
  have hnone : call.outbound.isNone = false := by
    rw [← Option.not_isSome, h]
    rfl
  have hdeclared : (fun headers h => withSlot data headers (declaredSlot call h)) =
      withDeclared data ((call.outboundFor .header).map (·.key)) := by
    funext headers p
    unfold withSlot withDeclared declaredSlot ruleKeys
    cases ((call.outboundFor .header).map (·.key)).contains p.key <;> rfl
  have hcomputed : (fun headers key => withSlot data headers ⟨key, none⟩) = withComputed data := rfl
  rw [headersOf, hnone, slots, computedSlots, List.foldlM_append]
  simp only [List.foldlM_map, hdeclared, hcomputed]
  rfl

/-- A header is written with its name and its value. -/
def IsWritten (data : Value) (slot : Slot) (entry : String × String) : Prop :=
  rendered data slot.key = .ok entry.1 ∧ ((slot.value data).outcome .empty).1 = .ok entry.2

theorem keeps_slotValue (data : Value) (slot : Slot) : (slot.value data).Keeps := by
  unfold Slot.value
  split
  · exact isKept_keeps.computedHeader _
  · exact Step.keeps_text _ _

theorem keeps_withSlot (data : Value) (headers : List (String × String)) (slot : Slot) :
    (withSlot data headers slot).Keeps :=
  (Step.keeps_text _ _).bind fun _ => (keeps_slotValue data slot).bind fun _ => Step.keeps_pure _

/-- Headers that are written without changes are put under their names one after the other. -/
theorem exists_of_foldlM_withSlot {slots : List Slot} {before headers : List (String × String)}
    (h : (slots.foldlM (withSlot data) before).outcome .empty = (.ok headers, .empty)) :
    ∃ entries, List.Forall₂ (IsWritten data) slots entries ∧ headers = putEntries entries before := by
  induction slots generalizing before with
  | nil =>
      cases h
      exact ⟨[], .nil, rfl⟩
  | cons slot slots ih =>
      rw [List.foldlM_cons] at h
      obtain ⟨next, between, hslot, h⟩ := Step.exists_of_outcome_bind_ok h
      obtain rfl := (Step.Keeps.foldlM (keeps_withSlot data) slots next).eq_empty h
      obtain ⟨name, between, hname, hslot⟩ := Step.exists_of_outcome_bind_ok hslot
      obtain ⟨value, between', hvalue, hslot⟩ := Step.exists_of_outcome_bind_ok hslot
      cases hslot
      obtain rfl := (keeps_slotValue data slot).eq_empty hvalue
      obtain ⟨entries, hentries, rfl⟩ := ih h
      exact ⟨(name, value) :: entries, .cons ⟨congrArg Prod.fst hname, congrArg Prod.fst hvalue⟩ hentries, rfl⟩

/-- The names of headers that are written are what their keys are rendered as. -/
theorem mem_names_of_forall₂ {slots : List Slot} {entries : List (String × String)}
    (h : List.Forall₂ (IsWritten data) slots entries) (name : String) :
    name ∈ entries.map (·.1) ↔ ∃ slot ∈ slots, rendered data slot.key = .ok name := by
  induction h with
  | nil => simp
  | @cons slot entry slots entries hentry _ ih =>
      have hname : name = entry.1 ↔ rendered data slot.key = .ok name := by
        rw [hentry.1]
        exact ⟨fun h => h ▸ rfl, fun h => (Except.ok.inj h).symm⟩
      rw [List.map_cons, List.mem_cons, ih, hname]
      simp

/-- What is found first in a list is found first in another one whose items match it one by one. -/
theorem find?_of_forall₂ {α β : Type} {R : α → β → Prop} {p : α → Bool} {q : β → Bool} {as : List α} {bs : List β} {a : α}
    (h : List.Forall₂ R as bs) (hmatch : ∀ c ∈ as, ∀ b, R c b → p c = q b) (ha : as.find? p = some a) :
    ∃ b, R a b ∧ bs.find? q = some b := by
  induction h with
  | nil => cases ha
  | @cons c b as bs hcb _ ih =>
      rw [List.find?_cons] at ha ⊢
      rw [← hmatch c List.mem_cons_self b hcb]
      cases hc : p c with
      | true =>
          rw [hc] at ha
          cases ha
          exact ⟨b, hcb, rfl⟩
      | false =>
          rw [hc] at ha
          exact ih (fun d hd => hmatch d (List.mem_cons_of_mem _ hd)) ha

/-- Where one key alone leads to a name, the last header of that key is found there. -/
theorem lastOf?_of_forall₂ {slots : List Slot} {entries : List (String × String)} {key name : String} {slot : Slot}
    (h : List.Forall₂ (IsWritten data) slots entries) (hname : rendered data key = .ok name)
    (hothers : ∀ s ∈ slots, s.key ≠ key → rendered data s.key ≠ .ok name)
    (hslot : slots.reverse.find? (·.key == key) = some slot) :
    ∃ text, ((slot.value data).outcome .empty).1 = .ok text ∧ lastOf? name entries = some text := by
  have hmatch : ∀ s ∈ slots.reverse, ∀ e : String × String, IsWritten data s e → (s.key == key) = (e.1 == name) := by
    rintro s hs e ⟨he, -⟩
    by_cases hkey : s.key = key
    · rw [hkey, hname] at he
      simp [hkey, Except.ok.inj he]
    · have hne : e.1 ≠ name := fun heq => hothers s (List.mem_reverse.1 hs) hkey (heq ▸ he)
      simp [hkey, hne]
  obtain ⟨e, ⟨-, hvalue⟩, hfound⟩ := find?_of_forall₂ (List.rel_reverse h) hmatch hslot
  exact ⟨e.2, hvalue, by rw [lastOf?, hfound]; rfl⟩

/-! ### The data of the stage -/

/-- Under the key of a rule stands the value of the last rule of that key. -/
theorem lookup_of_withRules {stage : Stage} {rules : List OutboundRule} {entries result : List (Value × Value)}
    (h : (withRules data stage rules entries).outcome .empty = (.ok result, .empty)) (key : String) :
    Value.lookup (.newText key) result =
      (lastOf? key (ruleEntries data stage rules)).or (Value.lookup (.newText key) entries) := by
  induction rules generalizing entries with
  | nil =>
      cases h
      rfl
  | cons r rules ih =>
      obtain ⟨v, between, hvalue, hrest⟩ := Step.exists_of_outcome_bind_ok h
      obtain rfl := (keeps_withRules data stage rules _).eq_empty hrest
      have hentries : ruleEntries data stage (r :: rules) = (r.key, v) :: ruleEntries data stage rules := by
        rw [ruleEntries, List.map_cons, ruleValue, contentOf, hvalue]
        rfl
      rw [ih hrest, hentries, lastOf?_cons]
      by_cases hkey : r.key = key
      · subst hkey
        simp [Value.lookup_putKey_self]
      · simp [Value.lookup_putKey_of_ne (Ne.symm hkey), hkey]

/-- The data of a stage has the value of the last rule of a key there. -/
theorem entryOf_stageData {stage : Stage} {key : String} {rule : OutboundRule}
    (h : (stageData data call stage).outcome .empty = (.ok prepared, .empty))
    (hrule : lastRule? call stage key = some rule) : entryOf prepared key = ruleValue data stage key (contentOf rule) := by
  obtain ⟨v, between, hsettled, h⟩ := Step.exists_of_outcome_bind_ok h
  cases hsettled
  obtain ⟨given, _, hgiven, h⟩ := Step.exists_of_outcome_bind_ok h
  obtain ⟨-, rfl⟩ := Step.of_outcome_lift_ok hgiven
  obtain ⟨result, _, hresult, h⟩ := Step.exists_of_outcome_bind_ok h
  cases h
  have hlast := lastOf?_ruleEntries data call stage key
  rw [hrule] at hlast
  show (Value.lookup (.newText key) result).getD .none = _
  rw [lookup_of_withRules hresult key, hlast]
  rfl

theorem headerText_of_computedHeader {key text : String}
    (h : ((computedHeader data key).outcome .empty).1 = .ok text) : headerText (entryOf data key) = .ok text := by
  have hsettled : (Step.settled (entryOf data key)).outcome .empty = (.ok (entryOf data key), .empty) := by
    show (Except.ok (Value.settle [] (entryOf data key)), Memory.empty) = _
    rw [Value.settle_nil]
  rw [computedHeader, Step.outcome_bind_of_ok _ _ hsettled, Step.outcome_lift] at h
  cases hvalue : headerText (entryOf data key) with
  | error f =>
      rw [hvalue] at h
      cases h
  | ok s =>
      rw [hvalue] at h
      cases h
      rfl

/-! ### Headers with rules -/

/-- The keys of the headers that a request with rules has besides the first one: those that the endpoint requires and
those of the rules. -/
def headerKeys (endpoint : Endpoint) (call : Call) : List String := (required endpoint).map (·.key) ++ ruleKeys call

theorem mem_headerKeys {key : String} :
    key ∈ headerKeys endpoint call ↔ ∃ slot ∈ slots endpoint call, slot.key = key := by
  constructor
  · intro h
    by_cases hrequired : key ∈ (required endpoint).map (·.key)
    · obtain ⟨p, hp, rfl⟩ := List.mem_map.1 hrequired
      exact ⟨declaredSlot call p, List.mem_append_left _ (List.mem_map_of_mem hp), rfl⟩
    · have hrule : key ∈ ruleKeys call := (List.mem_append.1 h).resolve_left hrequired
      refine ⟨⟨key, none⟩, List.mem_append_right _ (List.mem_map_of_mem (List.mem_filter.2 ⟨hrule, ?_⟩)), rfl⟩
      simpa using hrequired
  · rintro ⟨slot, hslot, rfl⟩
    rcases List.mem_append.1 hslot with h | h
    · obtain ⟨p, hp, rfl⟩ := List.mem_map.1 h
      exact List.mem_append_left _ (List.mem_map_of_mem (f := (·.key)) hp)
    · obtain ⟨key, hkey, rfl⟩ := List.mem_map.1 h
      exact List.mem_append_right _ (List.mem_filter.1 hkey).1

/-- A header whose key has a rule is computed. -/
theorem template_of_mem_slots {slot : Slot} (h : slot ∈ slots endpoint call) (hkey : slot.key ∈ ruleKeys call) :
    slot.template = none := by
  rcases List.mem_append.1 h with h | h
  · obtain ⟨p, hp, rfl⟩ := List.mem_map.1 h
    exact if_pos (List.contains_iff_mem.2 hkey)
  · obtain ⟨key, -, rfl⟩ := List.mem_map.1 h
    rfl

theorem find?_slots_of_mem {key : String} (h : key ∈ ruleKeys call) :
    (slots endpoint call).reverse.find? (·.key == key) = some ⟨key, none⟩ := by
  cases hfind : (slots endpoint call).reverse.find? (·.key == key) with
  | none =>
      obtain ⟨slot, hslot, hkey⟩ := mem_headerKeys.1 (List.mem_append_right ((required endpoint).map (·.key)) h)
      have hnone := List.find?_eq_none.1 hfind slot (List.mem_reverse.2 hslot)
      simp [hkey] at hnone
  | some slot =>
      have hkey : slot.key = key := by simpa using List.find?_some hfind
      have htemplate := template_of_mem_slots (List.mem_reverse.1 (List.mem_of_find?_eq_some hfind)) (hkey ▸ h)
      rw [← hkey, ← htemplate]

/-- The last header of a key without a rule is the last one that the endpoint requires. -/
theorem find?_slots_of_not_mem {key : String} {p : EndpointParameter} (h : key ∉ ruleKeys call)
    (hp : lastRequired? endpoint key = some p) :
    (slots endpoint call).reverse.find? (·.key == key) = some ⟨key, some p.value⟩ := by
  have hcomputed : (computedSlots endpoint call).reverse.find? (·.key == key) = none := by
    rw [List.find?_eq_none]
    intro slot hslot heq
    obtain ⟨other, hother, rfl⟩ := List.mem_map.1 (List.mem_reverse.1 hslot)
    exact h (beq_iff_eq.1 heq ▸ (List.mem_filter.1 hother).1)
  have hkey : p.key = key := by simpa using List.find?_some hp
  have hdeclared : declaredSlot call p = ⟨key, some p.value⟩ := by
    rw [declaredSlot, hkey, if_neg (by simpa using h)]
  have hfound : ((required endpoint).reverse.find? ((·.key == key) ∘ declaredSlot call)) = some p := hp
  rw [slots, List.reverse_append, List.find?_append, hcomputed, Option.none_or, ← List.map_reverse, List.find?_map,
    hfound, Option.map_some, hdeclared]

theorem lastRule?_eq_none {key : String} (h : lastRule? call .header key = none) : key ∉ ruleKeys call := by
  intro hkey
  obtain ⟨r, hr, rfl⟩ := List.mem_map.1 hkey
  exact absurd (beq_self_eq_true _) (List.find?_eq_none.1 h r (List.mem_reverse.2 hr))

theorem mem_ruleKeys_of_lastRule? {key : String} {rule : OutboundRule} (h : lastRule? call .header key = some rule) :
    key ∈ ruleKeys call := by
  have hkey : rule.key = key := by simpa using List.find?_some h
  exact hkey ▸ List.mem_map_of_mem (List.mem_reverse.1 (List.mem_of_find?_eq_some h))

/-- The headers of a request with rules, where nothing is changed. Their names are that of the first header and those
that the keys of the required headers and of the rules are rendered as; the headers that are not required do not matter.
Where one key alone leads to a name, its value is the one that the last rule of the key computed, or else the text of
the last required header of that key. -/
theorem headersOf_assembled (houtbound : call.outbound.isSome) :
    (∀ other data, required other = required endpoint → headersOf other call data = headersOf endpoint call data) ∧
    ∀ data prepared headers, (stageData data call .header).outcome .empty = (.ok prepared, .empty) →
      (headersOf endpoint call prepared).outcome .empty = (.ok headers, .empty) →
      (∀ key ∈ headerKeys endpoint call, ∃ name, rendered prepared key = .ok name) ∧
      (∀ name, name ∈ headers.map (·.1) ↔
        name = "Accept" ∨ ∃ key ∈ headerKeys endpoint call, rendered prepared key = .ok name) ∧
      ∀ key name, rendered prepared key = .ok name →
        (∀ other ∈ headerKeys endpoint call, other ≠ key → rendered prepared other ≠ .ok name) →
        (∀ rule, lastRule? call .header key = some rule → ∃ text,
          headerText (ruleValue data .header key (contentOf rule)) = .ok text ∧ entryOf? name headers = some text) ∧
        (lastRule? call .header key = none → ∀ p, lastRequired? endpoint key = some p → ∃ text,
          rendered prepared p.value = .ok text ∧ entryOf? name headers = some text) := by
  refine ⟨fun other data hrequired => ?_, fun data prepared headers hstage hheaders => ?_⟩
  · rw [headersOf_eq houtbound, headersOf_eq houtbound, slots, slots, computedSlots, computedSlots, hrequired]
  rw [headersOf_eq houtbound] at hheaders
  obtain ⟨entries, hentries, rfl⟩ := exists_of_foldlM_withSlot hheaders
  have hnames (name : String) : name ∈ entries.map (·.1) ↔
      ∃ key ∈ headerKeys endpoint call, rendered prepared key = .ok name := by
    rw [mem_names_of_forall₂ hentries]
    constructor
    · rintro ⟨slot, hslot, hname⟩
      exact ⟨slot.key, mem_headerKeys.2 ⟨slot, hslot, rfl⟩, hname⟩
    · rintro ⟨key, hkey, hname⟩
      obtain ⟨slot, hslot, rfl⟩ := mem_headerKeys.1 hkey
      exact ⟨slot, hslot, hname⟩
  refine ⟨fun key hkey => ?_, fun name => ?_, fun key name hname hothers => ?_⟩
  · obtain ⟨slot, hslot, rfl⟩ := mem_headerKeys.1 hkey
    obtain ⟨entry, hentry⟩ := exists_of_mem_forall₂ hentries hslot
    exact ⟨entry.1, hentry.1⟩
  · rw [mem_keys_putEntries, hnames, or_comm]
    exact or_congr_left List.mem_singleton
  · have hlast {slot : Slot} (hslot : (slots endpoint call).reverse.find? (·.key == key) = some slot) :
        ∃ text, ((slot.value prepared).outcome .empty).1 = .ok text ∧
          entryOf? name (putEntries entries defaultHeaders) = some text := by
      obtain ⟨text, htext, hfound⟩ := lastOf?_of_forall₂ hentries hname
        (fun s hs => hothers s.key (mem_headerKeys.2 ⟨s, hs, rfl⟩)) hslot
      exact ⟨text, htext, by rw [entryOf?_putEntries, hfound, Option.some_or]⟩
    refine ⟨fun rule hrule => ?_, fun hnone p hp => hlast (find?_slots_of_not_mem (lastRule?_eq_none hnone) hp)⟩
    obtain ⟨text, htext, hfound⟩ := hlast (find?_slots_of_mem (mem_ruleKeys_of_lastRule? hrule))
    rw [← entryOf_stageData hstage hrule]
    exact ⟨text, headerText_of_computedHeader htext, hfound⟩

/-- A header that is declared twice, one that is not required, and a key with two rules. -/
theorem headersOf_assembled_last :
    ∃ prepared headers,
      (stageData (.ofDocument "data" [] (.object [])) ⟨"e", some [⟨⟨"K", "v", some .template⟩, .header⟩,
        ⟨⟨"K", "w", some .template⟩, .header⟩], none, none⟩ .header).outcome .empty = (.ok prepared, .empty) ∧
      (headersOf ⟨"GET", "/", [⟨"A", "x", true, "string"⟩, ⟨"B", "y", false, "string"⟩, ⟨"A", "z", true, "string"⟩],
        [], "", none⟩ ⟨"e", some [⟨⟨"K", "v", some .template⟩, .header⟩, ⟨⟨"K", "w", some .template⟩, .header⟩],
        none, none⟩ prepared).outcome .empty = (.ok headers, .empty) ∧
      (∀ name, name ∈ headers.map (·.1) ↔ name = "Accept" ∨ name = "A" ∨ name = "K") ∧
      entryOf? "A" headers = some "z" ∧ entryOf? "K" headers = some "w" := by
  have hstage : (stageData (.ofDocument "data" [] (.object [])) ⟨"e", some [⟨⟨"K", "v", some .template⟩, .header⟩,
      ⟨⟨"K", "w", some .template⟩, .header⟩], none, none⟩ .header).outcome .empty =
      (.ok (.newMap (Value.putKey (.newText "K") (.text (.placed "header" (pathOf "K")) "w")
        (Value.putKey (.newText "K") (.text (.placed "header" (pathOf "K")) "v") []))), .empty) := by rfl
  generalize hprepared : Value.newMap (Value.putKey (.newText "K") (.text (.placed "header" (pathOf "K")) "w")
        (Value.putKey (.newText "K") (.text (.placed "header" (pathOf "K")) "v") [])) = prepared at hstage
  have hentry : entryOf prepared "K" = .text (.placed "header" (pathOf "K")) "w" := by
    rw [← hprepared]
    show (Value.lookup (.newText "K") _).getD .none = _
    rw [Value.lookup_putKey_self]
    rfl
  have hcomputed : (computedHeader prepared "K").outcome .empty = (.ok "w", .empty) := by
    rw [computedHeader, hentry]
    rfl
  have htext (source : String) (h : source ∈ ["A", "x", "z", "K"]) :
      (Step.text source prepared).outcome .empty = (.ok source, .empty) := by
    simp only [List.mem_cons, List.not_mem_nil, or_false] at h
    rcases h with rfl | rfl | rfl | rfl <;> rfl
  have hslot (slot : Slot) (value : String) (headers : List (String × String)) (hkey : slot.key ∈ ["A", "x", "z", "K"])
      (hvalue : (slot.value prepared).outcome .empty = (.ok value, .empty)) :
      (withSlot prepared headers slot).outcome .empty = (.ok (putEntry slot.key value headers), .empty) := by
    rw [withSlot, Step.outcome_bind_of_ok _ _ (htext _ hkey), Step.outcome_bind_of_ok _ _ hvalue]
    rfl
  have hheaders : (headersOf ⟨"GET", "/", [⟨"A", "x", true, "string"⟩, ⟨"B", "y", false, "string"⟩,
      ⟨"A", "z", true, "string"⟩], [], "", none⟩ ⟨"e", some [⟨⟨"K", "v", some .template⟩, .header⟩,
      ⟨⟨"K", "w", some .template⟩, .header⟩], none, none⟩ prepared).outcome .empty =
      (.ok [("Accept", "application/json"), ("A", "z"), ("K", "w")], .empty) := by
    rw [headersOf_eq rfl]
    show (List.foldlM (withSlot prepared) defaultHeaders
      [⟨"A", some "x"⟩, ⟨"A", some "z"⟩, ⟨"K", none⟩, ⟨"K", none⟩]).outcome .empty = _
    simp only [List.foldlM_cons, List.foldlM_nil]
    rw [Step.outcome_bind_of_ok _ _ (hslot ⟨"A", some "x"⟩ "x" _ (by decide) (htext "x" (by decide))),
      Step.outcome_bind_of_ok _ _ (hslot ⟨"A", some "z"⟩ "z" _ (by decide) (htext "z" (by decide))),
      Step.outcome_bind_of_ok _ _ (hslot ⟨"K", none⟩ "w" _ (by decide) hcomputed),
      Step.outcome_bind_of_ok _ _ (hslot ⟨"K", none⟩ "w" _ (by decide) hcomputed)]
    rfl
  have hrendered (source : String) (h : source ∈ ["A", "x", "z", "K"]) : rendered prepared source = .ok source :=
    congrArg Prod.fst (htext source h)
  obtain ⟨-, hnames, hvalues⟩ := (headersOf_assembled (by rfl)).2 _ _ _ hstage hheaders
  have hlisted : ∀ key ∈ ["A", "A", "K", "K"], key ∈ ["A", "x", "z", "K"] := by decide
  have hothers (key : String) : ∀ other ∈ ["A", "A", "K", "K"], other ≠ key → rendered prepared other ≠ .ok key := by
    intro other hother hne
    rw [hrendered other (hlisted other hother)]
    simpa using hne
  refine ⟨prepared, _, hstage, hheaders, fun name => (hnames name).trans (or_congr_right ?_), ?_, ?_⟩
  · show (∃ key ∈ ["A", "A", "K", "K"], rendered prepared key = .ok name) ↔ _
    constructor
    · rintro ⟨key, hkey, hname⟩
      rw [hrendered key (hlisted key hkey)] at hname
      cases hname
      simpa using hkey
    · rintro (rfl | rfl)
      · exact ⟨"A", by decide, hrendered "A" (by decide)⟩
      · exact ⟨"K", by decide, hrendered "K" (by decide)⟩
  · obtain ⟨text, htext, hfound⟩ := (hvalues "A" "A" (hrendered "A" (by decide)) (hothers "A")).2 rfl _ rfl
    rw [hrendered "z" (by decide)] at htext
    cases htext
    exact hfound
  · obtain ⟨text, htext, hfound⟩ := (hvalues "K" "K" (hrendered "K" (by decide)) (hothers "K")).1 _ rfl
    cases htext
    exact hfound

end Request

end Courier
