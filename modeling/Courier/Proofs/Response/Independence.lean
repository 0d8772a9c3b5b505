import Mathlib
import Courier.Proofs.Language.Documents
import Courier.Proofs.Response.Content
import Courier.Proofs.Response.Rules
import Courier.Proofs.Template.SingleTag

/-! Rules that do not see each other. The output under a name is what the last rule of that name gives by itself, and a
rule that is a single tag gives the text of the first of three layers that has its name: the headers of the response,
its content, and the data of the request. -/

namespace Courier.Response

open Courier.Language Courier.Template

/-- What the values of rules see of a response whose content is an object. -/
def seen (r : Response) (before : List (Value × Value)) (fields : List (String × Document)) : Value :=
  .newMap (Value.putKeys r.headerEntries (Value.putKeys (Value.ofEntries "content" [] 0 fields) before))

/-- The output before the rules: status and content. -/
def basicEntries (r : Response) (fields : List (String × Document)) : List (String × Value) :=
  [("status", .newInt r.status), ("response", .ofDocument "content" [] (.object fields))]

variable {r : Response} {fields : List (String × Document)} {identity : Identity} {before : List (Value × Value)}
  {endpoint : Endpoint} {call : Call} {rules : List Rule}

/-- The output of a response under status 200 whose content is an object: what its rules set, over status and content. -/
theorem output_eq (hstatus : r.status = 200) (hcontent : r.content = .ok (.object fields))
    (hinbound : call.inbound = some rules) :
    r.output (.map identity before) endpoint call =
      withRules endpoint (.map identity before) (r.seen before fields)
        (r.whole (.ofDocument "content" [] (.object fields))) 0 rules (outputOf (r.basicEntries fields)) >>=
      fun entries => Step.settled (.newMap entries) := by
  have haccepted : r.accepted = .ok (.object fields) := by simp [accepted, hstatus, hcontent, Except.mapError]
  unfold output
  rw [isJson_of_content hcontent, haccepted, hinbound]
  rfl

theorem exists_of_outcome_output (hstatus : r.status = 200) (hcontent : r.content = .ok (.object fields))
    (hinbound : call.inbound = some rules) {out : Value}
    (hout : (r.output (.map identity before) endpoint call).outcome .empty = (.ok out, .empty)) :
    ∃ pairs, Sets endpoint (.map identity before) (r.seen before fields)
        (r.whole (.ofDocument "content" [] (.object fields))) 0 rules pairs ∧
      out = .newMap (outputOf (putEntries pairs (r.basicEntries fields))) := by
  rw [output_eq hstatus hcontent hinbound] at hout
  obtain ⟨output, after, hrules, hsettled⟩ := Step.exists_of_outcome_bind_ok hout
  have hafter := (Step.keeps_settled _).eq_empty hsettled
  subst hafter
  obtain ⟨pairs, hsets, rfl⟩ := exists_of_outcome_withRules hrules
  cases hsettled
  exact ⟨pairs, hsets, Value.settle_nil _⟩

theorem Sets.outcome_output (hstatus : r.status = 200) (hcontent : r.content = .ok (.object fields))
    (hinbound : call.inbound = some rules) {pairs : List (String × Value)}
    (h : Sets endpoint (.map identity before) (r.seen before fields)
      (r.whole (.ofDocument "content" [] (.object fields))) 0 rules pairs) :
    (r.output (.map identity before) endpoint call).outcome .empty =
      (.ok (.newMap (outputOf (putEntries pairs (r.basicEntries fields)))), .empty) := by
  rw [output_eq hstatus hcontent hinbound, Step.outcome_bind_of_ok _ _ (h.outcome_withRules _)]
  exact congrArg (fun v => (Except.ok v, Memory.empty)) (Value.settle_nil _)

/-! ### Layers -/

/-- The headers of a response as the entries of an object. -/
def headerFields (r : Response) : List (String × Document) := r.firstHeaders.map fun h => (h.1, .text h.2)

/-- The text of the first layer that has a name: the headers, the content, the data. -/
def layered (r : Response) (fields entries : List (String × Document)) (name : String) : String :=
  (((lastOf? name r.firstHeaders).or ((entryOf? name fields).map Document.plainText)).or
    ((entryOf? name entries).map Document.plainText)).getD ""

/-- A name that a tag of a rule looks up by itself: it has no points, and nothing else is called so. -/
structure IsLayerName (name : String) : Prop where
  points : '.' ∉ name.toList
  codes : ∀ c ∈ name.toList, Text.codePoint c ≤ 0xFFFF
  free : name ≠ lookupName ∧ Context.builtin? name = none

/-- The layers under which a tag looks up names: the data are entries of an object, and no layer has an entry under the
name of the look-up. -/
structure AreLayers (r : Response) (fields : List (String × Document)) (before : List (Value × Value))
    (entries : List (String × Document)) : Prop where
  entriesOf : Value.AreEntriesOf entries before
  json : (Document.object entries).IsJson
  headers : lookupName ∉ r.firstHeaders.map (·.1)
  content : entryOf? lookupName fields = none
  data : entryOf? lookupName entries = none

/-- The entries of all layers, those of a later layer over those of an earlier one. -/
def allLayers (r : Response) (fields entries : List (String × Document)) : List (String × Document) :=
  putEntries r.headerFields (putEntries fields entries)

theorem isJson_allLayers {entries : List (String × Document)} (hfields : (Document.object fields).IsJson)
    (hentries : (Document.object entries).IsJson) : (Document.object (r.allLayers fields entries)).IsJson := by
  have hall : ∀ e ∈ fields, e.2.IsJson := by
    cases hfields with
    | object _ _ hall => exact hall
  apply Document.IsJson.object_putEntries
  · intro e he
    obtain ⟨h, -, rfl⟩ := List.mem_map.1 he
    exact .text h.2
  · exact Document.IsJson.object_putEntries hall hentries

theorem entryOf?_allLayers {entries : List (String × Document)} (hfields : (Document.object fields).IsJson)
    (name : String) :
    entryOf? name (r.allLayers fields entries) =
      ((lastOf? name r.firstHeaders).map .text).or ((entryOf? name fields).or (entryOf? name entries)) := by
  have hkeys : (fields.map (·.1)).Nodup := by
    cases hfields with
    | object _ hkeys _ => exact hkeys
  rw [allLayers, entryOf?_putEntries, entryOf?_putEntries, lastOf?_of_nodup hkeys, headerFields, lastOf?_map]

theorem IsLayerName.segments_eq {name : String} (h : IsLayerName name) : Path.segments name = [name] := by
  have hjoin : Text.join "." [name] = name := by simp [Text.join]
  have hpoints : ∀ key ∈ [name], '.' ∉ key.toList := List.forall_mem_singleton.2 h.points
  have hkeys := Path.segments_join (List.cons_ne_nil name []) hpoints
  rwa [hjoin] at hkeys

/-- What is told of a name without points is the text of the first layer that has it. -/
theorem told_allLayers {entries : List (String × Document)} (hfields : (Document.object fields).IsJson) {name : String}
    (hname : IsLayerName name) : told (.object (r.allLayers fields entries)) name = .ok (r.layered fields entries name) := by
  rw [told, hname.segments_eq, Document.walk_object_cons, entryOf?_allLayers hfields, layered]
  cases lastOf? name r.firstHeaders with
  | some text => rfl
  | none =>
      cases entryOf? name fields with
      | some d => rfl
      | none => cases entryOf? name entries <;> rfl

/-- A tag is rendered on the layers as what is told under its name in all of them. -/
theorem AreLayers.render_told {entries : List (String × Document)} (h : r.AreLayers fields before entries)
    (hfields : (Document.object fields).IsJson) {source name : String} (hsource : IsTag source name)
    (hcodes : ∀ c ∈ name.toList, Text.codePoint c ≤ 0xFFFF)
    (hlooked : IsLookedUp (r.allLayers fields entries) name.toList) {s : String}
    (hs : told (.object (r.allLayers fields entries)) name = .ok s) :
    render source (r.seen before fields) .empty = (.ok s, .empty) := by
  have hseen : Value.AreEntriesOf (r.allLayers fields entries)
      (Value.putKeys r.headerEntries (Value.putKeys (Value.ofEntries "content" [] 0 fields) before)) :=
    Value.areEntriesOf_putKeys (Value.areEntriesOf_texts r.firstHeaders)
      (Value.areEntriesOf_putKeys (Value.areEntriesOf_ofEntries "content" [] 0 fields) h.entriesOf)
  have hjson := isJson_allLayers (r := r) hfields h.json
  have hkeys : ((r.allLayers fields entries).map (·.1)).Nodup := by
    cases hjson with
    | object _ hkeys _ => exact hkeys
  obtain ⟨context, hcontext, hrel⟩ := Context.exists_ofValue_of_areEntriesOf hseen hkeys .loose
  have hlookup : entryOf? lookupName (r.allLayers fields entries) = none := by
    rw [entryOf?_allLayers hfields, lastOf?_eq_none h.headers, h.content, h.data]
    rfl
  exact Template.render_tag hsource hcontext hrel hjson hlookup hcodes hlooked hs

/-- A tag of a name is rendered as the text of the first layer that has the name. -/
theorem AreLayers.render_tag {entries : List (String × Document)} (h : r.AreLayers fields before entries)
    (hfields : (Document.object fields).IsJson) {source name : String} (hsource : IsTag source name)
    (hname : IsLayerName name) :
    render source (r.seen before fields) .empty = (.ok (r.layered fields entries name), .empty) := by
  have hlooked : IsLookedUp (r.allLayers fields entries) name.toList := by
    intro first rest hsegments
    rw [String.ofList_toList, hname.segments_eq] at hsegments
    cases hsegments
    exact Or.inr ⟨hname.free.2, hname.free.1⟩
  exact h.render_told hfields hsource hname.codes hlooked (told_allLayers hfields hname)

/-! ### Independence -/

/-- A template that is a tag has braces in it, so that it is not blank. -/
theorem isBlankText_of_isTag {source name : String} (h : IsTag source name) : Text.isBlankText source = false := by
  have hbrace : '\x7b' ∈ source.toList := by
    by_contra hnone
    rw [IsTag, cut_of_not_mem hnone] at h
    simp at h
  rw [Text.isBlankText, List.all_eq_false]
  exact ⟨'\x7b', hbrace, by decide⟩

/-- A rule whose value is a template sets the text that the template is rendered as. -/
theorem outcome_ruleStep_of_render {rule : Rule} (hblank : Text.isBlankText rule.value = false)
    (hformat : Mapping.formatOf rule.format (ruleValue endpoint rule) = .template) {all : Value} {s : String}
    (hrender : render (ruleValue endpoint rule) all .empty = (.ok s, .empty)) (whole : Value) (position : Nat) :
    (ruleStep endpoint all whole position rule).outcome .empty =
      (.ok (.text (.placed "output" [position]) s), .empty) := by
  have hevaluate : Step.outcome (Step.evaluating (Mapping.evaluate .template (ruleValue endpoint rule) all)) .empty =
      (.ok (.newText s), .empty) := by
    show ((Mapping.evaluate .template (ruleValue endpoint rule) all .empty).1.mapError Error.fault,
      (Mapping.evaluate .template (ruleValue endpoint rule) all .empty).2) = _
    rw [Mapping.evaluate, Mapping.text, hrender]
    rfl
  rw [ruleStep, hblank, hformat]
  exact (Step.outcome_bind_of_ok _ _ hevaluate).trans rfl

/-- A rule that is a tag sets the text of the first layer that has the name of the tag. -/
theorem AreLayers.outcome_ruleStep {entries : List (String × Document)} (h : r.AreLayers fields before entries)
    (hfields : (Document.object fields).IsJson) {rule : Rule} {name : String}
    (hurl : Collection.isUrl endpoint.url = false) (hformat : Mapping.formatOf rule.format rule.value = .template)
    (htag : IsTag rule.value name) (hname : IsLayerName name) (whole : Value) (position : Nat) :
    (ruleStep endpoint (r.seen before fields) whole position rule).outcome .empty =
      (.ok (.text (.placed "output" [position]) (r.layered fields entries name)), .empty) := by
  have hvalue : ruleValue endpoint rule = rule.value := by simp [ruleValue, hurl]
  rw [← hvalue] at hformat htag
  exact outcome_ruleStep_of_render (isBlankText_of_isTag (hvalue ▸ htag)) hformat (h.render_tag hfields htag hname)
    whole position

/-- The rules of a response under status 200 whose content is an object do not see each other, as long as they change
nothing of the data: the output has status, content, and a variable for each name of a rule. The variable of a name is
what the last rule of that name gives by itself, and for a rule that is a tag of a name the text of the first layer that
has that name: the headers, the content, the data. -/
theorem output_independent (hstatus : r.status = 200) (hcontent : r.content = .ok (.object fields))
    (hinbound : call.inbound = some rules) {out : Value}
    (hout : (r.output (.map identity before) endpoint call).outcome .empty = (.ok out, .empty)) :
    ∃ entries, out = .newMap (outputOf entries) ∧ (entries.map (·.1)).Nodup ∧
      (∀ name, name ∈ entries.map (·.1) ↔
        name = "status" ∨ name = "response" ∨ ∃ rule ∈ rules, nameOf (.map identity before) rule = .ok name) ∧
      ∀ front rule back name, rules = front ++ rule :: back → nameOf (.map identity before) rule = .ok name →
        (∀ later ∈ back, nameOf (.map identity before) later ≠ .ok name) →
        (∃ v single, (r.output (.map identity before) endpoint { call with inbound := some [rule] }).outcome .empty =
            (.ok (.newMap (outputOf single)), .empty) ∧
          entryOf? name single = some (atRest rule 0 v) ∧
          entryOf? name entries = some (atRest rule front.length v) ∧
          (atRest rule front.length v).toDocument = (atRest rule 0 v).toDocument) ∧
        ∀ key layers, Collection.isUrl endpoint.url = false →
          Mapping.formatOf rule.format rule.value = .template → IsTag rule.value key → IsLayerName key →
          r.AreLayers fields before layers →
          entryOf? name entries = some (.text (.placed "output" [front.length]) (r.layered fields layers key)) := by
  obtain ⟨pairs, hsets, rfl⟩ := exists_of_outcome_output hstatus hcontent hinbound hout
  refine ⟨putEntries pairs (r.basicEntries fields), rfl, ?_, ?_, ?_⟩
  · exact nodup_keys_putEntries (show ["status", "response"].Nodup by decide)
  · intro name
    rw [mem_keys_putEntries, mem_keys_of_forall₂ hsets.forall₂]
    simp only [basicEntries, List.map_cons, List.map_nil, List.mem_cons, List.not_mem_nil, or_false]
    rw [or_comm, or_assoc]
  · rintro front rule back name rfl hname hlast
    obtain ⟨found, hfound, htext, hvalue⟩ := hsets.exists_entryOf? (r.basicEntries fields) hname hlast
    constructor
    · obtain ⟨v, rfl, hanywhere⟩ := exists_atRest hvalue
      have halone : (r.output (.map identity before) endpoint { call with inbound := some [rule] }).outcome .empty =
          (.ok (.newMap (outputOf (putEntries [(name, atRest rule 0 v)] (r.basicEntries fields)))), .empty) :=
        Sets.outcome_output hstatus hcontent rfl (.cons htext (hanywhere 0) (.nil 1))
      have hsame : (atRest rule front.length v).toDocument = (atRest rule 0 v).toDocument := by
        rw [toDocument_atRest, toDocument_atRest]
      exact ⟨v, _, halone, entryOf?_putEntry_self _ _ _, hfound, hsame⟩
    · intro key layers hurl hformat htag hkey hlayers
      have hstep := hlayers.outcome_ruleStep (isJson_content hcontent) hurl hformat htag hkey
        (r.whole (.ofDocument "content" [] (.object fields))) front.length
      rw [hstep] at hvalue
      cases hvalue
      exact hfound

/-- Of two rules of one name the last one counts, and the first value of a header comes before the content. -/
theorem output_independent_header :
    ∃ entries, (output ⟨200, "\x7b\"id\": 7\x7d", [("id", ["h", "i"])]⟩
        (.ofDocument "data" [] (.object [("id", .int 1), ("who", .text "Ada")])) ⟨"GET", "http://h/", [], [], "", none⟩
        ⟨"e", none, some [⟨"a", "\x7b\x7bwho\x7d\x7d", none⟩, ⟨"b", "\x7b\x7bwho\x7d\x7d", none⟩,
          ⟨"a", "\x7b\x7bid\x7d\x7d", none⟩], none⟩).outcome .empty = (.ok (.newMap (outputOf entries)), .empty) ∧
      "status" ∈ entries.map (·.1) ∧ "b" ∈ entries.map (·.1) ∧
      entryOf? "a" entries = some (.text (.placed "output" [2]) "h") ∧
      entryOf? "b" entries = some (.text (.placed "output" [1]) "Ada") := by
  have hread : Json.read "\x7b\"id\": 7\x7d" = .ok (.object [("id", .int 7)]) := by cbv
  have hblank : isBlank ⟨200, "\x7b\"id\": 7\x7d", [("id", ["h", "i"])]⟩ = false := by decide
  have hcontent : content ⟨200, "\x7b\"id\": 7\x7d", [("id", ["h", "i"])]⟩ = .ok (.object [("id", .int 7)]) := by
    rw [content, hblank]
    exact hread
  have hfields : (Document.object [("id", .int 7)]).IsJson := isJson_content hcontent
  have hjson : (Document.object [("id", .int 1), ("who", .text "Ada")]).IsJson := by
    refine .object _ (by decide) fun e he => ?_
    rcases List.mem_pair.1 he with rfl | rfl
    · exact .int 1 rfl
    · exact .text "Ada"
  have hlayers : AreLayers ⟨200, "\x7b\"id\": 7\x7d", [("id", ["h", "i"])]⟩ [("id", .int 7)]
      (Value.ofEntries "data" [] 0 [("id", .int 1), ("who", .text "Ada")]) [("id", .int 1), ("who", .text "Ada")] :=
    ⟨Value.areEntriesOf_ofEntries "data" [] 0 _, hjson, by decide, rfl, rfl⟩
  have hwho : IsLayerName "who" := ⟨by decide, List.forall_iff_forall_mem.1 (by decide), by decide, rfl⟩
  have hid : IsLayerName "id" := ⟨by decide, List.forall_iff_forall_mem.1 (by decide), by decide, rfl⟩
  have hurl : Collection.isUrl "http://h/" = false := by decide
  have hwhoTag : IsTag "\x7b\x7bwho\x7d\x7d" "who" := by decide
  have hidTag : IsTag "\x7b\x7bid\x7d\x7d" "id" := by decide
  have hname (key : String) (h : Template.isPlain key = true) :
      (Step.text key (.ofDocument "data" [] (.object [("id", .int 1), ("who", .text "Ada")]))).outcome .empty =
        (.ok key, .empty) := by
    rw [Step.outcome_text, Mapping.text, render, if_pos h]
    rfl
  have hstep (name : String) {value key : String} (htag : IsTag value key) (hkey : IsLayerName key)
      (hformat : Mapping.formatOf none value = .template) (position : Nat) :
      (ruleStep ⟨"GET", "http://h/", [], [], "", none⟩
          (seen ⟨200, "\x7b\"id\": 7\x7d", [("id", ["h", "i"])]⟩
            (Value.ofEntries "data" [] 0 [("id", .int 1), ("who", .text "Ada")]) [("id", .int 7)])
          (whole ⟨200, "\x7b\"id\": 7\x7d", [("id", ["h", "i"])]⟩ (.ofDocument "content" [] (.object [("id", .int 7)])))
          position ⟨name, value, none⟩).outcome .empty = _ :=
    hlayers.outcome_ruleStep hfields hurl hformat htag hkey _ position
  have hout := Sets.outcome_output rfl hcontent (show (⟨"e", none, some [⟨"a", "\x7b\x7bwho\x7d\x7d", none⟩,
      ⟨"b", "\x7b\x7bwho\x7d\x7d", none⟩, ⟨"a", "\x7b\x7bid\x7d\x7d", none⟩], none⟩ : Call).inbound = _ from rfl)
    (.cons (hname "a" rfl) (hstep "a" hwhoTag hwho rfl 0) (.cons (hname "b" rfl) (hstep "b" hwhoTag hwho rfl 1)
      (.cons (hname "a" rfl) (hstep "a" hidTag hid rfl 2) (.nil 3))))
  obtain ⟨entries, hentries, -, hkeys, hrule⟩ := output_independent rfl hcontent rfl hout
  have hnamed (key value : String) (h : Template.isPlain key = true) :
      nameOf (.ofDocument "data" [] (.object [("id", .int 1), ("who", .text "Ada")])) ⟨key, value, none⟩ = .ok key :=
    congrArg Prod.fst (hname key h)
  have hother : ∀ later ∈ [(⟨"a", "\x7b\x7bid\x7d\x7d", none⟩ : Rule)],
      nameOf (.ofDocument "data" [] (.object [("id", .int 1), ("who", .text "Ada")])) later ≠ .ok "b" := by
    refine List.forall_mem_singleton.2 fun heq => ?_
    rw [hnamed "a" _ rfl] at heq
    exact absurd (Except.ok.inj heq) (by decide)
  obtain ⟨-, hfirst⟩ := hrule [_, _] _ [] "a" rfl (hnamed "a" _ rfl) (List.forall_mem_nil _)
  obtain ⟨-, hsecond⟩ := hrule [_] _ [_] "b" rfl (hnamed "b" _ rfl) hother
  refine ⟨entries, hentries ▸ hout, ?_, ?_, ?_, ?_⟩
  · exact (hkeys "status").2 (Or.inl rfl)
  · exact (hkeys "b").2 (Or.inr (Or.inr ⟨_, List.mem_cons_of_mem _ List.mem_cons_self, hnamed "b" _ rfl⟩))
  · exact hfirst "id" _ hurl rfl hidTag hid hlayers
  · exact hsecond "who" _ hurl rfl hwhoTag hwho hlayers

end Courier.Response
