import Mathlib
import Courier.Exchange.Send
import Courier.Proofs.Document.Written
import Courier.Proofs.Formula.Agreement
import Courier.Proofs.Url.Form

/-! Structures that are sent as forms. What a tag makes of a structure is JSON that is read back before it is sent, so
that the fields of the structure itself go out, and whoever reads the form finds them in their order. A structure that
is nested deeper than JSON is read is not sent at all. -/

namespace Courier

open Courier.Text

namespace Text

theorem IsEncodable.append {s t : String} (hs : IsEncodable s) (ht : IsEncodable t) : IsEncodable (s ++ t) := by
  intro c hc
  rw [String.toList_append, List.mem_append] at hc
  exact hc.elim (hs c) (ht c)

theorem isEncodable_of_ascii {s : String} (h : ∀ c ∈ s.toList, c.toNat < 128) : IsEncodable s :=
  fun c hc => isScalar_of_lt (h c hc)

theorem isScalar_of_mem_toDigits {n : Nat} {c : Char} (h : c ∈ Nat.toDigits 10 n) : isScalar c :=
  isScalar_of_lt (toNat_lt_of_isAsciiDigit (Json.isAsciiDigit_of_mem_toDigits h))

theorem isEncodable_toString (n : Nat) : IsEncodable (toString n) := by
  intro c hc
  have hrepr : toString n = String.ofList (Nat.toDigits 10 n) := Nat.repr_eq_ofList_toDigits
  rw [hrepr, String.toList_ofList] at hc
  exact isScalar_of_mem_toDigits hc

theorem isEncodable_writeInt (i : Int) : IsEncodable (Number.writeInt i) := by
  intro c hc
  rw [Json.toList_writeInt] at hc
  split at hc
  · rcases List.mem_cons.1 hc with rfl | hc
    · exact isScalar_of_lt (by decide)
    · exact isScalar_of_mem_toDigits hc
  · exact isScalar_of_mem_toDigits hc

end Text

namespace Document

/-- Documents that hold others: the only ones with fields. -/
def IsContainer (d : Document) : Prop := (∃ items, d = .list items) ∨ ∃ entries, d = .object entries

end Document

namespace Exchange

/-! ### Fields -/

/-- Fields whose names and texts have a UTF-8 form. -/
def AreEncodable (fields : List (String × String)) : Prop := ∀ f ∈ fields, IsEncodable f.1 ∧ IsEncodable f.2

theorem AreEncodable.append {fields more : List (String × String)} (h : AreEncodable fields)
    (hmore : AreEncodable more) : AreEncodable (fields ++ more) :=
  fun f hf => (List.mem_append.1 hf).elim (h f) (hmore f)

theorem areEncodable_singleton {name s : String} (hname : IsEncodable name) (hs : IsEncodable s) :
    AreEncodable [(name, s)] := by
  intro f hf
  rw [List.mem_singleton.1 hf]
  exact ⟨hname, hs⟩

theorem isEncodable_fieldName {parent key : String} (hparent : IsEncodable parent) (hkey : IsEncodable key) :
    IsEncodable (fieldName parent key) := by
  unfold fieldName
  split
  · exact hkey
  · exact ((hparent.append (isEncodable_of_ascii (by simp))).append hkey).append (isEncodable_of_ascii (by simp))

theorem areEncodable_itemLeaves {items : List Document}
    (h : ∀ d ∈ items, ∀ name, IsEncodable name → AreEncodable (leaves name d)) {parent : String}
    (hparent : IsEncodable parent) (position : Nat) : AreEncodable (itemLeaves parent position items) := by
  induction items generalizing position with
  | nil => exact List.forall_mem_nil _
  | cons d items ih =>
      rw [itemLeaves]
      have hname := isEncodable_fieldName hparent (isEncodable_toString position)
      exact (h d List.mem_cons_self _ hname).append (ih (fun d hd => h d (List.mem_cons_of_mem _ hd)) (position + 1))

theorem areEncodable_entryLeaves {entries : List (String × Document)} (hkeys : ∀ e ∈ entries, IsEncodable e.1)
    (h : ∀ e ∈ entries, ∀ name, IsEncodable name → AreEncodable (leaves name e.2)) {parent : String}
    (hparent : IsEncodable parent) : AreEncodable (entryLeaves parent entries) := by
  induction entries with
  | nil => exact List.forall_mem_nil _
  | cons e entries ih =>
      rw [entryLeaves]
      have hname := isEncodable_fieldName hparent (hkeys e List.mem_cons_self)
      exact (h e List.mem_cons_self _ hname).append
        (ih (fun e he => hkeys e (List.mem_cons_of_mem _ he)) fun e he => h e (List.mem_cons_of_mem _ he))

/-- The fields of a document whose texts have a UTF-8 form have one too. -/
theorem areEncodable_leaves {room : Nat} {d : Document} (h : d.IsWithin room) (hd : d.IsEncodable) (name : String)
    (hname : IsEncodable name) : AreEncodable (leaves name d) := by
  induction h generalizing name with
  | null => exact List.forall_mem_nil _
  | bool _ b => exact areEncodable_singleton hname (isEncodable_of_ascii (by cases b <;> simp))
  | int _ i => exact areEncodable_singleton hname (isEncodable_writeInt i)
  | text _ s =>
      cases hd with
      | text _ hs => exact areEncodable_singleton hname hs
  | list _ items _ ih =>
      cases hd with
      | list _ hitems => exact areEncodable_itemLeaves (fun d hd name hname => ih d hd (hitems d hd) name hname) hname 0
  | object _ entries _ ih =>
      cases hd with
      | object _ hkeys hentries =>
          exact areEncodable_entryLeaves hkeys (fun e he name hname => ih e he (hentries e he) name hname) hname

/-- The fields that are sent have a UTF-8 form if the texts of the document have one. -/
theorem areEncodable_formFields {room : Nat} {d : Document} (h : d.IsWithin room) (hd : d.IsEncodable) :
    AreEncodable (formFields "" d) := by
  have hleaves := areEncodable_leaves h hd "" (isEncodable_of_ascii (by simp))
  have hput : AreEncodable (putEntries (leaves "" d) []) := by
    intro f hf
    rcases mem_putEntries hf with hf | hf
    · exact hleaves f hf
    · cases hf
  cases d with
  | list | object => exact hput
  | _ => exact List.forall_mem_nil _

/-! ### Bytes -/

theorem exists_writeQuery {fields : List (String × String)} (h : AreEncodable fields) :
    ∃ query, Url.writeQuery fields = .ok query := by
  have hpair : ∀ f ∈ fields, ∃ piece, Url.writePair f.1 f.2 = .ok piece := by
    intro f hf
    obtain ⟨hname, hvalue⟩ := h f hf
    unfold Url.writePair formText
    rw [utf8_eq_ok hname, utf8_eq_ok hvalue]
    exact ⟨_, rfl⟩
  obtain ⟨pieces, hpieces⟩ := exists_mapM_ok hpair
  refine ⟨join "&" pieces, ?_⟩
  unfold Url.writeQuery
  rw [hpieces]
  rfl

/-- The characters of a query are bytes of it. -/
theorem bytesOf_writeQuery {fields : List (String × String)} {query : String}
    (h : Url.writeQuery fields = .ok query) : Payload.body.bytesOf query = utf8Bytes query.toList := by
  have hascii : ∀ c ∈ query.toList, c.toNat < 128 := by
    intro c hc
    have hquery := Url.isQueryChar_of_writeQuery h c hc
    simp only [Url.isQueryChar, Bool.or_eq_true, beq_iff_eq] at hquery
    rcases hquery with (hform | rfl) | rfl
    · exact toNat_lt_of_isFormChar hform
    · decide
    · decide
  unfold Payload.body.bytesOf utf8Bytes
  generalize query.toList = cs at hascii
  induction cs with
  | nil => rfl
  | cons c cs ih =>
      rw [List.map_cons, List.flatMap_cons, utf8Char_of_lt (hascii c List.mem_cons_self),
        ih fun d hd => hascii d (List.mem_cons_of_mem _ hd)]
      rfl

/-- A body that some fields are read from, all of them in their order, and that is empty where there are none. -/
structure Carries (body : Text.Bytes) (fields : List (String × String)) : Prop where
  read : Url.readQuery (ofUtf8 body) = fields
  empty : fields = [] → body = []

theorem carries_of_writeQuery {fields : List (String × String)} {query : String}
    (h : Url.writeQuery fields = .ok query) : Carries (Payload.body.bytesOf query) fields := by
  refine ⟨?_, ?_⟩
  · rw [bytesOf_writeQuery h, ofUtf8_utf8Bytes, String.ofList_toList, Url.readQuery_writeQuery h]
  · rintro rfl
    cases h
    rfl

/-! ### Messages -/

/-- A request whose body is a structure goes out as a message with the fields of the structure. -/
theorem exists_outgoing {r : Request} {d : Document} {room : Nat} (hform : r.bodyType = some formType)
    (hread : Json.read r.body = .ok d) (hwithin : d.IsWithin room) (hd : d.IsEncodable) {target : Target}
    (htarget : Target.ofRequest r.url = .ok target) {headers : Headers}
    (hheaders : checkedHeaders r.headers = .ok headers) :
    ∃ message, outgoing r = .ok (target, message) ∧ Carries message.body (formFields "" d) := by
  obtain ⟨query, hquery⟩ := exists_writeQuery (areEncodable_formFields hwithin hd)
  have hbody : r.body.isEmpty = false := by
    refine Bool.eq_false_iff.2 fun hempty => ?_
    rw [String.isEmpty_iff.1 hempty] at hread
    cases hread
  have hpayload : Payload.ofRequest r = .ok (.form (formFields "" d)) := by
    unfold Payload.ofRequest
    rw [if_pos (by simp [hform]), if_neg (by simp [hbody]), hread]
    rfl
  have hbytes : (Payload.form (formFields "" d)).body = .ok (Payload.body.bytesOf query) := by
    simp only [Payload.body, hquery]
    rfl
  refine ⟨⟨upper r.method, target.toText, withUser target (withHost (upper r.method) target
    (withBody (.form (formFields "" d)) (Payload.body.bytesOf query) (withAccept headers))),
    Payload.body.bytesOf query⟩, ?_, carries_of_writeQuery hquery⟩
  unfold outgoing
  rw [hpayload, htarget, hheaders]
  simp only [bind, Except.bind, Except.mapError, hbytes]
  rfl

/-! ### What is sent -/

/-- A step that adds to what was sent, and takes nothing of it back. -/
def Adds {α : Type} (step : Online α) : Prop := ∀ network, network.sent <+: (comesTo step network).2.sent

theorem adds_pure {α : Type} (a : α) : Adds (pure a : Online α) := fun network => List.prefix_refl network.sent

theorem comesTo_lift {α : Type} (r : Except Error α) (network : Network) :
    comesTo (Online.lift r) network = (r, network) := by
  cases r <;> rfl

theorem adds_lift {α : Type} (r : Except Error α) : Adds (Online.lift r) := by
  intro network
  rw [comesTo_lift]

/-- What the first of two steps sent stays sent. -/
theorem prefix_bind {α β : Type} (step : Online α) {next : α → Online β} (h : ∀ a, Adds (next a)) (network : Network) :
    (comesTo step network).2.sent <+: (comesTo (step >>= next) network).2.sent := by
  rw [comesTo_bind]
  rcases comesTo step network with ⟨e | a, after⟩
  · exact List.prefix_refl _
  · exact h a after

theorem Adds.bind {α β : Type} {step : Online α} {next : α → Online β} (h : Adds step) (hnext : ∀ a, Adds (next a)) :
    Adds (step >>= next) :=
  fun network => (h network).trans (prefix_bind step hnext network)

/-- The answer in a reply to a message. -/
def answered (target : Target) (message : Message) : Reply → Except Error Answer
  | .failure fault text => .error (.network fault text)
  | .answer status headers body =>
      if target.scheme.isEmpty then .error (.noScheme (withoutBareSign message.url)) else .ok ⟨status, headers, body⟩

/-- A message is sent whatever comes back for it. -/
theorem comesTo_sendOne (target : Target) (message : Message) (network : Network) :
    comesTo (sendOne target message) network =
      (answered target message (network.exchange message).1, (network.exchange message).2) := by
  have hget : comesTo (get : Online Network) network = (.ok network, network) := rfl
  have hset (after : Network) : comesTo (set after : Online PUnit) network = (.ok ⟨⟩, after) := rfl
  unfold sendOne
  rw [comesTo_bind_of_ok _ hget]
  rcases network.exchange message with ⟨reply, after⟩
  dsimp only
  rw [comesTo_bind_of_ok _ (hset after)]
  cases reply with
  | failure fault text => rfl
  | answer status headers body =>
      dsimp only [answered]
      split <;> rfl

/-- Where a message leads on, the messages behind it come after it. -/
theorem prefix_follow {fuel : Nat} (h : ∀ target message, Adds (follow fuel target message)) (target : Target)
    (message : Message) (network : Network) :
    network.sent ++ [message] <+: (comesTo (follow (fuel + 1) target message) network).2.sent := by
  have hsent : (comesTo (sendOne target message) network).2.sent = network.sent ++ [message] := by
    rw [comesTo_sendOne]
    rfl
  rw [← hsent]
  refine prefix_bind _ (fun answer => ?_) network
  split
  · exact adds_lift _
  · exact (adds_lift _).bind fun next => (adds_lift _).bind fun _ => h _ _

theorem adds_follow (fuel : Nat) (target : Target) (message : Message) : Adds (follow fuel target message) := by
  induction fuel generalizing target message with
  | zero => exact adds_lift (.error tooManyRedirects)
  | succ fuel ih => exact fun network => (List.prefix_append _ _).trans (prefix_follow ih target message network)

/-- The first message that goes out for a request is the message of the request. -/
theorem exists_sent {r : Request} {target : Target} {message : Message} (h : outgoing r = .ok (target, message))
    (network : Network) : ∃ more, (comesTo (send r) network).2.sent = network.sent ++ message :: more := by
  have hsend : send r = follow (redirectLimit + 1) target message >>= fun answer => do
      let response ← Online.lift answer.toResponse
      if isFailure response.status then throw (.refused response) else return response := by
    unfold send
    rw [h]
    rfl
  have hprefix : network.sent ++ [message] <+: (comesTo (send r) network).2.sent := by
    rw [hsend]
    refine (prefix_follow (adds_follow redirectLimit) target message network).trans (prefix_bind _ (fun answer => ?_) _)
    refine (adds_lift _).bind fun response => ?_
    split
    · exact adds_lift (.error (.refused response))
    · exact adds_pure response
  obtain ⟨more, hmore⟩ := hprefix
  refine ⟨more, ?_⟩
  rw [← hmore, List.append_assoc]
  rfl

/-! ### Structures -/

section

variable (root : String) {entries : List (String × Document)} (hjson : (Document.object entries).IsJson)
  (hlookup : entryOf? Template.lookupName entries = none) {keys : List String} (hkeys : keys ≠ [])
  (hnames : ∀ key ∈ keys, Formula.isName key) {tag : String} (htag : Template.IsTag tag (join "." keys)) {d : Document}
  (hd : (Document.object entries).under? keys = some d) (hcontainer : d.IsContainer)

include hjson hlookup hkeys hnames htag hd hcontainer

/-- A tag of a structure is rendered as the JSON of it. -/
theorem render_container :
    Template.render tag (.ofDocument root [] (.object entries)) .empty =
      (.ok (Json.write Json.oneLine d), .empty) := by
  have htext : d.plainText = Json.write Json.oneLine d := by
    rcases hcontainer with ⟨items, rfl⟩ | ⟨fields, rfl⟩ <;> rfl
  rw [← htext]
  refine Formula.render_tag_of_names root hjson hlookup hkeys hnames (fun first rest hsplit => Or.inl ?_) htag
    (Document.walk_of_under? hd)
  subst hsplit
  obtain ⟨next, hnext, -⟩ := Option.bind_eq_some_iff.1 hd
  exact Option.isSome_of_eq_some hnext

end

theorem isEncodable_nested (n : Nat) : (Document.nested n).IsEncodable := by
  induction n with
  | zero => exact .int 1
  | succ n ih =>
      refine .list _ fun d hd => ?_
      rwa [List.mem_singleton.1 hd]

/-- Lists that are nested beyond the limit are not sent as a form. -/
theorem send_nested {n : Nat} (h : Json.nestingLimit < n) (url : String) (headers : List (String × String))
    (network : Network) :
    comesTo (send ⟨"POST", url, headers, Json.write Json.oneLine (.nested n), some formType⟩) network =
      (.error (.json (.tooDeep .list)), network) := by
  have hpayload : Payload.ofRequest ⟨"POST", url, headers, Json.write Json.oneLine (.nested n), some formType⟩ =
      .error (.json (.tooDeep .list)) := by
    unfold Payload.ofRequest
    rw [if_pos (by simp), if_neg (by simp [Json.isEmpty_write_nested (Nat.zero_lt_of_lt h)]), Json.read_write_nested h]
    rfl
  unfold send outgoing
  rw [hpayload]
  rfl

end Exchange

end Courier
