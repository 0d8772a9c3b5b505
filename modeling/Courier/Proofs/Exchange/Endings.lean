import Courier.Proofs.Exchange.Destination
import Courier.Proofs.Mapping

/-! How an exchange ends. It is to end with a response of success, with the refusal of another one, or with an error of
the network; but a request can hold what has no form to be sent in, and a reply what cannot be read. Each of these other
endings is given here with what it comes from. Those of the request come before anything is sent. -/

namespace Courier

/-! ### Programs that end in some way -/

section

variable {ε α β σ : Type} {P : α → σ → Prop} {P' : β → σ → Prop} {Q : ε → σ → Prop}

/-- What a program comes to is a result of one kind or an error of another, with the state that it leaves. -/
def Ends (P : α → σ → Prop) (Q : ε → σ → Prop) : Except ε α × σ → Prop
  | (.ok a, after) => P a after
  | (.error e, after) => Q e after

theorem Ends.bind {step : ExceptT ε (StateM σ) α} {next : α → ExceptT ε (StateM σ) β} {s : σ}
    (h : Ends P Q (comesTo step s)) (hnext : ∀ a between, P a between → Ends P' Q (comesTo (next a) between)) :
    Ends P' Q (comesTo (step >>= next) s) := by
  rw [comesTo_bind]
  rcases hstep : comesTo step s with ⟨e | a, between⟩
  · rw [hstep] at h
    exact h
  · rw [hstep] at h
    exact hnext a between h

theorem ends_lift {r : Except ε α} {s : σ} (hok : ∀ a, r = .ok a → P a s) (herror : ∀ e, r = .error e → Q e s) :
    Ends P Q (comesTo (liftM r : ExceptT ε (StateM σ) α) s) := by
  cases r with
  | ok a => exact hok a rfl
  | error e => exact herror e rfl

theorem Ends.mono {P'' : α → σ → Prop} {Q' : ε → σ → Prop} {r : Except ε α × σ} (h : Ends P Q r)
    (hok : ∀ a after, P a after → P'' a after) (herror : ∀ e after, Q e after → Q' e after) : Ends P'' Q' r := by
  rcases r with ⟨e | a, after⟩
  · exact herror e after h
  · exact hok a after h

end

namespace Json

/-- No JSON starts with the braces of a tag: behind the first one a key is expected. -/
theorem read_braces {s : String} {rest : List Char} (h : s.toList = '\x7b' :: '\x7b' :: rest) :
    read s = .error (.syntaxProblem .expectingKey 1 2 1) := by
  have hskip (position : Nat) (cs : List Char) : skipFrom position ('\x7b' :: cs) = ⟨position, '\x7b' :: cs⟩ :=
    skipFrom_of_not rfl position cs
  have hentries (fuel room : Nat) :
      readEntries (fuel + 1) room ⟨1, '\x7b' :: rest⟩ = .error (.problem .expectingKey 1) := by
    rw [readEntries]
    rfl
  have hvalue (fuel : Nat) :
      readValue (fuel + 1 + 1) nestingLimit ⟨0, '\x7b' :: '\x7b' :: rest⟩ = .error (.problem .expectingKey 1) := by
    rw [readValue]
    simp only [hskip, hentries, nestingLimit]
    rfl
  have hall : readAll ('\x7b' :: '\x7b' :: rest) = .error (.problem .expectingKey 1) := by
    unfold readAll
    rw [hskip, hvalue]
    rfl
  rw [read, h, hall]
  rfl

end Json

/-! ### Errors of the network -/

/-- The errors of the network, those of URLs that cannot go over it among them. -/
def Error.isOfNetwork : Error → Bool
  | network _ _ => true
  | target cause | location cause => !cause.isEncoding
  | _ => false

namespace Exchange

open Text

/-- The endings that an exchange is to have: a response of success, the refusal of one of failure, and errors of the
network. -/
def IsExpected : Except Error Response → Prop
  | .ok response => response.status < 400
  | .error (.refused response) => 400 ≤ response.status
  | .error e => e.isOfNetwork

/-! ### On the way -/

/-- A network further on: it has sent more, and it has some of the replies still to come. -/
structure Continues (first now : Network) : Prop where
  sent : first.sent <+: now.sent
  script : now.script <:+ first.script

theorem Continues.refl (network : Network) : Continues network network :=
  ⟨List.prefix_refl _, List.suffix_refl _⟩

theorem Continues.exchange {first now : Network} (h : Continues first now) (message : Message) :
    Continues first (now.exchange message).2 :=
  ⟨h.sent.trans (List.prefix_append _ _), (List.tail_suffix _).trans h.script⟩

/-- An answer is one of the replies that a network has to come. -/
def IsReply (network : Network) (a : Answer) : Prop := .answer a.status a.headers a.body ∈ network.script

/-- The last message that was sent since then, and the URL that it went to. -/
def IsLastSent (first : Network) (target : Target) (after : Network) : Prop :=
  ∃ before message, after.sent = first.sent ++ before ++ [message] ∧ message.url = target.toText

/-- What can get lost on the way of a message, besides what the network loses. -/
inductive IsLost (first : Network) : Error → Network → Prop
  /-- An answer came for a message to a URL without a scheme. -/
  | noScheme {after : Network} {target : Target} (hscheme : target.scheme = "") (hsent : IsLastSent first target after) :
      IsLost first (.noScheme (withoutBareSign target.toText)) after
  /-- An answer leads from where the message went to a place whose URL has no form in UTF-8. -/
  | location {after : Network} {answer : Answer} {target : Target} {location : String} {e : Error}
      (hreply : IsReply first answer) (hlocation : answer.location? = some location)
      (hsent : IsLastSent first target after) (hto : redirectedTarget target location = .error e)
      (hencoding : e.isOfNetwork = false) : IsLost first e after

/-- An error on the way. -/
def IsOnTheWay (first : Network) (e : Error) (after : Network) : Prop := e.isOfNetwork ∨ IsLost first e after

/-- An answer that came for a message that was just sent. -/
structure IsAnswer (first : Network) (target : Target) (a : Answer) (after : Network) : Prop where
  reply : IsReply first a
  continues : Continues first after
  sent : IsLastSent first target after

variable {first now : Network}

theorem Continues.isReply (h : Continues first now) {status : Int} {headers : Headers} {body : Bytes} {message : Message}
    (hreply : (now.exchange message).1 = .answer status headers body) : IsReply first ⟨status, headers, body⟩ := by
  have hhead : now.script.head?.getD Network.silence = .answer status headers body := hreply
  cases hscript : now.script with
  | nil =>
      rw [hscript] at hhead
      cases hhead
  | cons reply rest =>
      rw [hscript] at hhead
      obtain rfl : reply = .answer status headers body := hhead
      exact h.script.subset (by rw [hscript]; exact List.mem_cons_self)

theorem Continues.isLastSent (h : Continues first now) {target : Target} {message : Message}
    (hurl : message.url = target.toText) : IsLastSent first target (now.exchange message).2 := by
  obtain ⟨before, hbefore⟩ := h.sent
  refine ⟨before, message, ?_, hurl⟩
  rw [hbefore]
  rfl

theorem ends_sendOne (h : Continues first now) {target : Target} {message : Message}
    (hurl : message.url = target.toText) :
    Ends (IsAnswer first target) (IsOnTheWay first) (comesTo (sendOne target message) now) := by
  rw [comesTo_sendOne]
  cases hreply : (now.exchange message).1 with
  | failure fault text => exact Or.inl rfl
  | answer status headers body =>
      rw [answered, hurl]
      split
      · rename_i hscheme
        exact Or.inr (.noScheme (by simpa using hscheme) (h.isLastSent hurl))
      · exact ⟨h.isReply hreply, h.exchange message, h.isLastSent hurl⟩

theorem Answer.plain_error {a : Answer} {e : Error} (h : a.plain = .error e) : e.isOfNetwork := by
  unfold Answer.plain at h
  split at h
  · cases h
  · cases h
    rfl

/-- A message that is led on goes to the URL that it names. -/
theorem url_redirected (target : Target) (message : Message) (status : Int) (next : Target) :
    (redirected target message status next).url = next.toText := by
  simp only [redirected]
  split <;> rfl

/-- An answer that is the end of a way: one of the replies, as it was before it was compressed. -/
def IsLast (first : Network) (a : Answer) : Prop := ∃ reply, IsReply first reply ∧ reply.plain = .ok a

/-- A message is led on until an answer is the last one, or until it gets lost. -/
theorem ends_follow (fuel : Nat) (h : Continues first now) {target : Target} {message : Message}
    (hurl : message.url = target.toText) :
    Ends (fun a _ => IsLast first a) (IsOnTheWay first) (comesTo (follow fuel target message) now) := by
  induction fuel generalizing target message now with
  | zero => exact Or.inl rfl
  | succ fuel ih =>
      refine (ends_sendOne h hurl).bind fun answer between hanswer => ?_
      cases hlocation : answer.location? with
      | none => exact ends_lift (fun a ha => ⟨answer, hanswer.reply, ha⟩) fun e he => Or.inl (Answer.plain_error he)
      | some location =>
          refine Ends.bind (P := fun _ after => Continues first after)
            (ends_lift (fun _ _ => hanswer.continues) fun e he => ?_) fun next _ hnext => ?_
          · cases hencoding : e.isOfNetwork with
            | true => exact Or.inl hencoding
            | false => exact Or.inr (.location hanswer.reply hlocation hanswer.sent he hencoding)
          · refine Ends.bind (P := fun _ after => Continues first after)
              (ends_lift (fun _ _ => hnext) fun e he => Or.inl (Answer.plain_error he)) fun _ _ hread => ?_
            exact ih hread (url_redirected _ _ _ _)

/-! ### What cannot be sent -/

/-- Headers of ASCII characters. -/
def AreAscii (headers : List (String × String)) : Prop :=
  ∀ h ∈ headers, ∀ c ∈ h.1.toList ++ h.2.toList, c.toNat < 128

/-- What keeps a request from being sent, apart from a URL that cannot go over the network. -/
inductive IsUnsendable (r : Request) : Error → Prop
  /-- The body of a form is no JSON. -/
  | form {cause : Json.Fault} (htype : r.bodyType = some formType) (hbody : r.body ≠ "")
      (hread : Json.read r.body = .error cause) : IsUnsendable r (.json cause)
  /-- The fields of a form have no form in UTF-8. -/
  | fields {cause : EncodingFault} {d : Document} (htype : r.bodyType = some formType)
      (hread : Json.read r.body = .ok d) (hfields : ¬ AreEncodable (formFields "" d)) : IsUnsendable r (.encoding cause)
  /-- A body that is sent as it is has no form in UTF-8. -/
  | body {cause : EncodingFault} (htype : r.bodyType ≠ some formType) (hbody : ¬ IsEncodable r.body) :
      IsUnsendable r (.encoding cause)
  /-- A header has a character beyond ASCII. -/
  | header {cause : EncodingFault} (hheaders : ¬ AreAscii r.headers) : IsUnsendable r (.encoding cause)
  /-- The URL has no form in UTF-8. -/
  | url {cause : EncodingFault} (hurl : ¬ IsEncodable r.url) (hto : Target.ofRequest r.url = .error (.encoding cause)) :
      IsUnsendable r (.target (.encoding cause))

theorem ascii_eq_ok_iff {s : String} : (∃ bytes, ascii s = .ok bytes) ↔ ∀ c ∈ s.toList, c.toNat < 128 := by
  have hfault : firstFault? "ascii" "ordinal not in range(128)" (fun c => c.toNat < 128) s.toList = none ↔
      ∀ c ∈ s.toList, c.toNat < 128 := by
    simp only [firstFault?_eq_none, decide_eq_true_eq]
  rw [← hfault]
  unfold ascii
  split
  · rename_i f hf
    simp [hf]
  · rename_i hf
    simp [hf]

theorem areAscii_of_checkedHeaders {headers : List (String × String)} {checked : Headers}
    (h : checkedHeaders headers = .ok checked) : AreAscii headers := by
  induction headers generalizing checked with
  | nil => exact List.forall_mem_nil _
  | cons header rest ih =>
      obtain ⟨_, hname, h⟩ := exists_of_bind_ok h
      obtain ⟨_, hvalue, h⟩ := exists_of_bind_ok h
      obtain ⟨_, hrest, -⟩ := exists_of_bind_ok h
      refine List.forall_mem_cons.2 ⟨List.forall_mem_append.2 ⟨?_, ?_⟩, ih hrest⟩
      · exact ascii_eq_ok_iff.1 ⟨_, eq_ok_of_mapError hname⟩
      · exact ascii_eq_ok_iff.1 ⟨_, eq_ok_of_mapError hvalue⟩

/-- Headers that are not checked with success have a character beyond ASCII. -/
theorem exists_of_checkedHeaders {headers : List (String × String)} {e : Error}
    (h : checkedHeaders headers = .error e) : ∃ cause, e = .encoding cause ∧ ¬ AreAscii headers := by
  have hascii {s : String} {f : EncodingFault} (hs : ascii s = .error f) : ¬ ∀ c ∈ s.toList, c.toNat < 128 := by
    rw [← ascii_eq_ok_iff, hs]
    rintro ⟨_, ⟨⟩⟩
  induction headers with
  | nil => cases h
  | cons header rest ih =>
      rw [AreAscii, List.forall_mem_cons, List.forall_mem_append]
      rcases of_bind_error h with h | ⟨_, -, h⟩
      · obtain ⟨cause, hname, rfl⟩ := exists_of_mapError h
        exact ⟨cause, rfl, fun hall => hascii hname hall.1.1⟩
      · rcases of_bind_error h with h | ⟨_, -, h⟩
        · obtain ⟨cause, hvalue, rfl⟩ := exists_of_mapError h
          exact ⟨cause, rfl, fun hall => hascii hvalue hall.1.2⟩
        · rcases of_bind_error h with h | ⟨_, -, h⟩
          · obtain ⟨cause, rfl, hrest⟩ := ih h
            exact ⟨cause, rfl, fun hall => hrest hall.2⟩
          · cases h

theorem areEncodable_of_writeQuery {fields : List (String × String)} {query : String}
    (h : Url.writeQuery fields = .ok query) : AreEncodable fields := by
  have htext {s t : String} (hs : formText s = .ok t) : IsEncodable s := by
    obtain ⟨_, hbytes, -⟩ := exists_of_bind_ok hs
    exact isScalar_of_utf8 hbytes
  obtain ⟨pieces, hpieces, -⟩ := exists_of_bind_ok h
  intro f hf
  obtain ⟨piece, hpiece⟩ := exists_of_mem_forall₂ (forall₂_of_mapM hpieces) hf
  obtain ⟨_, _, hname, hvalue, -⟩ := Url.exists_of_writePair hpiece
  exact ⟨htext hname, htext hvalue⟩

/-- What keeps a request from carrying its body. -/
theorem isUnsendable_of_ofRequest {r : Request} {e : Error} (h : Payload.ofRequest r = .error e) :
    IsUnsendable r e := by
  unfold Payload.ofRequest at h
  split_ifs at h with htype hempty hempty
  · rcases of_bind_error h with h | ⟨d, -, h⟩
    · obtain ⟨cause, hread, rfl⟩ := exists_of_mapError h
      exact .form (by simpa using htype) (by simpa using hempty) hread
    · cases h
  · rcases of_bind_error h with h | ⟨d, -, h⟩
    · obtain ⟨cause, hbytes, rfl⟩ := exists_of_mapError h
      refine .body (by simpa using htype) fun hbody => ?_
      rw [utf8_eq_ok hbody] at hbytes
      cases hbytes
    · cases h

theorem isUnsendable_of_body {r : Request} {payload : Payload} {e : Error} (h : Payload.ofRequest r = .ok payload)
    (hbody : payload.body = .error e) : IsUnsendable r e := by
  unfold Payload.ofRequest at h
  split_ifs at h with htype hempty hempty
  · cases h
    cases hbody
  · obtain ⟨d, hread, h⟩ := exists_of_bind_ok h
    cases h
    rcases of_bind_error hbody with hbody | ⟨_, -, hbody⟩
    · obtain ⟨cause, hquery, rfl⟩ := exists_of_mapError hbody
      refine .fields (by simpa using htype) (eq_ok_of_mapError hread) fun hfields => ?_
      obtain ⟨query, hwritten⟩ := exists_writeQuery hfields
      rw [hwritten] at hquery
      cases hquery
    · cases hbody
  · cases h
    cases hbody
  · obtain ⟨bytes, -, h⟩ := exists_of_bind_ok h
    cases h
    cases hbody

/-- A request that does not go out has a URL that cannot go over the network, or it cannot be sent. -/
theorem of_outgoing_error {r : Request} {e : Error} (h : outgoing r = .error e) :
    (∃ cause, Target.ofRequest r.url = .error cause ∧ e.isOfNetwork) ∨ IsUnsendable r e := by
  rcases of_bind_error h with h | ⟨payload, hpayload, h⟩
  · exact Or.inr (isUnsendable_of_ofRequest h)
  rcases of_bind_error h with h | ⟨target, -, h⟩
  · obtain ⟨cause, htarget, rfl⟩ := exists_of_mapError h
    cases cause with
    | encoding cause =>
        refine Or.inr (.url (fun hurl => ?_) htarget)
        exact Bool.noConfusion (Target.fails_ofRequest hurl _ htarget)
    | _ => exact Or.inl ⟨_, htarget, rfl⟩
  rcases of_bind_error h with h | ⟨headers, -, h⟩
  · obtain ⟨cause, rfl, hheaders⟩ := exists_of_checkedHeaders h
    exact Or.inr (.header hheaders)
  rcases of_bind_error h with h | ⟨body, -, h⟩
  · exact Or.inr (isUnsendable_of_body hpayload h)
  · cases h

theorem url_of_outgoing {r : Request} {target : Target} {message : Message} (h : outgoing r = .ok (target, message)) :
    message.url = target.toText := by
  obtain ⟨_, -, h⟩ := exists_of_bind_ok h
  obtain ⟨_, -, h⟩ := exists_of_bind_ok h
  obtain ⟨_, -, h⟩ := exists_of_bind_ok h
  obtain ⟨_, -, h⟩ := exists_of_bind_ok h
  cases h
  rfl

/-- Nothing keeps a request from being sent that goes out. -/
theorem not_isUnsendable_of_outgoing {r : Request} {target : Target} {message : Message}
    (h : outgoing r = .ok (target, message)) (e : Error) : ¬ IsUnsendable r e := by
  obtain ⟨payload, hpayload, h⟩ := exists_of_bind_ok h
  obtain ⟨_, htarget, h⟩ := exists_of_bind_ok h
  obtain ⟨headers, hheaders, h⟩ := exists_of_bind_ok h
  obtain ⟨body, hbody, -⟩ := exists_of_bind_ok h
  unfold Payload.ofRequest at hpayload
  intro hunsendable
  cases hunsendable with
  | form htype hempty hread =>
      rw [if_pos (by simp [htype]), if_neg (by simpa using hempty), hread] at hpayload
      cases hpayload
  | fields htype hread hfields =>
      have hempty : ¬ r.body.isEmpty = true := by
        intro hempty
        rw [String.isEmpty_iff.1 hempty] at hread
        cases hread
      rw [if_pos (by simp [htype]), if_neg hempty, hread] at hpayload
      cases hpayload
      obtain ⟨query, hquery, -⟩ := exists_of_bind_ok hbody
      exact hfields (areEncodable_of_writeQuery (eq_ok_of_mapError hquery))
  | body htype htext =>
      have hempty : ¬ r.body.isEmpty = true := by
        intro hempty
        rw [String.isEmpty_iff.1 hempty] at htext
        exact htext (List.forall_mem_nil _)
      rw [if_neg (by simpa using htype), if_neg hempty] at hpayload
      obtain ⟨bytes, hbytes, -⟩ := exists_of_bind_ok hpayload
      exact htext (isScalar_of_utf8 (eq_ok_of_mapError hbytes))
  | header hascii => exact hascii (areAscii_of_checkedHeaders hheaders)
  | url _ hto =>
      rw [hto] at htarget
      cases htarget

/-! ### Endings -/

/-- The endings that no response, no refusal and no error of the network is. -/
inductive IsStray (r : Request) (first : Network) : Error → Network → Prop
  /-- The request cannot be sent, and nothing is. -/
  | unsent {e : Error} (h : IsUnsendable r e) : IsStray r first e first
  /-- A message gets lost. -/
  | lost {e : Error} {after : Network} (h : IsLost first e after) : IsStray r first e after
  /-- The last answer names an encoding in which its body cannot be read. -/
  | unread {cause : Unreadable} {after : Network} {answer : Answer} {charset : Charset} (hlast : IsLast first answer)
      (hcharset : (answer.headers.decoded.value? "Content-Type").bind ContentType.charset? = some charset)
      (hread : charset.read answer.body = .error cause) : IsStray r first (.unreadable cause) after

theorem isExpected_of_isOfNetwork {e : Error} (h : e.isOfNetwork) : IsExpected (.error e) := by
  cases e with
  | refused response => cases h
  | _ => exact h

/-- The error of a place to go to is that of its URL. -/
theorem fails_redirectedTarget_to (target : Target) (location : String) :
    Fails (fun e => ∃ cause, e = .target cause ∨ e = .location cause) (redirectedTarget target location) := by
  have htarget {α : Type} (x : Except TargetFault α) :
      Fails (fun e => ∃ cause, e = .target cause ∨ e = .location cause) (x.mapError Error.target) :=
    Fails.mapError (Q := fun _ => True) (fun _ _ => trivial) fun cause _ => ⟨cause, Or.inl rfl⟩
  refine Fails.bind ?_ fun _ => (htarget _).bind fun _ => (htarget _).bind fun _ => htarget _
  exact Fails.mapError (Q := fun _ => True) (fun _ _ => trivial) fun cause _ => ⟨cause, Or.inr rfl⟩

theorem IsStray.not_isExpected {r : Request} {network after : Network} {e : Error} (h : IsStray r network e after) :
    ¬ IsExpected (.error e) := by
  cases h with
  | unsent h => cases h <;> exact Bool.false_ne_true
  | lost h =>
      cases h with
      | noScheme => exact Bool.false_ne_true
      | location _ _ _ hto hencoding =>
          have hnot : ¬ e.isOfNetwork = true := by simp [hencoding]
          obtain ⟨cause, rfl | rfl⟩ := fails_redirectedTarget_to _ _ _ hto
          · exact hnot
          · exact hnot
  | unread => exact Bool.false_ne_true

/-- Without a name of an encoding that is known, every body can be read. -/
theorem exists_charset_of_bodyText {headers : Headers} {body : Bytes} {cause : Unreadable}
    (h : bodyText headers body = .error cause) :
    ∃ charset, (headers.decoded.value? "Content-Type").bind ContentType.charset? = some charset ∧
      charset.read body = .error cause := by
  unfold bodyText at h
  cases hcharset : (headers.decoded.value? "Content-Type").bind ContentType.charset? with
  | none =>
      rw [hcharset] at h
      cases h
  | some charset =>
      rw [hcharset] at h
      exact ⟨charset, rfl, h⟩

/-- An exchange that does not end as it is to end has one of the other endings. -/
theorem ends_send (r : Request) (network : Network) :
    Ends (fun response _ => response.status < 400) (fun e after => IsExpected (.error e) ∨ IsStray r network e after)
      (comesTo (send r) network) := by
  refine Ends.bind (P := fun o after => after = network ∧ outgoing r = .ok o) (ends_lift (fun o ho => ⟨rfl, ho⟩) ?_) ?_
  · intro e he
    rcases of_outgoing_error he with ⟨_, -, he⟩ | he
    · exact Or.inl (isExpected_of_isOfNetwork he)
    · exact Or.inr (.unsent he)
  · rintro ⟨target, message⟩ _ ⟨rfl, houtgoing⟩
    refine Ends.bind ((ends_follow _ (.refl _) (url_of_outgoing houtgoing)).mono (fun a _ h => h) ?_) ?_
    · rintro e after (he | he)
      · exact Or.inl (isExpected_of_isOfNetwork he)
      · exact Or.inr (.lost he)
    · intro answer after hlast
      refine Ends.bind (P := fun _ _ => True) (ends_lift (fun _ _ => trivial) fun e he => ?_) fun response between _ => ?_
      · rcases of_bind_error he with he | ⟨_, -, he⟩
        · obtain ⟨cause, hread, rfl⟩ := exists_of_mapError he
          obtain ⟨charset, hcharset, hread⟩ := exists_charset_of_bodyText hread
          exact Or.inr (.unread hlast hcharset hread)
        · cases he
      · by_cases hstatus : 400 ≤ response.status
        · simp only [isFailure, hstatus, decide_true, if_true]
          exact Or.inl hstatus
        · simp only [isFailure, hstatus, decide_false, Bool.false_eq_true, if_false]
          exact not_le.1 hstatus

/-- What does not go out ends the exchange, and nothing is sent. -/
theorem comesTo_send_of_outgoing_error {r : Request} {e : Error} (h : outgoing r = .error e) (network : Network) :
    comesTo (send r) network = (.error e, network) := by
  unfold send
  rw [h]
  rfl

/-- A request that cannot be sent is not sent, if its URL can go over the network. -/
theorem exists_comesTo_send_of_isUnsendable {r : Request} {target : Target} {e : Error}
    (htarget : Target.ofRequest r.url = .ok target) (h : IsUnsendable r e) (network : Network) :
    ∃ cause, comesTo (send r) network = (.error cause, network) ∧ IsUnsendable r cause := by
  cases houtgoing : outgoing r with
  | ok o => exact absurd h (not_isUnsendable_of_outgoing houtgoing e)
  | error cause =>
      refine ⟨cause, comesTo_send_of_outgoing_error houtgoing network, ?_⟩
      rcases of_outgoing_error houtgoing with ⟨_, hfault, -⟩ | hcause
      · rw [htarget] at hfault
        cases hfault
      · exact hcause

/-- A form whose body is no JSON is not sent, whatever else is the matter with the request. -/
theorem comesTo_send_form {r : Request} {cause : Json.Fault} (htype : r.bodyType = some formType) (hbody : r.body ≠ "")
    (hread : Json.read r.body = .error cause) (network : Network) :
    comesTo (send r) network = (.error (.json cause), network) := by
  refine comesTo_send_of_outgoing_error ?_ network
  have hpayload : Payload.ofRequest r = .error (.json cause) := by
    unfold Payload.ofRequest
    rw [if_pos (by simp [htype]), if_neg (by simpa using hbody), hread]
    rfl
  unfold outgoing
  rw [hpayload]
  rfl

/-- The diagnostic of a template that starts with a tag is no JSON. -/
theorem comesTo_send_diagnostic {r : Request} {source : String} {data : Language.Value} {memory : Language.Memory}
    {failure : Failure} (hsource : ['\x7b', '\x7b'] <+: source.toList)
    (hfailure : (Template.render source data memory).1 = .error failure)
    (hbody : (Mapping.text source data memory).1 = .ok r.body) (htype : r.bodyType = some formType) (network : Network) :
    comesTo (send r) network = (.error (.json (.syntaxProblem .expectingKey 1 2 1)), network) := by
  obtain ⟨message, hdiagnostic⟩ := Mapping.exists_of_text hfailure hbody
  obtain ⟨rest, hrest⟩ := hsource
  have hchars : r.body.toList = '\x7b' :: '\x7b' :: (rest ++ (": " ++ message).toList) := by
    rw [hdiagnostic, String.append_assoc, String.toList_append, ← hrest]
    rfl
  refine comesTo_send_form htype (fun hempty => ?_) (Json.read_braces hchars) network
  rw [hempty] at hchars
  cases hchars

/-- An exchange ends with a response of success, the refusal of another one or an error of the network, unless it has one
of the other endings; these have their cause in the request, in a place that an answer leads to, or in the encoding of
the last answer. A request that has such a cause in it is not sent at all, and neither is a form whose body is no JSON,
whatever else is the matter with it: it ends with the fault of its body. So does each form whose body is the diagnostic
of a template that starts with a tag. -/
theorem send_endings (r : Request) (network : Network) :
    (¬ IsExpected (comesTo (send r) network).1 ↔
      ∃ e after, comesTo (send r) network = (.error e, after) ∧ IsStray r network e after) ∧
    (∀ target e, Target.ofRequest r.url = .ok target → IsUnsendable r e →
      ∃ cause, comesTo (send r) network = (.error cause, network) ∧ IsUnsendable r cause) ∧
    (∀ cause, r.bodyType = some formType → r.body ≠ "" → Json.read r.body = .error cause →
      comesTo (send r) network = (.error (.json cause), network)) ∧
    ∀ source data memory failure, ['\x7b', '\x7b'] <+: source.toList →
      (Template.render source data memory).1 = .error failure → (Mapping.text source data memory).1 = .ok r.body →
      r.bodyType = some formType →
      comesTo (send r) network = (.error (.json (.syntaxProblem .expectingKey 1 2 1)), network) := by
  refine ⟨⟨fun hnot => ?_, ?_⟩,
    fun target e htarget hunsendable => exists_comesTo_send_of_isUnsendable htarget hunsendable network,
    fun cause htype hbody hread => comesTo_send_form htype hbody hread network,
    fun source data memory failure hsource hfailure hbody htype =>
      comesTo_send_diagnostic hsource hfailure hbody htype network⟩
  · have hends := ends_send r network
    rcases hrun : comesTo (send r) network with ⟨e | response, after⟩
    · rw [hrun] at hnot hends
      exact ⟨e, after, rfl, hends.resolve_left hnot⟩
    · rw [hrun] at hnot hends
      exact absurd hends hnot
  · rintro ⟨e, after, hrun, hstray⟩
    rw [hrun]
    exact hstray.not_isExpected

/-- The diagnostic of a template that divides by zero is not sent as a form. -/
theorem send_endings_diagnostic :
    (Template.render "\x7b\x7b 1 // 0 \x7d\x7d" (.newMap []) .empty).1 =
        .error (.template "\x7b\x7b 1 // 0 \x7d\x7d" "integer division or modulo by zero") ∧
      ∀ network, comesTo (send ⟨"POST", "http://h/", [("Accept", "application/json")],
          "\x7b\x7b 1 // 0 \x7d\x7d: integer division or modulo by zero", some formType⟩) network =
        (.error (.json (.syntaxProblem .expectingKey 1 2 1)), network) := by
  have hfailure : (Template.render "\x7b\x7b 1 // 0 \x7d\x7d" (.newMap []) .empty).1 =
      .error (.template "\x7b\x7b 1 // 0 \x7d\x7d" "integer division or modulo by zero") := by decide +kernel
  have hbody : (Mapping.text "\x7b\x7b 1 // 0 \x7d\x7d" (.newMap []) .empty).1 =
      .ok "\x7b\x7b 1 // 0 \x7d\x7d: integer division or modulo by zero" := by decide +kernel
  refine ⟨hfailure, fun network => ?_⟩
  obtain ⟨-, -, -, hdiagnostic⟩ := send_endings ⟨"POST", "http://h/", [("Accept", "application/json")],
    "\x7b\x7b 1 // 0 \x7d\x7d: integer division or modulo by zero", some formType⟩ network
  exact hdiagnostic _ _ _ _ (by decide) hfailure hbody rfl

end Exchange

end Courier
