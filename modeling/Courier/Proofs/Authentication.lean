import Courier.Authentication
import Courier.Proofs.Exchange.Form
import Courier.Proofs.Response.Classification
import Courier.Proofs.Text.Base64

/-! Requests that need a token first. The credentials on their way to where tokens are given are written as JSON of ASCII,
read again and sent as a form: what is read from the form that goes out first is what the credentials say, character for
character, and nothing where they say nothing. The response that the exchange for a token ends in decides what becomes
of the request: it is refused, or it has no token, or the request goes on with its token and is otherwise as it was.

A name and a password need no token. They go out one behind the other, with a colon between them, as a code of their
bytes that is read back as the same text, so that nothing of either is lost. -/

namespace Courier

open Courier.Exchange Courier.Text

/-! ### Texts that may be missing -/

/-- An object of texts, and of nulls for those that are missing. -/
def Document.ofTexts (texts : List (String × Option String)) : Document :=
  .object (texts.map fun e => (e.1, optionalText e.2))

/-- The texts that are not missing. -/
def givenTexts (texts : List (String × Option String)) : List (String × String) :=
  texts.filterMap fun e => e.2.map (e.1, ·)

namespace Document

variable {texts : List (String × Option String)}

theorem forall_mem_ofTexts {p : String × Document → Prop} (h : ∀ e ∈ texts, p (e.1, optionalText e.2)) :
    ∀ e ∈ texts.map fun e => (e.1, optionalText e.2), p e := by
  intro e he
  obtain ⟨f, hf, rfl⟩ := List.mem_map.1 he
  exact h f hf

theorem isJson_ofTexts (h : (texts.map (·.1)).Nodup) : (ofTexts texts).IsJson := by
  refine .object _ ?_ (forall_mem_ofTexts fun e _ => ?_)
  · rwa [List.map_map]
  · cases e.2 with
    | none => exact .null
    | some s => exact .text s

theorem isWithin_ofTexts (room : Nat) (texts : List (String × Option String)) : (ofTexts texts).IsWithin (room + 1) := by
  refine .object room _ (forall_mem_ofTexts fun e _ => ?_)
  cases e.2 with
  | none => exact .null room
  | some s => exact .text room s

theorem isEncodable_ofTexts (hnames : ∀ e ∈ texts, Text.IsEncodable e.1)
    (htexts : ∀ e ∈ texts, ∀ s ∈ e.2, Text.IsEncodable s) : (ofTexts texts).IsEncodable := by
  refine .object _ (forall_mem_ofTexts fun e he => hnames e he) (forall_mem_ofTexts fun e he => ?_)
  cases htext : e.2 with
  | none => exact .null
  | some s => exact .text s (htexts e he s htext)

end Document

namespace Exchange

variable {texts : List (String × Option String)}

theorem entryLeaves_ofTexts (texts : List (String × Option String)) :
    entryLeaves "" (texts.map fun e => (e.1, optionalText e.2)) = givenTexts texts := by
  induction texts with
  | nil => rfl
  | cons e texts ih =>
      obtain ⟨name, text⟩ := e
      rw [List.map_cons, entryLeaves, ih]
      cases text with
      | none => rfl
      | some s => rfl

/-- The fields of an object of texts are those that are not missing, in their order. -/
theorem formFields_ofTexts (h : (texts.map (·.1)).Nodup) : formFields "" (.ofTexts texts) = givenTexts texts := by
  have hnames : ((givenTexts texts).map (·.1)).Sublist (texts.map (·.1)) := by
    clear h
    induction texts with
    | nil => exact List.Sublist.refl []
    | cons e texts ih =>
        obtain ⟨name, text⟩ := e
        cases text with
        | none => exact ih.cons name
        | some s => exact ih.cons_cons name
  have hnodup : (([] ++ givenTexts texts).map Prod.fst).Nodup := h.sublist hnames
  calc formFields "" (.ofTexts texts)
      = putEntries (leaves "" (.ofTexts texts)) [] := rfl
    _ = putEntries (givenTexts texts) [] := by rw [Document.ofTexts, leaves, entryLeaves_ofTexts]
    _ = givenTexts texts := putEntries_of_nodup hnodup

end Exchange

/-! ### Requests for a token -/

namespace Credentials

/-- What a request for a token says of credentials, in the order in which it says it. -/
def grantTexts (c : Credentials) : List (String × Option String) :=
  [("username", c.username), ("password", c.password), ("grant_type", some "password"), ("client_id", c.clientId),
    ("client_secret", c.clientSecret)]

/-- Credentials whose texts have a UTF-8 form. -/
def AreEncodable (c : Credentials) : Prop :=
  ∀ text ∈ [c.username, c.password, c.clientId, c.clientSecret], ∀ s ∈ text, IsEncodable s

theorem nodup_grantTexts (c : Credentials) : (c.grantTexts.map (·.1)).Nodup := by
  show ["username", "password", "grant_type", "client_id", "client_secret"].Nodup
  decide

theorem AreEncodable.grantTexts {c : Credentials} (h : c.AreEncodable) :
    ∀ e ∈ c.grantTexts, ∀ s ∈ e.2, IsEncodable s := by
  simp only [AreEncodable, List.forall_mem_cons] at h
  obtain ⟨husername, hpassword, hclient, hsecret, -⟩ := h
  simp only [Credentials.grantTexts, List.forall_mem_cons]
  refine ⟨husername, hpassword, ?_, hclient, hsecret, List.forall_mem_nil _⟩
  rintro _ ⟨⟩
  exact isEncodable_of_ascii (by simp)

end Credentials

namespace Authentication

theorem body_tokenRequest (c : Credentials) :
    (tokenRequest c).body = Json.write Json.asciiLine (.ofTexts c.grantTexts) := rfl

/-- A request for a token goes out as a message with the credentials that are set. -/
theorem exists_outgoing_tokenRequest {c : Credentials} (hc : c.AreEncodable) {target : Target}
    (htarget : Target.ofRequest (c.url.getD "") = .ok target) :
    ∃ message, outgoing (tokenRequest c) = .ok (target, message) ∧
      Url.readQuery (ofUtf8 message.body) = givenTexts c.grantTexts := by
  have hnames : ∀ e ∈ c.grantTexts, IsEncodable e.1 := by
    simp only [Credentials.grantTexts, List.forall_mem_cons]
    refine ⟨?_, ?_, ?_, ?_, ?_, List.forall_mem_nil _⟩
    all_goals exact isEncodable_of_ascii (by simp)
  have hwithin : (Document.ofTexts c.grantTexts).IsWithin Json.nestingLimit := Document.isWithin_ofTexts _ _
  have hencodable := Document.isEncodable_ofTexts hnames hc.grantTexts
  have hread : Json.read (tokenRequest c).body = .ok (.ofTexts c.grantTexts) := by
    rw [body_tokenRequest]
    exact Json.read_write_ascii (Document.isJson_ofTexts c.nodup_grantTexts) hwithin hencodable
  obtain ⟨message, houtgoing, hcarries⟩ := exists_outgoing (r := tokenRequest c) rfl hread hwithin hencodable htarget rfl
  refine ⟨message, houtgoing, ?_⟩
  rw [hcarries.read, formFields_ofTexts c.nodup_grantTexts]

/-- What is read from the form that goes out first for a token are the credentials that are set, unaltered and in their
order, an empty text as well. -/
theorem exists_sent_credentials {c : Credentials} (hc : c.AreEncodable) {target : Target}
    (htarget : Target.ofRequest (c.url.getD "") = .ok target) (network : Network) :
    ∃ message more, (comesTo (send (tokenRequest c)) network).2.sent = network.sent ++ message :: more ∧
      Url.readQuery (ofUtf8 message.body) = givenTexts c.grantTexts := by
  obtain ⟨message, houtgoing, hread⟩ := exists_outgoing_tokenRequest hc htarget
  obtain ⟨more, hmore⟩ := exists_sent houtgoing network
  exact ⟨message, more, hmore, hread⟩

theorem exists_sent_credentials_signs :
    ∃ message more,
      (comesTo (send (tokenRequest ⟨some "ü&=+%\"\\\n😀", some "", none, none, some "s", some "http://t/", none, []⟩))
        ⟨[], []⟩).2.sent = message :: more ∧
      Url.readQuery (ofUtf8 message.body) =
        [("username", "ü&=+%\"\\\n😀"), ("password", ""), ("grant_type", "password"), ("client_secret", "s")] := by
  have htarget : Target.ofRequest "http://t/" = .ok ⟨"http", "", "t", none, "/", none, none⟩ := by cbv
  refine exists_sent_credentials (c := ⟨some "ü&=+%\"\\\n😀", some "", none, none, some "s", some "http://t/", none, []⟩)
    ?_ htarget ⟨[], []⟩
  simp only [Credentials.AreEncodable, List.forall_mem_cons]
  refine ⟨?_, ?_, ?_, ?_, List.forall_mem_nil _⟩
  · rintro _ ⟨⟩
    intro d hd
    simp only [String.reduceToList, List.mem_cons, List.not_mem_nil, or_false] at hd
    rcases hd with rfl | rfl | rfl | rfl | rfl | rfl | rfl | rfl | rfl
    all_goals rfl
  · rintro _ ⟨⟩
    exact isEncodable_of_ascii (by simp)
  · rintro _ ⟨⟩
  · rintro _ ⟨⟩
    exact isEncodable_of_ascii (by simp)

end Authentication

/-! ### Exchanges that end in an answer -/

open Courier.Language

namespace Exchange

/-- An exchange ends in an answer that does not lead on. -/
theorem exchanged_of_answer {r : Request} {target : Target} {message : Message} {answer plain : Answer}
    (houtgoing : outgoing r = .ok (target, message)) (hscheme : target.scheme.isEmpty = false)
    (hlocation : answer.location? = none) (hplain : answer.plain = .ok plain) (replies : List Reply)
    (sent : List Message) :
    comesTo (exchanged r) ⟨.answer answer.status answer.headers answer.body :: replies, sent⟩ =
      (plain.toResponse, ⟨replies, sent ++ [message]⟩) := by
  have hsend : comesTo (sendOne target message)
      ⟨.answer answer.status answer.headers answer.body :: replies, sent⟩ =
        (.ok answer, ⟨replies, sent ++ [message]⟩) := by
    have hreply : Network.exchange ⟨.answer answer.status answer.headers answer.body :: replies, sent⟩ message =
        (.answer answer.status answer.headers answer.body, ⟨replies, sent ++ [message]⟩) := rfl
    rw [comesTo_sendOne, hreply, answered, if_neg (by simp [hscheme])]
  have hfollow : comesTo (follow (redirectLimit + 1) target message)
      ⟨.answer answer.status answer.headers answer.body :: replies, sent⟩ =
        (.ok plain, ⟨replies, sent ++ [message]⟩) := by
    rw [follow, comesTo_bind_of_ok _ hsend, hlocation, hplain, comesTo_lift]
  have hexchanged : exchanged r = follow (redirectLimit + 1) target message >>= fun answer =>
      Online.lift answer.toResponse := by
    unfold exchanged
    rw [houtgoing]
    rfl
  rw [hexchanged, comesTo_bind_of_ok _ hfollow, comesTo_lift]

end Exchange

namespace Authentication

variable {r : Response} {c : Credentials} {request : Request} {network left : Network}

/-! ### The token in a response -/

/-- A body that is no content has no token. -/
theorem tokenOf_of_not_hasContent (hshallow : r.IsShallow) (h : ¬ r.HasContent) :
    tokenOf r c = .error (.noToken r.status c.url) := by
  rw [tokenOf_eq, Response.isJson_of_not_hasContent hshallow h]

/-- Content under a status that means no success is refused, whatever token it has. -/
theorem tokenOf_of_not_success (hcontent : r.HasContent) (h : ¬ (200 ≤ r.status ∧ r.status < 300)) :
    tokenOf r c = .error (.refused r) := by
  obtain ⟨d, hd⟩ := r.hasContent_iff.1 hcontent
  rw [tokenOf_eq, Response.isJson_of_content hd, Response.accepted_of_not_success h]
  rfl

/-- Content without a token, and all content under a status other than 200, which does not count. -/
theorem tokenOf_of_none (hcontent : r.HasContent) (hlower : 200 ≤ r.status) (hupper : r.status < 300)
    (h : tokenIn? (.ok r) = none) : tokenOf r c = .error (.noToken r.status c.url) := by
  obtain ⟨d, hd⟩ := r.hasContent_iff.1 hcontent
  rw [tokenOf_eq, Response.isJson_of_content hd, Response.accepted_of_success hd hlower hupper]
  unfold Response.counted
  by_cases hstatus : r.status = 200
  · rw [tokenIn?_ok hstatus hd] at h
    rw [if_pos hstatus]
    cases d with
    | object entries =>
        have hlookup := Value.lookup_ofEntries_eq_none "content" [] 0 h
        simp only [Except.bind, hlookup]
    | _ => rfl
  · rw [if_neg hstatus]
    rfl

theorem tokenIn?_of_ne (h : r.status ≠ 200) : tokenIn? (.ok r) = none := by
  rw [tokenIn?, if_neg (by simpa using h)]

/-! ### The request behind the token -/

/-- Responses that are refused: those of failure, and content under a status that means no success. -/
def IsRefused (r : Response) : Prop := 400 ≤ r.status ∨ r.HasContent ∧ ¬ (200 ≤ r.status ∧ r.status < 300)

/-- Responses that have no token, and are not refused: what is no content, all content under a status of success other
than 200, and content without a token under status 200. -/
def LacksToken (r : Response) : Prop :=
  r.status < 400 ∧ (¬ r.HasContent ∨ 200 < r.status ∧ r.status < 300 ∨ r.status = 200 ∧ tokenIn? (.ok r) = none)

/-- A response is refused, or it has no token, or it has one. -/
theorem isRefused_or (r : Response) : IsRefused r ∨ LacksToken r ∨ ∃ d, tokenIn? (.ok r) = some d := by
  by_cases hfailure : 400 ≤ r.status
  · exact Or.inl (Or.inl hfailure)
  have hstatus : r.status < 400 := by omega
  by_cases hcontent : r.HasContent
  · by_cases hsuccess : 200 ≤ r.status ∧ r.status < 300
    · by_cases hfull : r.status = 200
      · cases htoken : tokenIn? (.ok r) with
        | none => exact Or.inr (Or.inl ⟨hstatus, Or.inr (Or.inr ⟨hfull, htoken⟩)⟩)
        | some d => exact Or.inr (Or.inr ⟨d, rfl⟩)
      · exact Or.inr (Or.inl ⟨hstatus, Or.inr (Or.inl (by omega))⟩)
    · exact Or.inl (Or.inr ⟨hcontent, hsuccess⟩)
  · exact Or.inr (Or.inl ⟨hstatus, Or.inl hcontent⟩)

section

variable (hexchange : comesTo (exchanged (tokenRequest c)) network = (.ok r, left)) (request : Request)

include hexchange

/-- The response that the exchange for a token ends in decides what becomes of the request. -/
theorem apply_of_exchanged : (comesTo (apply passwordGrant request (some c)) network).1 =
    if 400 ≤ r.status then .error (.refused r)
    else (tokenOf r c).map fun t => request.withHeader "Authorization" ("Bearer " ++ t) := by
  rw [comesTo_apply_passwordGrant, comesTo_send hexchange]
  by_cases hstatus : 400 ≤ r.status
  · rw [if_pos hstatus, if_pos hstatus]
    rfl
  · rw [if_neg hstatus, if_neg hstatus]
    rfl

theorem apply_of_isRefused (h : IsRefused r) :
    (comesTo (apply passwordGrant request (some c)) network).1 = .error (.refused r) := by
  rw [apply_of_exchanged hexchange]
  by_cases hfailure : 400 ≤ r.status
  · rw [if_pos hfailure]
  · obtain ⟨hcontent, hstatus⟩ := h.resolve_left hfailure
    rw [if_neg hfailure, tokenOf_of_not_success hcontent hstatus]
    rfl

theorem apply_of_lacksToken (hshallow : r.IsShallow) (h : LacksToken r) :
    (comesTo (apply passwordGrant request (some c)) network).1 = .error (.noToken r.status c.url) := by
  obtain ⟨hstatus, h⟩ := h
  have hnone : tokenOf r c = .error (.noToken r.status c.url) := by
    by_cases hcontent : r.HasContent
    · rcases h.resolve_left (not_not_intro hcontent) with ⟨hlower, hupper⟩ | ⟨hfull, htoken⟩
      · exact tokenOf_of_none hcontent (by omega) hupper (tokenIn?_of_ne (by omega))
      · exact tokenOf_of_none hcontent (by omega) (by omega) htoken
    · exact tokenOf_of_not_hasContent hshallow hcontent
  rw [apply_of_exchanged hexchange, if_neg (by omega), hnone]
  rfl

theorem exists_apply_of_token {d : Document} (h : tokenIn? (.ok r) = some d) :
    ∃ t sent, (Value.ofDocument "content" [] d).toText = .ok t ∧
      (comesTo (apply passwordGrant request (some c)) network).1 = .ok sent ∧
      request.IsAuthorized (some ("Bearer " ++ t)) sent := by
  obtain ⟨_, entries, heq, hstatus, -⟩ := exists_of_tokenIn? h
  cases heq
  obtain ⟨t, ht, htoken⟩ := exists_tokenOf c h
  refine ⟨t, _, ht, ?_, request.isAuthorized_withHeader _⟩
  rw [apply_of_exchanged hexchange, if_neg (by omega), htoken]
  rfl

end

/-- A request for a token is refused, or its response has no token, or the request that waits for it goes on with the
text of its token and is otherwise as it was. It never goes on without one. -/
theorem apply_classified (hexchange : comesTo (exchanged (tokenRequest c)) network = (.ok r, left))
    (hshallow : r.IsShallow) (request : Request) :
    ((comesTo (apply passwordGrant request (some c)) network).1 = .error (.refused r) ↔ IsRefused r) ∧
    ((comesTo (apply passwordGrant request (some c)) network).1 = .error (.noToken r.status c.url) ↔ LacksToken r) ∧
    (∀ d, tokenIn? (.ok r) = some d → ∃ t sent, (Value.ofDocument "content" [] d).toText = .ok t ∧
      (comesTo (apply passwordGrant request (some c)) network).1 = .ok sent ∧
      request.IsAuthorized (some ("Bearer " ++ t)) sent) ∧
    (∀ sent, (comesTo (apply passwordGrant request (some c)) network).1 = .ok sent → ∃ d t,
      tokenIn? (.ok r) = some d ∧ (Value.ofDocument "content" [] d).toText = .ok t ∧
      request.IsAuthorized (some ("Bearer " ++ t)) sent) := by
  have hrefused := apply_of_isRefused hexchange request
  have hlacks := apply_of_lacksToken hexchange request hshallow
  have htoken (d : Document) := exists_apply_of_token hexchange request (d := d)
  generalize (comesTo (apply passwordGrant request (some c)) network).1 = result at hrefused hlacks htoken ⊢
  -- the three cases give three results that are told from each other
  rcases isRefused_or r with h | h | ⟨d, hd⟩
  · obtain rfl := hrefused h
    refine ⟨iff_of_true rfl h, iff_of_false nofun fun hno => ?_, htoken, nofun⟩
    cases hlacks hno
  · obtain rfl := hlacks h
    refine ⟨iff_of_false nofun fun hno => ?_, iff_of_true rfl h, htoken, nofun⟩
    cases hrefused hno
  · obtain ⟨t, sent, ht, rfl, hsent⟩ := htoken d hd
    refine ⟨iff_of_false nofun fun hno => ?_, iff_of_false nofun fun hno => ?_, htoken, ?_⟩
    · cases hrefused hno
    · cases hlacks hno
    · rintro _ ⟨⟩
      exact ⟨d, t, hd, ht, hsent⟩

theorem apply_classified_text :
    ∃ left, comesTo (exchanged (tokenRequest ⟨none, none, none, none, none, some "http://t/", none, []⟩))
        ⟨[.answer 200 [] (Text.utf8Bytes "\x7b\"access_token\":\"k\"\x7d".toList)], []⟩ =
          (.ok ⟨200, "\x7b\"access_token\":\"k\"\x7d", []⟩, left) ∧
      ∃ sent, (comesTo (apply passwordGrant ⟨"GET", "http://h/", [], "", none⟩
          (some ⟨none, none, none, none, none, some "http://t/", none, []⟩))
          ⟨[.answer 200 [] (Text.utf8Bytes "\x7b\"access_token\":\"k\"\x7d".toList)], []⟩).1 = .ok sent ∧
        Request.IsAuthorized ⟨"GET", "http://h/", [], "", none⟩ (some "Bearer k") sent := by
  have htarget : Target.ofRequest "http://t/" = .ok ⟨"http", "", "t", none, "/", none, none⟩ := by cbv
  have hencodable : Credentials.AreEncodable ⟨none, none, none, none, none, some "http://t/", none, []⟩ := by
    simp only [Credentials.AreEncodable, List.forall_mem_cons]
    refine ⟨?_, ?_, ?_, ?_, List.forall_mem_nil _⟩
    all_goals rintro _ ⟨⟩
  obtain ⟨message, houtgoing, -⟩ := exists_outgoing_tokenRequest hencodable htarget
  have hlocation : Answer.location? ⟨200, [], Text.utf8Bytes "\x7b\"access_token\":\"k\"\x7d".toList⟩ = none := by cbv
  have hplain : Answer.plain ⟨200, [], Text.utf8Bytes "\x7b\"access_token\":\"k\"\x7d".toList⟩ =
      .ok ⟨200, [], Text.utf8Bytes "\x7b\"access_token\":\"k\"\x7d".toList⟩ := by cbv
  have hresponse : Answer.toResponse ⟨200, [], Text.utf8Bytes "\x7b\"access_token\":\"k\"\x7d".toList⟩ =
      .ok ⟨200, "\x7b\"access_token\":\"k\"\x7d", []⟩ := by cbv
  have hexchange := exchanged_of_answer houtgoing (by decide) hlocation hplain [] []
  rw [hresponse] at hexchange
  have hread : Json.read "\x7b\"access_token\":\"k\"\x7d" = .ok (.object [("access_token", .text "k")]) := by cbv
  have hblank : Response.isBlank ⟨200, "\x7b\"access_token\":\"k\"\x7d", []⟩ = false := by cbv
  have hcontent : Response.content ⟨200, "\x7b\"access_token\":\"k\"\x7d", []⟩ =
      .ok (.object [("access_token", .text "k")]) := by
    rw [Response.content, hblank]
    exact hread
  have htoken : tokenIn? (.ok ⟨200, "\x7b\"access_token\":\"k\"\x7d", []⟩) = some (.text "k") := by
    rw [tokenIn?_ok rfl hcontent]
    rfl
  have hshallow : Response.IsShallow ⟨200, "\x7b\"access_token\":\"k\"\x7d", []⟩ := by
    refine Or.inr fun c hc => ?_
    rw [hread] at hc
    cases hc
  obtain ⟨_, _, hgranted, _⟩ := apply_classified hexchange hshallow ⟨"GET", "http://h/", [], "", none⟩
  obtain ⟨t, sent, ht, hsent, hauthorized⟩ := hgranted (.text "k") htoken
  cases ht
  exact ⟨_, hexchange, sent, hsent, hauthorized⟩

end Authentication

/-! ### Name and password -/

namespace Exchange

/-- A text is cut at the first place where a character stands. -/
theorem cutAtFirst_append {stop : Char} {front : List Char} (h : stop ∉ front) (back : List Char) :
    cutAtFirst stop (front ++ stop :: back) = (front, some back) := by
  have hkept : ∀ c ∈ front, (c != stop) = true := fun c hc => bne_iff_ne.2 fun heq => h (heq ▸ hc)
  unfold cutAtFirst
  rw [if_pos (by simp), List.takeWhile_append_of_pos hkept, List.dropWhile_append_of_pos hkept]
  simp

end Exchange

namespace Credentials

/-- The name, which is empty if there is none. -/
def name (c : Credentials) : String := c.username.getD ""

/-- The password, which is empty if there is none. -/
def secret (c : Credentials) : String := c.password.getD ""

/-- Name and password with a colon between them. -/
def pair (c : Credentials) : String := c.name ++ ":" ++ c.secret

theorem toList_pair (c : Credentials) : c.pair.toList = c.name.toList ++ ':' :: c.secret.toList := by
  simp [pair, String.toList_append]

variable {c other : Credentials}

theorem isEncodable_pair (hname : IsEncodable c.name) (hsecret : IsEncodable c.secret) : IsEncodable c.pair := by
  intro d hd
  rw [toList_pair, List.mem_append, List.mem_cons] at hd
  rcases hd with hd | rfl | hd
  · exact hname d hd
  · exact isScalar_of_lt (by decide)
  · exact hsecret d hd

/-- A name without a colon and the password behind it are known from the text that they make. -/
theorem eq_of_pair (h : ':' ∉ c.name.toList) (hother : ':' ∉ other.name.toList) (heq : other.pair = c.pair) :
    other.name = c.name ∧ other.secret = c.secret := by
  have hcut := cutAtFirst_append h c.secret.toList
  rw [← toList_pair, ← heq, toList_pair, cutAtFirst_append hother] at hcut
  simpa [String.toList_inj] using hcut

end Credentials

namespace Authentication

variable {c : Credentials}

/-- Name and password come to the code of their bytes, unless half a character stands in them. -/
theorem comesTo_authorization_basic (c : Credentials) (network : Network) :
    comesTo (authorization basic c) network =
      (((utf8 c.pair).mapError Error.encoding).map fun bytes => some ("Basic " ++ Base64.encode bytes), network) := by
  show comesTo (Online.lift ((utf8 c.pair).mapError .encoding) >>= fun bytes =>
    (return some ("Basic " ++ Base64.encode bytes) : Online (Option String))) network = _
  cases utf8 c.pair <;> rfl

/-- Any code that goes out is read back as name and password. -/
theorem pair_of_authorization {code : String} {network left : Network}
    (h : comesTo (authorization basic c) network = (.ok (some ("Basic " ++ code)), left)) :
    (Base64.bytes? code.toList).bind ofUtf8? = some c.pair := by
  rw [comesTo_authorization_basic] at h
  cases hutf8 : utf8 c.pair with
  | error f =>
      rw [hutf8] at h
      cases h
  | ok bytes =>
      have hbytes : bytes = utf8Bytes c.pair.toList := by
        rw [utf8_eq_ok (isScalar_of_utf8 hutf8)] at hutf8
        exact (Except.ok.inj hutf8).symm
      have hcode : "Basic " ++ Base64.encode bytes = "Basic " ++ code := by
        rw [hutf8] at h
        exact Option.some.inj (Except.ok.inj (congrArg Prod.fst h))
      have hlist : code.toList = Base64.digits bytes := by
        rw [← (String.append_right_inj _).1 hcode, Base64.encode, String.toList_ofList]
      rw [hlist, Base64.bytes?_digits, hbytes]
      exact (ofUtf8?_utf8Bytes c.pair.toList).trans (by rw [String.ofList_toList])

/-- Name and password go out as a code that both can be recovered from, whether or not they are set. No other name
without a colon and no other password go out as that code. -/
theorem authorization_recovered (hname : IsEncodable c.name) (hsecret : IsEncodable c.secret) (network : Network) :
    ∃ code, comesTo (authorization basic c) network = (.ok (some ("Basic " ++ code)), network) ∧
      Base64.IsCode code.toList ∧ (Base64.bytes? code.toList).bind ofUtf8? = some (c.name ++ ":" ++ c.secret) ∧
      (':' ∉ c.name.toList →
        cutAtFirst ':' (c.name ++ ":" ++ c.secret).toList = (c.name.toList, some c.secret.toList) ∧
        ∀ (other : Credentials) (elsewhere : Network), ':' ∉ other.name.toList →
          (comesTo (authorization basic other) elsewhere).1 = .ok (some ("Basic " ++ code)) →
          other.name = c.name ∧ other.secret = c.secret) := by
  have hutf8 : utf8 c.pair = .ok (utf8Bytes c.pair.toList) :=
    utf8_eq_ok (Credentials.isEncodable_pair hname hsecret)
  have hcode : comesTo (authorization basic c) network =
      (.ok (some ("Basic " ++ Base64.encode (utf8Bytes c.pair.toList))), network) := by
    rw [comesTo_authorization_basic, hutf8]
    rfl
  have hpair := pair_of_authorization hcode
  refine ⟨_, hcode, ?_, hpair, fun hcolon => ⟨?_, fun other elsewhere hother hsame => ?_⟩⟩
  · rw [Base64.encode, String.toList_ofList]
    exact Base64.isCode_digits _
  · exact c.toList_pair ▸ cutAtFirst_append hcolon c.secret.toList
  · have hread := pair_of_authorization (Prod.ext hsame rfl)
    exact Credentials.eq_of_pair hcolon hother (Option.some.inj (hread.symm.trans hpair))

/-- A password with a colon, and characters of two and four bytes. -/
theorem authorization_recovered_colon :
    ∃ code, comesTo (authorization basic ⟨some "ü", some "a:😀", none, none, none, none, none, []⟩) ⟨[], []⟩ =
        (.ok (some ("Basic " ++ code)), ⟨[], []⟩) ∧
      (Base64.bytes? code.toList).bind ofUtf8? = some "ü:a:😀" ∧
      cutAtFirst ':' "ü:a:😀".toList = ("ü".toList, some "a:😀".toList) := by
  have hname : IsEncodable "ü" := List.forall_iff_forall_mem.1 (by decide)
  have hsecret : IsEncodable "a:😀" := List.forall_iff_forall_mem.1 (by decide)
  obtain ⟨code, hcode, -, hread, hrecover⟩ := authorization_recovered
    (c := ⟨some "ü", some "a:😀", none, none, none, none, none, []⟩) hname hsecret ⟨[], []⟩
  obtain ⟨hcut, -⟩ := hrecover (by decide)
  exact ⟨code, hcode, hread, hcut⟩

end Authentication

end Courier
