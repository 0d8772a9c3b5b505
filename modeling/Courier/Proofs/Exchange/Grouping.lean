import Courier.Proofs.Authentication
import Courier.Proofs.Document.Entries
import Courier.Proofs.Exchange.Endings
import Courier.Response.Content

/-! The headers of a response. Those of the last reply are put together under their names one after the other; each step
adds one value at the end of one entry, and a new entry only for a name that is met for the first time. So nothing is
lost, mixed up or put in another order, and the first value under a name is the one that was sent first. -/

namespace Courier

namespace Exchange

/-! ### One more header -/

/-- Entries with one more value under a name. -/
def withValue (name value : String) (entries : List (String × List String)) : List (String × List String) :=
  putEntry name ((entryOf? name entries).getD [] ++ [value]) entries

section

variable (name value : String) (entries : List (String × List String))

/-- A value is added to the first entry of its name, or as an entry of its own behind the others. -/
theorem withValue_cons (key : String) (values : List String) : withValue name value ((key, values) :: entries) =
    if key = name then (key, values ++ [value]) :: entries else (key, values) :: withValue name value entries := by
  by_cases h : key = name <;> simp [withValue, putEntry, entryOf?, h]

theorem names_withValue : (withValue name value entries).map (·.1) =
    if name ∈ entries.map (·.1) then entries.map (·.1) else entries.map (·.1) ++ [name] := by
  induction entries with
  | nil => rfl
  | cons e entries ih =>
      obtain ⟨key, values⟩ := e
      rw [withValue_cons]
      by_cases h : key = name
      · simp [h]
      · rw [if_neg h, List.map_cons, ih]
        by_cases hin : name ∈ entries.map (·.1) <;> simp [hin, Ne.symm h]

theorem getD_entryOf?_withValue (other : String) : (entryOf? other (withValue name value entries)).getD [] =
    (entryOf? other entries).getD [] ++ if name = other then [value] else [] := by
  by_cases h : name = other
  · subst h
    rw [withValue, entryOf?_putEntry_self, if_pos rfl]
    rfl
  · rw [withValue, entryOf?_putEntry_of_ne (Ne.symm h), if_neg h, List.append_nil]

theorem sum_withValue : ((withValue name value entries).map (·.2.length)).sum =
    (entries.map (·.2.length)).sum + 1 := by
  induction entries with
  | nil => rfl
  | cons e entries ih =>
      obtain ⟨key, values⟩ := e
      rw [withValue_cons]
      by_cases h : key = name
      · rw [if_pos h, List.map_cons, List.sum_cons, List.map_cons, List.sum_cons, List.length_append]
        simp only [List.length_singleton]
        omega
      · rw [if_neg h, List.map_cons, List.sum_cons, ih, List.map_cons, List.sum_cons]
        omega

end

/-! ### All headers -/

/-- The values that are sent under a name as it is spelled, in their order. -/
def valuesUnder (name : String) (raw : Headers) : List String := (raw.filter (·.1 == name)).map (·.2)

/-- Headers are put together under their names without loss. -/
structure AreGrouped (raw : Headers) (entries : List (String × List String)) : Prop where
  /-- The names are those that are sent, each once, where it first appears. -/
  names : entries.map (·.1) = (raw.map (·.1)).eraseDups
  /-- Under each name stand its values in their order. -/
  values : ∀ e ∈ entries, e.2 = valuesUnder e.1 raw
  /-- There are as many values as headers. -/
  count : (entries.map (·.2.length)).sum = raw.length

theorem collected_concat (raw : Headers) (header : String × String) :
    collected (raw ++ [header]) = withValue header.1 header.2 (collected raw) := by
  rw [collected, List.foldl_append]
  rfl

theorem names_collected (raw : Headers) : (collected raw).map (·.1) = (raw.map (·.1)).eraseDups := by
  induction raw using List.reverseRecOn with
  | nil => rfl
  | append_singleton raw header ih =>
      rw [collected_concat, names_withValue, ih, List.map_append, List.eraseDups_append, List.map_singleton]
      by_cases h : header.1 ∈ raw.map (·.1)
      · rw [if_pos (List.mem_eraseDups.2 h)]
        simp [List.removeAll, h]
      · rw [if_neg (mt List.mem_eraseDups.1 h)]
        simp [List.removeAll, h, List.eraseDups_cons]

theorem nodup_names_collected (raw : Headers) : ((collected raw).map (·.1)).Nodup := by
  induction raw using List.reverseRecOn with
  | nil => exact List.nodup_nil
  | append_singleton raw header ih =>
      rw [collected_concat]
      exact nodup_keys_putEntry ih

theorem getD_entryOf?_collected (name : String) (raw : Headers) :
    (entryOf? name (collected raw)).getD [] = valuesUnder name raw := by
  induction raw using List.reverseRecOn with
  | nil => rfl
  | append_singleton raw header ih =>
      rw [collected_concat, getD_entryOf?_withValue, ih]
      by_cases h : header.1 = name <;> simp [valuesUnder, h]

theorem sum_collected (raw : Headers) : ((collected raw).map (·.2.length)).sum = raw.length := by
  induction raw using List.reverseRecOn with
  | nil => rfl
  | append_singleton raw header ih =>
      rw [collected_concat, sum_withValue, ih, List.length_append, List.length_singleton]

theorem areGrouped_collected (raw : Headers) : AreGrouped raw (collected raw) where
  names := names_collected raw
  values := by
    intro e he
    rw [← getD_entryOf?_collected, entryOf?_of_mem (nodup_names_collected raw) he]
    rfl
  count := sum_collected raw

/-! ### First values -/

theorem head?_valuesUnder (name : String) (raw : Headers) : (valuesUnder name raw).head? = entryOf? name raw := by
  induction raw with
  | nil => rfl
  | cons header raw ih =>
      obtain ⟨key, value⟩ := header
      by_cases h : key = name
      · simp [valuesUnder, entryOf?, h]
      · rw [entryOf?, if_neg (by simpa using h), ← ih]
        simp [valuesUnder, h]

/-- The first value that a response has under a name is that of the first header of the name. -/
theorem AreGrouped.entryOf?_firstHeaders {raw : Headers} {r : Response} (h : AreGrouped raw r.headers) (name : String) :
    entryOf? name r.firstHeaders = entryOf? name raw := by
  have hfirst : r.firstHeaders =
      (r.headers.map (·.1)).filterMap fun key => (entryOf? key raw).map fun value => (key, value) := by
    rw [List.filterMap_map]
    apply List.filterMap_congr
    rintro ⟨key, values⟩ he
    obtain rfl : values = valuesUnder key raw := h.values _ he
    show (valuesUnder key raw).head?.map _ = (entryOf? key raw).map _
    rw [head?_valuesUnder]
  rw [hfirst, entryOf?_filterMap, h.names]
  split
  · rfl
  · rename_i hnot
    rw [List.mem_eraseDups] at hnot
    cases hfound : entryOf? name raw with
    | none => rfl
    | some value => exact absurd (List.mem_map_of_mem (mem_of_entryOf? hfound)) hnot

/-! ### The last reply -/

/-- The reply that came last between two states of a network. -/
def IsLastReply (first after : Network) (reply : Reply) : Prop :=
  ∃ before, first.script = before ++ reply :: after.script

/-- Every error but the refusal of a response. -/
def IsNoRefusal (e : Error) : Prop := ∀ response, e ≠ .refused response

theorem isNoRefusal_of_isOfNetwork {e : Error} (h : e.isOfNetwork) : IsNoRefusal e := by
  rintro response rfl
  cases h

theorem isNoRefusal_of_isUnsendable {r : Request} {e : Error} (h : IsUnsendable r e) : IsNoRefusal e := by
  cases h <;> rintro _ ⟨⟩

variable {first now after : Network}

theorem IsLastReply.suffix {reply : Reply} (h : IsLastReply first after reply) : after.script <:+ first.script := by
  obtain ⟨before, hbefore⟩ := h
  rw [hbefore]
  exact (List.suffix_cons _ _).trans (List.suffix_append _ _)

theorem isLastReply_exchange (h : now.script <:+ first.script) {message : Message} {status : Int} {headers : Headers}
    {body : Text.Bytes} (hreply : (now.exchange message).1 = .answer status headers body) :
    IsLastReply first (now.exchange message).2 (.answer status headers body) := by
  have hhead : now.script.head?.getD Network.silence = .answer status headers body := hreply
  have hafter : (now.exchange message).2.script = now.script.tail := rfl
  obtain ⟨before, hbefore⟩ := h
  cases hscript : now.script with
  | nil =>
      rw [hscript] at hhead
      cases hhead
  | cons reply rest =>
      rw [hscript] at hhead
      obtain rfl : reply = .answer status headers body := hhead
      exact ⟨before, by rw [hafter, ← hbefore, hscript, List.tail_cons]⟩

/-- An answer that comes for a message was the next reply. -/
theorem ends_sendOne_lastReply (h : now.script <:+ first.script) (target : Target) (message : Message) :
    Ends (fun a after => IsLastReply first after (.answer a.status a.headers a.body)) (fun e _ => IsNoRefusal e)
      (comesTo (sendOne target message) now) := by
  rw [comesTo_sendOne]
  cases hreply : (now.exchange message).1 with
  | failure fault text => exact isNoRefusal_of_isOfNetwork rfl
  | answer status headers body =>
      rw [answered]
      split
      · rintro _ ⟨⟩
      · exact isLastReply_exchange h hreply

/-- An answer that was decompressed has the status and the headers that it had. -/
theorem exists_of_plain {a plain : Answer} (h : a.plain = .ok plain) : ∃ body, plain = ⟨a.status, a.headers, body⟩ := by
  unfold Answer.plain at h
  split at h
  · rename_i body _
    cases h
    exact ⟨body, rfl⟩
  · cases h

/-- An answer that comes at the end of a way was the last reply on it. -/
theorem ends_follow_lastReply (fuel : Nat) (h : now.script <:+ first.script) (target : Target) (message : Message) :
    Ends (fun a after => ∃ body, IsLastReply first after (.answer a.status a.headers body)) (fun e _ => IsNoRefusal e)
      (comesTo (follow fuel target message) now) := by
  induction fuel generalizing target message now with
  | zero => exact isNoRefusal_of_isOfNetwork rfl
  | succ fuel ih =>
      refine (ends_sendOne_lastReply h target message).bind fun answer between hlast => ?_
      have hplain : ∀ e, answer.plain = .error e → IsNoRefusal e :=
        fun e he => isNoRefusal_of_isOfNetwork (Answer.plain_error he)
      cases answer.location? with
      | none =>
          refine ends_lift (fun plain hok => ?_) hplain
          obtain ⟨_, rfl⟩ := exists_of_plain hok
          exact ⟨answer.body, hlast⟩
      | some location =>
          refine Ends.bind (P := fun _ between => between.script <:+ first.script)
            (ends_lift (fun _ _ => hlast.suffix) fun e he => ?_) fun next _ hnext => ?_
          · obtain ⟨cause, rfl | rfl⟩ := fails_redirectedTarget_to _ _ _ he
            · rintro _ ⟨⟩
            · rintro _ ⟨⟩
          · exact Ends.bind (P := fun _ between => between.script <:+ first.script)
              (ends_lift (fun _ _ => hnext) hplain) fun _ _ hread => ih hread _ _

/-! ### Responses -/

/-- An exchange ends with a response, or with the refusal of one. -/
def Responds (r : Request) (network : Network) (response : Response) (after : Network) : Prop :=
  comesTo (send r) network = (.ok response, after) ∨ comesTo (send r) network = (.error (.refused response), after)

/-- A response has the status of the last reply, and its headers put together. -/
def IsOfLastReply (first : Network) (response : Response) (after : Network) : Prop :=
  ∃ raw body, IsLastReply first after (.answer response.status raw body) ∧ response.headers = collected raw

theorem exists_of_toResponse {a : Answer} {response : Response} (h : a.toResponse = .ok response) :
    ∃ text, response = ⟨a.status, text, collected a.headers⟩ := by
  obtain ⟨text, -, h⟩ := exists_of_bind_ok h
  cases h
  exact ⟨text, rfl⟩

theorem ends_exchanged_lastReply (r : Request) (network : Network) :
    Ends (IsOfLastReply network) (fun e _ => IsNoRefusal e) (comesTo (exchanged r) network) := by
  refine Ends.bind (P := fun _ after => after = network) (ends_lift (fun _ _ => rfl) fun e he => ?_) ?_
  · rcases of_outgoing_error he with ⟨_, -, he⟩ | he
    · exact isNoRefusal_of_isOfNetwork he
    · exact isNoRefusal_of_isUnsendable he
  · rintro ⟨target, message⟩ _ rfl
    refine (ends_follow_lastReply _ (List.suffix_refl _) target message).bind fun answer after hlast => ?_
    obtain ⟨body, hlast⟩ := hlast
    refine ends_lift (fun response hok => ?_) fun e he => ?_
    · obtain ⟨_, rfl⟩ := exists_of_toResponse hok
      exact ⟨answer.headers, body, hlast, rfl⟩
    · rcases of_bind_error he with he | ⟨_, -, he⟩
      · obtain ⟨_, -, rfl⟩ := exists_of_mapError he
        rintro _ ⟨⟩
      · cases he

/-- An exchange whose reply becomes a response ends with it, whatever its status. -/
theorem responds_of_exchanged {r : Request} {network : Network} {response : Response}
    (h : comesTo (exchanged r) network = (.ok response, after)) : Responds r network response after := by
  have hsend := comesTo_send h
  by_cases hstatus : 400 ≤ response.status
  · rw [if_pos hstatus] at hsend
    exact Or.inr hsend
  · rw [if_neg hstatus] at hsend
    exact Or.inl hsend

/-- An exchange ends with the response that its last reply becomes, and with no other one. -/
theorem responds_iff {r : Request} {network : Network} {response : Response} :
    Responds r network response after ↔ comesTo (exchanged r) network = (.ok response, after) := by
  refine ⟨fun h => ?_, responds_of_exchanged⟩
  have hends := ends_exchanged_lastReply r network
  rcases hrun : comesTo (exchanged r) network with ⟨e | found, left⟩
  · -- Without a response of the last reply nothing is refused either.
    rw [hrun] at hends
    have hsend : comesTo (send r) network = (.error e, left) := by
      rw [send_eq, comesTo_bind, hrun]
    rcases h with h | h
    · cases hsend.symm.trans h
    · cases hsend.symm.trans h
      exact absurd rfl (hends response)
  · rcases responds_of_exchanged hrun with hfound | hfound <;> rcases h with h | h <;> cases hfound.symm.trans h
    · rfl
    · rfl

/-- Every response that an exchange ends with is made of the last reply. -/
theorem Responds.isOfLastReply {r : Request} {network : Network} {response : Response}
    (h : Responds r network response after) : IsOfLastReply network response after := by
  have hends := ends_exchanged_lastReply r network
  rw [responds_iff.1 h] at hends
  exact hends

/-! ### Answers without a body -/

/-- Nothing is nothing, whatever was done to it. -/
theorem plainBody_nil (headers : Headers) : ContentEncoding.plainBody headers [] = .ok [] := by
  have hundo (coding : ContentEncoding.Coding) : coding.undo [] = .ok [] := by cases coding <;> rfl
  have hall (codings : List ContentEncoding.Coding) :
      codings.foldlM (fun bytes coding => coding.undo bytes) [] = .ok [] := by
    induction codings with
    | nil => rfl
    | cons coding codings ih =>
        rw [List.foldlM_cons, hundo]
        exact ih
  exact hall _

/-- Nothing is the empty text in every encoding, those included in which no text can be read. -/
theorem read_nil (charset : Text.Charset) : charset.read [] = .ok "" := by
  cases charset with
  | wide encoding => cases encoding <;> rfl
  | shifted encoding => cases encoding <;> rfl
  | escaped raw => cases raw <;> rfl
  | _ => rfl

/-- An answer without a body that does not lead on becomes a response, whatever headers it has. -/
theorem responds_of_answer {r : Request} {target : Target} {message : Message} {status : Int} {raw : Headers}
    {replies : List Reply} {sent : List Message} (houtgoing : outgoing r = .ok (target, message))
    (hscheme : target.scheme.isEmpty = false) (hlocation : Answer.location? ⟨status, raw, []⟩ = none) :
    Responds r ⟨.answer status raw [] :: replies, sent⟩ ⟨status, "", collected raw⟩ ⟨replies, sent ++ [message]⟩ := by
  have hplain : Answer.plain ⟨status, raw, []⟩ = .ok ⟨status, raw, []⟩ := by
    unfold Answer.plain
    rw [plainBody_nil]
  have hresponse : Answer.toResponse ⟨status, raw, []⟩ = .ok ⟨status, "", collected raw⟩ := by
    unfold Answer.toResponse bodyText
    rw [read_nil]
    rfl
  have hexchanged := exchanged_of_answer houtgoing hscheme hlocation hplain replies sent
  rw [hresponse] at hexchanged
  exact responds_of_exchanged hexchanged

/-! ### The headers of a response -/

/-- The headers of a response are those of the last reply, put together under their names without loss, and the first
value under a name is that of its first header; so it is for a response that is refused as well. An answer without a
body that does not lead on becomes such a response, whatever headers it has. -/
theorem responds_grouped (r : Request) (network : Network) :
    (∀ response after, Responds r network response after →
      ∃ raw body, IsLastReply network after (.answer response.status raw body) ∧ AreGrouped raw response.headers ∧
        ∀ name, entryOf? name response.firstHeaders = entryOf? name raw) ∧
    ∀ target message status raw replies, outgoing r = .ok (target, message) → target.scheme.isEmpty = false →
      Answer.location? ⟨status, raw, []⟩ = none → network.script = .answer status raw [] :: replies →
      ∃ response, Responds r network response ⟨replies, network.sent ++ [message]⟩ ∧ response.status = status ∧
        AreGrouped raw response.headers ∧ ∀ name, entryOf? name response.firstHeaders = entryOf? name raw := by
  refine ⟨fun response after h => ?_, fun target message status raw replies houtgoing hscheme hlocation hscript => ?_⟩
  · obtain ⟨raw, body, hlast, hheaders⟩ := h.isOfLastReply
    have hgrouped : AreGrouped raw response.headers := hheaders ▸ areGrouped_collected raw
    exact ⟨raw, body, hlast, hgrouped, hgrouped.entryOf?_firstHeaders⟩
  · obtain ⟨_, sent⟩ := network
    obtain rfl : _ = Reply.answer status raw [] :: replies := hscript
    have hgrouped : AreGrouped raw (collected raw) := areGrouped_collected raw
    exact ⟨⟨status, "", collected raw⟩, responds_of_answer houtgoing hscheme hlocation, rfl, hgrouped,
      AreGrouped.entryOf?_firstHeaders hgrouped⟩

/-- An answer that is refused behind a reply that leads on, and one without a body: two spellings are two names. -/
theorem responds_grouped_cookies :
    Responds ⟨"GET", "http://h/a", [], "", none⟩
      ⟨[.answer 302 [("Location", "/b"), ("ETag", "o")] [],
        .answer 404 [("Set-Cookie", "a=1"), ("ETag", "x"), ("Set-Cookie", "b=2"), ("set-cookie", "c=3")] [33]], []⟩
      ⟨404, "!", [("Set-Cookie", ["a=1", "b=2"]), ("ETag", ["x"]), ("set-cookie", ["c=3"])]⟩
      ⟨[], [⟨"GET", "http://h/a", [("Host", "h"), ("Accept", "*/*")], []⟩,
        ⟨"GET", "http://h/b", [("Host", "h"), ("Accept", "*/*")], []⟩]⟩ ∧
    (∃ raw, AreGrouped raw [("Set-Cookie", ["a=1", "b=2"]), ("ETag", ["x"]), ("set-cookie", ["c=3"])] ∧
      entryOf? "Set-Cookie" raw = some "a=1") ∧
    ∃ response, Responds ⟨"GET", "http://h/a", [], "", none⟩ ⟨[.answer 200 [("b", "1"), ("A", "2"), ("b", "3")] []], []⟩
        response ⟨[], [⟨"GET", "http://h/a", [("Host", "h"), ("Accept", "*/*")], []⟩]⟩ ∧
      AreGrouped [("b", "1"), ("A", "2"), ("b", "3")] response.headers ∧
      entryOf? "b" response.firstHeaders = some "1" := by
  have hrefused : Responds ⟨"GET", "http://h/a", [], "", none⟩
      ⟨[.answer 302 [("Location", "/b"), ("ETag", "o")] [],
        .answer 404 [("Set-Cookie", "a=1"), ("ETag", "x"), ("Set-Cookie", "b=2"), ("set-cookie", "c=3")] [33]], []⟩
      ⟨404, "!", [("Set-Cookie", ["a=1", "b=2"]), ("ETag", ["x"]), ("set-cookie", ["c=3"])]⟩
      ⟨[], [⟨"GET", "http://h/a", [("Host", "h"), ("Accept", "*/*")], []⟩,
        ⟨"GET", "http://h/b", [("Host", "h"), ("Accept", "*/*")], []⟩]⟩ := Or.inr (by cbv)
  have houtgoing : outgoing ⟨"GET", "http://h/a", [], "", none⟩ = .ok (⟨"http", "", "h", none, "/a", none, none⟩,
      ⟨"GET", "http://h/a", [("Host", "h"), ("Accept", "*/*")], []⟩) := by cbv
  obtain ⟨raw, _, -, hgrouped, hfirst⟩ := (responds_grouped _ _).1 _ _ hrefused
  obtain ⟨response, hresponds, -, hanswer, hvalue⟩ := (responds_grouped ⟨"GET", "http://h/a", [], "", none⟩
    ⟨[.answer 200 [("b", "1"), ("A", "2"), ("b", "3")] []], []⟩).2 _ _ _ _ _ houtgoing (by decide) rfl rfl
  exact ⟨hrefused, ⟨raw, hgrouped, (hfirst "Set-Cookie").symm⟩, response, hresponds, hanswer, hvalue "b"⟩

end Exchange

end Courier
