import Courier.Proofs.Document.Json
import Courier.Proofs.Language.Named
import Courier.Response.Content

/-! Which responses have content. Whether they do is known of every body that nests its containers within the limit;
beyond it neither question has an answer, and reading the body fails. -/

namespace Courier

namespace Json

/-! ### Brackets without an end -/

/-- More opening brackets than there is room for are given up, whatever follows them. -/
theorem readValue_brackets (room fuel position : Nat) (rest : List Char) :
    readValue (2 * room + 1 + fuel) room ⟨position, List.replicate (room + 1) '[' ++ rest⟩ =
      .error (.tooDeep .list) := by
  induction room generalizing position with
  | zero =>
      rw [Nat.mul_zero, Nat.zero_add, Nat.add_comm 1 fuel]
      rfl
  | succ room ih =>
      have hfuel : 2 * (room + 1) + 1 + fuel = (2 * room + 1 + fuel) + 1 + 1 := by omega
      -- a bracket is no blank, so that the next one is met at once
      have hskip : skipFrom (position + 1) (List.replicate (room + 1) '[' ++ rest) =
          ⟨position + 1, List.replicate (room + 1) '[' ++ rest⟩ := skipFrom_of_not rfl _ _
      have hitems : readItems (2 * room + 1 + fuel + 1) room ⟨position + 1, List.replicate (room + 1) '[' ++ rest⟩ =
          .error (.tooDeep .list) := by
        rw [readItems, ih]
      rw [hfuel, List.replicate_succ, List.cons_append, readValue]
      simp only [hskip, hitems]
      rfl

/-- A text of opening brackets beyond the nesting limit is given up. -/
theorem read_brackets {n : Nat} (h : nestingLimit < n) :
    read (String.ofList (List.replicate n '[')) = .error (.tooDeep .list) := by
  obtain ⟨extra, rfl⟩ := Nat.exists_eq_add_of_lt h
  have hcount : nestingLimit + extra + 1 = nestingLimit + 1 + extra := by omega
  have hfuel : 2 * (nestingLimit + 1 + extra) + 2 = 2 * nestingLimit + 1 + (2 * extra + 3) := by omega
  have hall : readAll (List.replicate (nestingLimit + 1 + extra) '[') = .error (.tooDeep .list) := by
    unfold readAll
    rw [List.length_replicate, hfuel, List.replicate_add]
    have hskip : skipFrom 0 (List.replicate (nestingLimit + 1) '[' ++ List.replicate extra '[') =
        ⟨0, List.replicate (nestingLimit + 1) '[' ++ List.replicate extra '['⟩ := skipFrom_of_not rfl _ _
    rw [hskip, readValue_brackets]
    rfl
  rw [read, String.toList_ofList, hcount, hall]
  rfl

end Json

namespace Response

/-- A response has content if its body is blank or JSON. -/
def HasContent (r : Response) : Prop := r.isBlank = true ∨ ∃ d, Json.read r.body = .ok d

/-- The containers of a body stay within the nesting limit, so that it is known whether it is JSON. -/
def IsShallow (r : Response) : Prop := r.isBlank = true ∨ ∀ c, Json.read r.body ≠ .error (.tooDeep c)

theorem hasContent_iff (r : Response) : r.HasContent ↔ ∃ d, r.content = .ok d := by
  unfold HasContent content
  cases r.isBlank with
  | true => simp
  | false => simp

theorem isJson_of_content {r : Response} {d : Document} (h : r.content = .ok d) : r.isJson = .ok true := by
  rw [isJson, h]

/-- The content of a response is a document that JSON has a text for. -/
theorem isJson_content {r : Response} {d : Document} (h : r.content = .ok d) : d.IsJson := by
  unfold content at h
  split at h
  · cases h
    exact .object [] List.nodup_nil fun e he => absurd he List.not_mem_nil
  · exact Json.isJson_of_read h

/-- A shallow body without content is told from one with content. -/
theorem isJson_of_not_hasContent {r : Response} (h : r.IsShallow) (hcontent : ¬ r.HasContent) : r.isJson = .ok false := by
  have hblank : r.isBlank = false := by
    simpa using fun hblank => hcontent (Or.inl hblank)
  have hdeep := h.resolve_left (by simp [hblank])
  unfold isJson content
  simp only [hblank, Bool.false_eq_true, if_false]
  cases hread : Json.read r.body with
  | ok d => exact absurd (Or.inr ⟨d, hread⟩) hcontent
  | error cause =>
      cases cause with
      | tooDeep c => exact absurd hread (hdeep c)
      | _ => rfl

/-- Content that counts is that of status 200, or none under another status of success. -/
theorem of_accepted {r : Response} {d : Document} (h : r.accepted = .ok d) :
    (r.status = 200 ∧ r.content = .ok d) ∨ (isSuccessWithout r.status = true ∧ d = .object []) := by
  unfold accepted at h
  by_cases hstatus : r.status = 200
  · simp only [hstatus, beq_self_eq_true, if_true] at h
    cases hcontent : r.content with
    | error cause =>
        rw [hcontent] at h
        cases h
    | ok body =>
        rw [hcontent] at h
        cases h
        exact Or.inl ⟨hstatus, rfl⟩
  · rw [if_neg (by simpa using hstatus)] at h
    by_cases hsuccess : isSuccessWithout r.status = true
    · rw [if_pos hsuccess] at h
      cases h
      exact Or.inr ⟨hsuccess, rfl⟩
    · rw [if_neg hsuccess] at h
      cases h

/-- The content of a response stands under its name in the output. -/
theorem lookup_basic (r : Response) (content : Language.Value) :
    Language.Value.lookup (.newText "response") (r.basic content) = some content := by
  simp [basic, Language.Value.lookup, Language.Value.newText, Language.Value.alike_text]

end Response

end Courier
