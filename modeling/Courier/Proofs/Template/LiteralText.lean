import Courier.Proofs.Template.LiteralStart
import Courier.Proofs.Template.Names

/-! Literal text in front of a tag. It is put out before what the tag comes to and has no other part in the run, but its
line ends are unified on the way, while a template that has no brace anywhere is its own text and keeps them. The two
agree on every text without returns, and on no other. -/

namespace Courier

namespace Language.Eval

/-- A step comes to what another one comes to under a function. Its faults and the run behind it are the same. -/
def Maps {α β : Type} (f : α → β) (step : Eval α) (other : Eval β) : Prop :=
  ∀ setting run, outcome other setting run = ((outcome step setting run).1.map f, (outcome step setting run).2)

section

variable {α β γ δ : Type} {f : α → β} {g : γ → δ} {step : Eval α} {other : Eval β}

theorem maps_id (step : Eval α) : Maps id step step := by
  intro setting run
  rcases outcome step setting run with ⟨_ | _, _⟩ <;> rfl

theorem maps_pure (f : α → β) (a : α) : Maps f (pure a) (pure (f a)) := fun _ _ => rfl

theorem Maps.bind {next : α → Eval γ} {behind : β → Eval δ} (h : Maps f step other)
    (hnext : ∀ a, Maps g (next a) (behind (f a))) : Maps g (step >>= next) (other >>= behind) := by
  intro setting run
  rw [outcome_bind, outcome_bind, h]
  rcases outcome step setting run with ⟨fault | a, after⟩
  · rfl
  · exact hnext a setting after

theorem Maps.trans {step' : Eval γ} {h : β → γ} (hfirst : Maps f step other) (hnext : Maps h other step') :
    Maps (h ∘ f) step step' := by
  intro setting run
  rw [hnext, hfirst]
  rcases outcome step setting run with ⟨_ | _, _⟩ <;> rfl

/-- Going on from a step without a further one changes its value alone. -/
theorem maps_bind {next : α → Eval β} (h : ∀ a setting run, outcome (next a) setting run = (.ok (f a), run)) :
    Maps f step (step >>= next) := by
  intro setting run
  rw [outcome_bind]
  rcases outcome step setting run with ⟨_ | a, after⟩
  · rfl
  · exact h a setting after

/-- What a step comes to in a scope of its own. -/
theorem Maps.within (h : Maps f step other) (role : ScopeRole) (parameters : List (String × Option Value))
    (symbols : Symbols) : Maps f (within role parameters symbols step) (within role parameters symbols other) := by
  unfold Eval.within
  refine (maps_id _).bind fun run => (maps_id _).bind fun scope => (maps_id _).bind fun _ => h.bind fun a => ?_
  exact (maps_id _).bind fun _ => maps_pure f a

end

end Language.Eval

namespace Template

open Courier.Language Courier.Language.Eval Courier.Text

/-! ### The run -/

/-- The fragment of a text with a tag behind it. -/
def literalFragment (content name : List Char) : Fragment := ⟨[(content, .lookup name)], []⟩

theorem maps_writePieces_value (afterText : Bool) (e : Expression) :
    Maps Output.ofText (evaluate e >>= written) (writePieces afterText [.value e]) := by
  rw [writePieces]
  refine (maps_id _).bind fun v => maps_bind fun s setting run => ?_
  rw [writePieces]
  exact congrArg (fun o => (Except.ok o, run)) (Output.append_none (.ofText s))

theorem maps_executeAll_output (pieces : List Piece) :
    Maps id (writePieces false pieces) (executeAll [.output pieces]) := by
  rw [executeAll, execute]
  refine maps_bind fun o setting run => ?_
  rw [executeAll]
  exact congrArg (fun o => (Except.ok o, run)) (Output.append_none o)

/-- The text of an output without strays. -/
theorem maps_collected {α : Type} {step : Eval α} {other : Eval Output} {f : α → Output} {g : α → String}
    (h : Maps f step other) (hjoined : ∀ a, (f a).joined = .ok (g a)) : Maps g step (collected other) := by
  intro setting run
  unfold collected
  rw [outcome_bind, h]
  rcases outcome step setting run with ⟨_ | a, after⟩
  · rfl
  · show outcome (lift (f a).joined) setting after = _
    rw [outcome_lift, hjoined]
    rfl

/-- A text is put out in front of what the value behind it is written as. -/
theorem maps_collected_textPiece (content : List Char) (e : Expression) :
    Maps (String.ofList content ++ ·) (evaluate e >>= written)
      (collected (executeAll [.output (textPiece content ++ [.value e])])) := by
  cases content with
  | nil =>
      refine maps_collected ((maps_writePieces_value false e).trans (maps_executeAll_output _)) fun s => ?_
      exact congrArg Except.ok String.empty_append.symm
  | cons c content =>
      have htext : Maps ((Output.ofText (String.ofList (c :: content))).append) (writePieces true [.value e])
          (writePieces false (textPiece (c :: content) ++ [.value e])) := by
        show Maps _ _ (writePieces false (.text (String.ofList (c :: content)) :: [.value e]))
        rw [writePieces.eq_2]
        exact maps_bind fun o setting run => rfl
      refine maps_collected (((maps_writePieces_value true e).trans htext).trans (maps_executeAll_output _)) fun s => ?_
      rfl

theorem statements_literalFragment (content name : List Char) :
    (literalFragment content name).program.statements = [.output (textPiece content ++ [.value (lookupCall name)])] := by
  cases content <;> rfl

/-- A text with a tag behind it comes to the text with what the tag comes to behind it. -/
theorem run_literalFragment (content name : List Char) (data : String → Option Value) (memory : Memory) :
    (literalFragment content name).program.run data memory =
      (((tagFragment name).program.run data memory).1.map (String.ofList content ++ ·),
        ((tagFragment name).program.run data memory).2) := by
  have hexpressions : expressionsOfAll (literalFragment content name).program.statements =
      expressionsOfAll (tagFragment name).program.statements := by
    cases content <;> rfl
  have hsymbols : Symbols.afterAll (fun _ => false) .empty (literalFragment content name).program.statements =
      Symbols.afterAll (fun _ => false) .empty (tagFragment name).program.statements := by
    cases content <;> rfl
  have hstep : Maps (String.ofList content ++ ·) (collected (executeAll (tagFragment name).program.statements))
      (collected (executeAll (literalFragment content name).program.statements)) := by
    intro setting run
    rw [statements_literalFragment, maps_collected_textPiece, show (tagFragment name).program.statements =
      [.output (textPiece [] ++ [.value (lookupCall name)])] from rfl, maps_collected_textPiece]
    rcases outcome (evaluate (lookupCall name) >>= written) setting run with ⟨_ | s, after⟩
    · rfl
    · simp [Except.map]
  unfold Program.run
  rw [Fragment.selfVariables, Fragment.selfVariables, run_eq, run_eq, hexpressions, hsymbols, hstep.within]
  rfl

/-! ### Rendering -/

/-- A tag is cut off the text in front of it. -/
theorem cut_append_tag {s t name : String} (hs : '\x7b' ∉ s.toList) (ht : IsTag t name) :
    cut (s ++ t).toList = [.text s.toList, .tag name.toList, .text []] := by
  have hcut : cut (s ++ t).toList = cutFrom (t.toList.length + 1) s.toList.reverse t.toList := by
    rw [cut, String.toList_append, List.length_append, Nat.add_assoc, cutFrom_append hs, List.append_nil]
  rw [hcut]
  unfold IsTag cut at ht
  cases hcs : t.toList with
  | nil =>
      rw [hcs, cutFrom] at ht
      cases ht
  | cons c cs =>
      rw [hcs] at ht
      cases hat : Tag.at? (c :: cs) with
      | none =>
          obtain ⟨more, segments, hfirst⟩ := exists_cutFrom (c :: cs).length [c] cs
          rw [cutFrom, hat] at ht
          simp only [hfirst] at ht
          cases ht
      | some found =>
          obtain ⟨other, rest⟩ := found
          rw [cutFrom, hat] at ht ⊢
          obtain ⟨-, hrest⟩ := List.cons.inj ht
          simp only [hrest, List.reverse_reverse]

theorem guarded_of_not_mem {content : List Char} (h : '\x7b' ∉ content) : guarded content = content := by
  have hkept : dropTrailingList (· == '\x7b') content = content := by
    refine List.rdropWhile_eq_self_iff.2 fun hne hlast => h ?_
    rw [← beq_iff_eq.1 hlast]
    exact List.getLast_mem hne
  unfold guarded
  simp only [hkept, Nat.lt_irrefl, if_false]

/-- A text with a tag behind it is compiled to the text with unified line ends and the look-up of the name. -/
theorem compile_append_tag {s t name : String} (hs : '\x7b' ∉ s.toList) (ht : IsTag t name) :
    compile (s ++ t) = .ok (literalFragment (unifyLines s.toList) (halved name.toList)).program := by
  have hplain : '\x7b' ∉ unifyLines s.toList := fun hin =>
    (mem_of_mem_unifyLines hin).elim hs (by decide)
  have hlookup : '\r' ∉ lookupOf name.toList := by
    rw [← lookupOf_halved]
    exact return_not_mem_hole (o := .lookup (halved name.toList)) codePoint_of_mem_halved
  have hwritten : (literalFragment (unifyLines s.toList) (halved name.toList)).written =
      unifyLines s.toList ++ lookupOf name.toList := by
    simp [literalFragment, Fragment.written, Hole.written, lookupOf_halved]
  have hexpand : (expand (s ++ t)).toList = s.toList ++ lookupOf name.toList := by
    rw [expand, String.toList_ofList, cut_append_tag hs ht]
    simp [writeOut, guarded_of_not_mem hs]
  refine compile_of_lines ⟨?_, ?_, Token.isPlain_of_not_mem List.not_mem_nil⟩ ?_
  · intro p hp
    rw [List.mem_singleton.1 hp]
    exact ⟨Token.isPlain_of_not_mem hplain, fun hlast => hplain (List.mem_of_getLast? hlast)⟩
  · intro p hp
    rw [List.mem_singleton.1 hp]
    exact codePoint_of_mem_halved
  · rw [hexpand, hwritten, unifyLines_append_of_head, unifyLines_of_not_mem hlookup]
    intro c hc
    cases hc
    decide

/-- The program of a text with a tag behind it, on a value. -/
theorem runOn_literalFragment (content name : List Char) (data : Value) (memory : Memory) :
    runOn (literalFragment content name).program data memory =
      ((runOn (tagFragment name).program data memory).1.map (String.ofList content ++ ·),
        (runOn (tagFragment name).program data memory).2) := by
  unfold runOn
  cases Context.ofValue (memory.settle data) with
  | error f => rfl
  | ok context => exact run_literalFragment content name context.findInTemplate memory

/-- Literal text in front of a tag. It is rendered with unified line ends, and the tag as it is by itself. So it is
rendered as the text is by itself exactly if it has no returns. -/
theorem render_append_tag {s t name : String} (hs : '\x7b' ∉ s.toList) (ht : IsTag t name) (data : Value)
    (memory : Memory) :
    render s data memory = (.ok s, memory) ∧
      ∃ (result : Except Fault String) (after : Memory),
        render t data memory = (result.mapError (.ofTemplate t), after) ∧
        render (s ++ t) data memory =
          ((result.map (String.ofList (unifyLines s.toList) ++ ·)).mapError (.ofTemplate (s ++ t)), after) ∧
        ∀ r, result = .ok r → (render (s ++ t) data memory = (.ok (s ++ r), after) ↔ '\r' ∉ s.toList) := by
  have hplain : isPlain s = true := by simpa [isPlain] using hs
  have htag : isPlain t = false := not_isPlain_of_isTag ht
  have hboth : isPlain (s ++ t) = false := by
    simp only [isPlain, Bool.not_eq_false', List.contains_iff_mem, String.toList_append] at htag ⊢
    exact List.mem_append_right _ htag
  have hrender : render (s ++ t) data memory =
      (((runOn (tagFragment (halved name.toList)).program data memory).1.map
        (String.ofList (unifyLines s.toList) ++ ·)).mapError (.ofTemplate (s ++ t)),
        (runOn (tagFragment (halved name.toList)).program data memory).2) := by
    unfold render
    rw [hboth, compile_append_tag hs ht]
    simp only [runOn_literalFragment]
    rfl
  refine ⟨by rw [render, if_pos hplain], (runOn (tagFragment (halved name.toList)).program data memory).1,
    (runOn (tagFragment (halved name.toList)).program data memory).2, ?_, hrender, fun r hr => ?_⟩
  · unfold render
    rw [htag, compile_tag ht]
    rfl
  · rw [hrender, hr, ← unifyLines_eq_self_iff]
    show (Except.ok (String.ofList (unifyLines s.toList) ++ r), _) = _ ↔ _
    rw [Prod.mk.injEq, and_iff_left rfl, Except.ok.injEq, ← String.toList_inj, String.toList_append,
      String.toList_append, List.append_left_inj, String.toList_ofList]

/-- A return before a line feed is lost, though the text keeps it by itself. -/
theorem render_append_tag_return :
    render "a\r\nb " (.ofDocument "data" [] (.object [("x", .text "v")])) .empty = (.ok "a\r\nb ", .empty) ∧
      render "a\r\nb \x7b\x7b x \x7d\x7d" (.ofDocument "data" [] (.object [("x", .text "v")])) .empty =
        (.ok "a\nb v", .empty) := by
  have htag : IsTag "\x7b\x7b x \x7d\x7d" "x" := by decide
  have hjson : (Document.object [("x", .text "v")]).IsJson := by
    refine .object _ (by decide) fun e he => ?_
    rw [List.mem_singleton.1 he]
    exact .text "v"
  obtain ⟨context, hcontext, hrel⟩ := @Context.exists_ofValue_ofDocument "data" [("x", .text "v")] (by decide)
  have hvalue : render "\x7b\x7b x \x7d\x7d" (.ofDocument "data" [] (.object [("x", .text "v")])) .empty =
      (.ok "v", .empty) := by
    refine render_tag htag hcontext (fun name => Value.rel_isMadeOf (hrel name)) hjson rfl
      (List.forall_iff_forall_mem.1 (by decide)) (fun first rest hsegments => Or.inl ?_) rfl
    cases (show ["x"] = first :: rest from hsegments)
    rfl
  obtain ⟨hplain, result, after, hresult, hboth, -⟩ := @render_append_tag "a\r\nb " _ _ (by decide) htag
    (.ofDocument "data" [] (.object [("x", .text "v")])) .empty
  rw [hvalue] at hresult
  cases result with
  | error f => cases congrArg Prod.fst hresult
  | ok r =>
      cases hresult
      exact ⟨hplain, hboth⟩

end Template

end Courier
