import Courier.Proofs.Tame.Calls

/-! Expressions that are tame by their form. They call nothing but what every text can name, and they do not apply the
one filter that adds to a list. -/

namespace Courier.Language

/-- Whether a filter adds to no list, by its arguments as they are written. The filters that a map applies have to be
named by constants. -/
def Filter.isQuietOn (name : String) : List Argument → Bool
  | [] => name != "indent"
  | .named _ _ :: rest | .spreadNamed _ :: rest => isQuietOn name rest
  | .positional (.constant v) :: rest => name != "indent" && (name != "map" || v.text?.all fun n => isQuietOn n rest)
  | .positional _ :: _ | .spread _ :: _ => name != "indent" && name != "map"

/-- Whether what an expression does with the values of its parts changes no container. A call may do so unless it is one
of what every text can name, and a filter if it indents or applies one that does. -/
def Expression.isQuietStep : Expression → Bool
  | .constant v => v.isWritable
  | .call (.name n) _ => callables.contains n
  | .call _ _ => false
  | .filter _ applied arguments => Filter.isQuietOn applied arguments
  | _ => true

/-- The values by position that stand behind others once arguments are worked out. For every filter that is quiet on
the arguments as they are written they are quiet too. -/
def Filter.AddsQuietly (arguments : List Argument) (before after : List Value) : Prop :=
  ∃ more, after = before ++ more ∧ ∀ name, isQuietOn name arguments → isQuiet name more

namespace Filter

variable {rest : List Argument} {before after : List Value}

theorem addsQuietly_nil (vs : List Value) : AddsQuietly [] vs vs := ⟨[], (List.append_nil vs).symm, fun _ h => h⟩

theorem AddsQuietly.positional {e : Expression} {v : Value} (hv : ∀ c, e = .constant c → v.text? = c.text?)
    (h : AddsQuietly rest (before ++ [v]) after) : AddsQuietly (.positional e :: rest) before after := by
  obtain ⟨more, hmore, hquiet⟩ := h
  refine ⟨v :: more, by rw [hmore, List.append_assoc]; rfl, fun name hname => ?_⟩
  by_cases hconstant : ∃ c, e = .constant c
  · obtain ⟨c, rfl⟩ := hconstant
    simp only [isQuietOn, Bool.and_eq_true, Bool.or_eq_true, Option.all_eq_true] at hname
    simp only [isQuiet, hv c rfl, Bool.and_eq_true, Bool.or_eq_true, Option.all_eq_true]
    exact ⟨hname.1, hname.2.imp_right fun hrest n hn => hquiet n (hrest n hn)⟩
  · rw [isQuietOn] at hname
    · simp only [Bool.and_eq_true, bne_iff_ne] at hname
      exact isQuiet_of_ne hname.1 hname.2 _
    · exact fun c hc => hconstant ⟨c, hc⟩

theorem AddsQuietly.spread {e : Expression} {items : List Value} (h : AddsQuietly rest (before ++ items) after) :
    AddsQuietly (.spread e :: rest) before after := by
  obtain ⟨more, hmore, -⟩ := h
  refine ⟨items ++ more, by rw [hmore, List.append_assoc], fun name hname => ?_⟩
  simp only [isQuietOn, Bool.and_eq_true, bne_iff_ne] at hname
  exact isQuiet_of_ne hname.1 hname.2 _

end Filter

/-- Whether nothing in an expression changes a container. -/
def Expression.isQuiet (e : Expression) : Bool := e.withParts.all Expression.isQuietStep

namespace Eval

variable {v : Value}

theorem tameStep_isAssigned (name : String) : TameStep (fun _ => True) (isAssigned name) :=
  tameStep_get.bind fun _ _ => tameStep_pure trivial

theorem tameStep_escapes : TameStep (fun _ => True) escapes :=
  tameStep_read.bind fun _ _ => tameStep_read.bind fun _ _ => tameStep_pure trivial

/-! ### Parts -/

theorem tameStep_blockNamed? (name : String) : TameStep (fun found => ∀ v ∈ found, v.IsTame) (blockNamed? name) := by
  refine tameStep_read.bind fun setting hsetting => ?_
  split
  · exact tameStep_pure forall_mem_none
  · refine tameStep_newIdentity.bind fun identity _ => (tameStep_register _ _).bind fun _ _ => tameStep_pure ?_
    rintro _ ⟨⟩
    simp [parentBlock]

theorem tameStep_memberOf (hv : v.IsTame) (name : String) : TameStep Value.IsTame (memberOf v name) := by
  refine (tameStep_present v).bind ?_
  rintro _ rfl
  split
  · have hidentity := hv
    simp only [Value.IsTame, true_implies] at hidentity
    refine (tameStep_loopAttribute? hidentity.1 name).bind fun found hfound => ?_
    split
    · exact tameStep_pure (hfound _ rfl)
    · exact tameStep_chained.bind fun chained _ => tameStep_lift (Value.gives_attributeOf chained name hv)
  · split
    · exact tameStep_chained.bind fun chained _ => tameStep_lift (Value.gives_attributeOf chained name hv)
    · refine (tameStep_blockNamed? name).bind fun found hfound => tameStep_chained.bind fun chained _ => ?_
      exact tameStep_pure (Value.isTame_getD hfound (by simp [Value.noAttribute]))
  · exact tameStep_chained.bind fun chained _ => tameStep_lift (Value.gives_attributeOf chained name hv)

theorem tameStep_itemOf (hv : v.IsTame) (key : Value) : TameStep Value.IsTame (itemOf v key) := by
  refine (tameStep_present v).bind ?_
  rintro _ rfl
  split
  · exact tameStep_memberOf hv _
  · refine (tameStep_blockNamed? _).bind fun found hfound => ?_
    split
    · exact tameStep_pure (hfound _ rfl)
    · exact tameStep_chained.bind fun chained _ => tameStep_lift (Value.gives_item chained key hv)
  · exact tameStep_chained.bind fun chained _ => tameStep_lift (Value.gives_item chained key hv)

theorem tameStep_shownForm (hv : v.IsTame) : TameStep Value.IsTame (shownForm v) := by
  refine (tameStep_shownLoop hv).bind fun shown hshown => (tameStep_settled shown).mono ?_
  rintro _ rfl
  exact hshown

/-! ### Operations -/

theorem tameStep_compare (c : Comparison) {w : Value} (hw : w.IsTame) : TameStep (fun _ => True) (compare c v w) := by
  cases c with
  | equal | notEqual =>
      exact (tameStep_settled _).bind fun _ _ => (tameStep_settled _).bind fun _ _ => tameStep_pure trivial
  | ordered relation =>
      exact (tameStep_settled _).bind fun _ _ => (tameStep_settled _).bind fun _ _ => tameStep_lift fun _ _ => trivial
  | within => exact (tameUpTo stepLimit).contains w v hw
  | notWithin => exact ((tameUpTo stepLimit).contains w v hw).bind fun _ _ => tameStep_pure trivial

theorem tameStep_isVariable (e : Expression) : TameStep (fun _ => True) (isVariable e) := by
  unfold isVariable
  split
  · exact tameStep_isAssigned _
  · exact tameStep_pure trivial

theorem tameStep_sameValues (a b : Expression) (v w : Value) : TameStep (fun _ => True) (sameValues a b v w) := by
  unfold sameValues
  split
  · exact tameStep_pure trivial
  · split
    · exact (tameStep_isVariable a).bind fun _ _ => (tameStep_isVariable b).bind fun _ _ => tameStep_pure trivial
    · exact tameStep_pure trivial

theorem tameStep_spreadItems (hv : v.IsTame) : TameStep (fun items => ∀ w ∈ items, w.IsTame) (spreadItems v) := by
  refine (tameStep_observe (tameStep_cursorOf hv)).bind fun cursor _ => ?_
  split
  · exact (tameUpTo stepLimit).itemsOf v hv
  · exact tameStep_throw _
  · exact tameStep_throw _

theorem gives_spreadEntries (shown : String) (hv : v.IsTame) :
    Gives (fun named => ∀ e ∈ named, e.2.IsTame) (spreadEntries shown v) := by
  unfold spreadEntries
  split
  · simp only [Value.IsTame, entriesAreTame_iff] at hv
    refine gives_mapM (P := fun e => e.1.IsTame ∧ e.2.IsTame) (fun e he => ?_) hv
    obtain ⟨k, w⟩ := e
    dsimp only
    split
    · exact gives_ok he.2
    · exact gives_error _
  · exact gives_error _
  · exact gives_error _

theorem gives_addNamed (shown : String) {named : List (String × Value)} (hnamed : ∀ e ∈ named, e.2.IsTame)
    {a : Arguments} (ha : a.IsTame) :
    Gives (fun b => b.IsTame ∧ b.positional = a.positional) (addNamed shown named a) := by
  unfold addNamed
  split
  · exact gives_error _
  · exact gives_ok ⟨⟨ha.positional, List.forall_mem_append.2 ⟨ha.named, hnamed⟩⟩, rfl⟩

theorem tameStep_shownName (isCheck : Bool) (name : String) : TameStep (fun _ => True) (shownName isCheck name) := by
  by_cases hknown : (if isCheck then Check.names else Filter.names).contains name
  · rw [shownName, if_pos hknown]
    exact tameStep_pure trivial
  · rw [shownName, if_neg hknown]
    exact tameStep_read.bind fun _ _ => tameStep_pure trivial

theorem gives_joinedText (vs : List Value) : Gives Value.IsTame (joinedText vs) :=
  gives_bind fun _ => gives_ok (by simp)

theorem gives_joinedMarked (vs : List Value) : Gives Value.IsTame (joinedMarked vs) := by
  unfold joinedMarked
  split
  · exact gives_bind fun _ => gives_ok (by simp)
  · exact gives_joinedText vs

/-! ### Expressions -/

/-- A constant is worth what is written. -/
theorem tameStep_constant (h : v.isWritable) :
    TameStep (fun w => w.IsTame ∧ w.text? = v.text?) (evaluate (.constant v)) := by
  unfold evaluate
  split
  · exact tameStep_throw _
  · refine tameStep_read.bind fun setting _ => tameStep_pure ⟨Value.isTame_inProgram _ _ h, ?_⟩
    cases v <;> rfl

/-- A check is applied to the values of its parts, unless it asks whether two parts are the same. -/
theorem tameStep_check {subject : Expression} {name : String} {arguments : List Argument}
    (hsubject : TameStep Value.IsTame (evaluate subject))
    (harguments : ∀ shown, TameStep Arguments.IsTame
      (evaluateArguments shown (keepsNames arguments) arguments .empty))
    (hsame : ∀ other, name = "sameas" → arguments = [.positional other] → False) :
    TameStep Value.IsTame (evaluate (.check subject name arguments)) := by
  rw [evaluate]
  · refine hsubject.bind fun v hv => (tameStep_shownName _ _).bind fun shown _ => ?_
    refine (harguments shown).bind fun a ha => ?_
    split
    · exact tameStep_throw _
    · exact ((tameUpTo stepLimit).applyCheck name v a hv ha).bind fun _ _ => tameStep_pure (by simp)
  · exact hsame

mutual

theorem tameStep_evaluate (e : Expression) (h : e.withParts.all Expression.isQuietStep) :
    TameStep Value.IsTame (evaluate e) := by
  cases e with
  | constant v =>
    simp only [Expression.withParts, List.all_cons, List.all_nil, Bool.and_true, Expression.isQuietStep] at h
    exact (tameStep_constant h).mono fun w hw => hw.1
  | name n =>
    unfold evaluate
    exact (tameStep_nameValue n).mono fun v hv => hv.isTame
  | enclosed =>
    unfold evaluate
    refine tameStep_read.bind fun setting _ => tameStep_escapes.bind fun isEscaped _ => tameStep_pure ?_
    cases isEscaped <;> simp
  | tuple items =>
    simp only [Expression.withParts, List.all_cons, Expression.isQuietStep, Bool.true_and] at h
    unfold evaluate
    exact (tameStep_evaluateAll items h).bind fun vs hvs => tameStep_pure (Value.isTame_newTuple.2 hvs)
  | list items =>
    simp only [Expression.withParts, List.all_cons, Expression.isQuietStep, Bool.true_and] at h
    unfold evaluate
    exact (tameStep_evaluateAll items h).bind fun vs hvs => tameStep_pure (Value.isTame_newList.2 hvs)
  | map entries =>
    simp only [Expression.withParts, List.all_cons, Expression.isQuietStep, Bool.true_and] at h
    unfold evaluate
    exact (tameStep_evaluateEntries entries h).bind fun vs hvs => tameStep_lift (gives_mapOf hvs)
  | unary operator e =>
    simp only [Expression.withParts, List.all_cons, Expression.isQuietStep, Bool.true_and] at h
    unfold evaluate
    refine (tameStep_evaluate e h).bind fun v hv => ?_
    refine (tameStep_settled v).bind ?_
    rintro _ rfl
    exact tameStep_lift (Operation.gives_unary operator _)
  | binary operator a b =>
    simp only [Expression.withParts, List.all_cons, List.all_append, Expression.isQuietStep, Bool.true_and,
      Bool.and_eq_true] at h
    unfold evaluate
    refine (tameStep_evaluate a h.1).bind fun v hv => ?_
    refine (tameStep_evaluate b h.2).bind fun w hw => ?_
    refine (tameStep_settled v).bind ?_
    rintro _ rfl
    refine (tameStep_settled w).bind ?_
    rintro _ rfl
    exact tameStep_lift (Operation.gives_binary operator hv hw)
  | both a b =>
    simp only [Expression.withParts, List.all_cons, List.all_append, Expression.isQuietStep, Bool.true_and,
      Bool.and_eq_true] at h
    unfold evaluate
    refine (tameStep_evaluate a h.1).bind fun v hv => ?_
    refine (tameStep_holds v).bind fun isTrue _ => ?_
    split
    · exact tameStep_evaluate b h.2
    · exact tameStep_pure hv
  | either a b =>
    simp only [Expression.withParts, List.all_cons, List.all_append, Expression.isQuietStep, Bool.true_and,
      Bool.and_eq_true] at h
    unfold evaluate
    refine (tameStep_evaluate a h.1).bind fun v hv => ?_
    refine (tameStep_holds v).bind fun isTrue _ => ?_
    split
    · exact tameStep_pure hv
    · exact tameStep_evaluate b h.2
  | joined parts =>
    simp only [Expression.withParts, List.all_cons, Expression.isQuietStep, Bool.true_and] at h
    unfold evaluate
    refine (tameStep_evaluateAll parts h).bind fun vs hvs => ?_
    refine (tameStep_mapM (P := Value.IsTame) (fun v hv => tameStep_shownForm hv) hvs).bind fun shown _ => ?_
    refine tameStep_read.bind fun setting _ => tameStep_lift ?_
    split
    · exact gives_joinedMarked _
    · exact gives_joinedText _
  | compare first rest =>
    simp only [Expression.withParts, List.all_cons, List.all_append, Expression.isQuietStep, Bool.true_and,
      Bool.and_eq_true] at h
    unfold evaluate
    exact (tameStep_evaluate first h.1).bind fun v hv => tameStep_evaluateComparisons v rest h.2
  | choice test body otherwise line =>
    simp only [Expression.withParts, List.all_cons, List.all_append, Expression.isQuietStep, Bool.true_and,
      Bool.and_eq_true] at h
    unfold evaluate
    refine (tameStep_evaluate test h.1.1).bind fun v _ => (tameStep_holds v).bind fun isTrue _ => ?_
    split
    · exact tameStep_evaluate body h.1.2
    · refine (tameStep_evaluateOption otherwise h.2).bind fun found hfound => tameStep_pure ?_
      exact Value.isTame_getD hfound (by simp [missingAlternative])
  | member owner name =>
    simp only [Expression.withParts, List.all_cons, Expression.isQuietStep, Bool.true_and] at h
    unfold evaluate
    exact (tameStep_evaluate owner h).bind fun v hv => tameStep_memberOf hv name
  | item owner key =>
    simp only [Expression.withParts, List.all_cons, List.all_append, Expression.isQuietStep, Bool.true_and,
      Bool.and_eq_true] at h
    have hplain : TameStep Value.IsTame (do
        let v ← evaluate owner
        let k ← evaluate key
        itemOf v (← settled k)) := by
      refine (tameStep_evaluate owner h.1).bind fun v hv => ?_
      refine (tameStep_evaluate key h.2).bind fun k _ => ?_
      exact (tameStep_settled k).bind fun k _ => tameStep_itemOf hv k
    cases key with
    | slice start stop step =>
      simp only [Expression.withParts, List.all_cons, List.all_append, Expression.isQuietStep, Bool.true_and,
        Bool.and_eq_true] at h
      unfold evaluate
      refine (tameStep_evaluate owner h.1).bind fun v hv => ?_
      refine (tameStep_evaluateOption start h.2.1.1).bind fun a _ => ?_
      refine (tameStep_evaluateOption stop h.2.1.2).bind fun b _ => ?_
      refine (tameStep_evaluateOption step h.2.2).bind fun c _ => ?_
      refine (tameStep_present v).bind ?_
      rintro _ rfl
      exact tameStep_lift (Value.gives_sliced hv _ _ _)
    | _ =>
      unfold evaluate
      exact hplain
  | slice start stop step =>
    simp only [Expression.withParts, List.all_cons, List.all_append, Expression.isQuietStep, Bool.true_and,
      Bool.and_eq_true] at h
    unfold evaluate
    refine (tameStep_evaluateOption start h.1.1).bind fun a ha => ?_
    refine (tameStep_evaluateOption stop h.1.2).bind fun b hb => ?_
    refine (tameStep_evaluateOption step h.2).bind fun c hc => tameStep_pure ?_
    simp only [Value.IsTame]
    exact ⟨Value.isTame_getD ha (by simp), Value.isTame_getD hb (by simp), Value.isTame_getD hc (by simp)⟩
  | call callee arguments =>
    cases callee with
    | name n =>
      simp only [Expression.withParts, List.all_cons, List.nil_append, Expression.isQuietStep, Bool.true_and,
        Bool.and_eq_true, List.cons_append, List.contains_iff_mem] at h
      obtain ⟨hname, h⟩ := h
      -- the name is one of those whose values are idle, whatever the run has bound to it
      unfold evaluate
      rw [evaluate]
      refine (tameStep_nameValue _).bind fun f hf => ?_
      refine (tameStep_evaluateArguments _ _ arguments Arguments.isTame_empty h).bind fun a ha => ?_
      refine (tameStep_mapM (fun v hv => tameStep_bound hv) ha.1.positional).bind fun positional hpositional => ?_
      refine (tameStep_mapM (P := fun e => e.2.IsTame) (Q := fun e => e.2.IsTame) (fun e he => ?_) ha.1.named).bind
        fun named hnamed => tameStep_call (hf.isIdle n hname rfl) ⟨hpositional, hnamed⟩
      exact (tameStep_bound he).bind fun v hv => tameStep_pure hv
    | _ => simp [Expression.withParts, Expression.isQuietStep] at h
  | filter subject name arguments =>
    simp only [Expression.withParts, List.all_cons, List.all_append, Expression.isQuietStep,
      Bool.and_eq_true] at h
    obtain ⟨hquiet, hsubject, harguments⟩ := h
    unfold evaluate
    refine (tameStep_evaluate subject hsubject).bind fun v hv => ?_
    refine (tameStep_shownName _ _).bind fun shown _ => ?_
    refine (tameStep_evaluateArguments _ _ arguments Arguments.isTame_empty harguments).bind fun a ha => ?_
    split
    · exact tameStep_throw _
    · obtain ⟨more, hmore, hadds⟩ := ha.2
      refine (tameUpTo stepLimit).applyFilter name v a ?_ hv ha.1
      rw [hmore]
      exact hadds name hquiet
  | check subject name arguments =>
    simp only [Expression.withParts, List.all_cons, List.all_append, Expression.isQuietStep, Bool.true_and,
      Bool.and_eq_true] at h
    have hsubject := tameStep_evaluate subject h.1
    have harguments (shown : String) := tameStep_evaluateArguments shown (keepsNames arguments) arguments
      Arguments.isTame_empty h.2
    match arguments, h.2 with
    | [.positional other], hother =>
      simp only [partsOfArguments, List.append_nil] at hother
      by_cases hname : name = "sameas"
      · subst hname
        rw [evaluate]
        refine hsubject.bind fun v _ => (tameStep_evaluate other hother).bind fun w _ => ?_
        refine (tameStep_settled v).bind fun v _ => (tameStep_settled w).bind fun w _ => ?_
        exact (tameStep_sameValues subject other v w).bind fun _ _ => tameStep_pure (by simp)
      · refine tameStep_check hsubject (fun shown => (harguments shown).mono fun a ha => ha.1) ?_
        exact fun _ hsame _ => hname hsame
    | [], _ | .named _ _ :: _, _ | .spread _ :: _, _ | .spreadNamed _ :: _, _ | .positional _ :: _ :: _, _ =>
      exact tameStep_check hsubject (fun shown => (harguments shown).mono fun a ha => ha.1) nofun

theorem tameStep_evaluateAll (es : List Expression) (h : (partsOfAll es).all Expression.isQuietStep) :
    TameStep (fun vs => ∀ v ∈ vs, v.IsTame) (evaluateAll es) := by
  cases es with
  | nil => exact tameStep_pure (List.forall_mem_nil _)
  | cons e rest =>
    simp only [partsOfAll, List.all_append, Bool.and_eq_true] at h
    unfold evaluateAll
    refine (tameStep_evaluate e h.1).bind fun v hv => ?_
    refine (tameStep_evaluateAll rest h.2).bind fun vs hvs => ?_
    exact tameStep_pure (List.forall_mem_cons.2 ⟨hv, hvs⟩)

theorem tameStep_evaluateEntries (entries : List (Expression × Expression))
    (h : (partsOfEntries entries).all Expression.isQuietStep) :
    TameStep (fun pairs => ∀ e ∈ pairs, e.1.IsTame ∧ e.2.IsTame) (evaluateEntries entries) := by
  cases entries with
  | nil => exact tameStep_pure (List.forall_mem_nil _)
  | cons entry rest =>
    obtain ⟨k, e⟩ := entry
    simp only [partsOfEntries, List.all_append, Bool.and_eq_true] at h
    unfold evaluateEntries
    refine (tameStep_evaluate k h.1.1).bind fun key hkey => ?_
    refine (tameStep_evaluate e h.1.2).bind fun v hv => ?_
    refine (tameStep_evaluateEntries rest h.2).bind fun pairs hpairs => ?_
    exact tameStep_pure (List.forall_mem_cons.2 ⟨⟨hkey, hv⟩, hpairs⟩)

theorem tameStep_evaluateComparisons (left : Value) (rest : List (Comparison × Expression))
    (h : (partsOfRest rest).all Expression.isQuietStep) :
    TameStep Value.IsTame (evaluateComparisons left rest) := by
  cases rest with
  | nil => exact tameStep_pure (by simp)
  | cons part rest =>
    obtain ⟨c, e⟩ := part
    simp only [partsOfRest, List.all_append, Bool.and_eq_true] at h
    unfold evaluateComparisons
    refine (tameStep_evaluate e h.1).bind fun right hright => ?_
    refine (tameStep_compare c hright).bind fun isTrue _ => ?_
    split
    · exact tameStep_evaluateComparisons right rest h.2
    · exact tameStep_pure (by simp)

theorem tameStep_evaluateOption (e : Option Expression) (h : (partsOfOption e).all Expression.isQuietStep) :
    TameStep (fun found => ∀ v ∈ found, v.IsTame) (evaluateOption e) := by
  cases e with
  | none => exact tameStep_pure forall_mem_none
  | some e =>
    unfold evaluateOption
    refine (tameStep_evaluate e h).bind fun v hv => tameStep_pure ?_
    rintro _ ⟨⟩
    exact hv

/-- Values by position are put behind those that are there, and constants are worth what is written. -/
theorem tameStep_evaluateArguments (shown : String) (exact : Bool) (arguments : List Argument) {a : Arguments}
    (ha : a.IsTame) (h : (partsOfArguments arguments).all Expression.isQuietStep) :
    TameStep (fun b => b.IsTame ∧ Filter.AddsQuietly arguments a.positional b.positional)
      (evaluateArguments shown exact arguments a) := by
  cases arguments with
  | nil => exact tameStep_pure ⟨ha, Filter.addsQuietly_nil _⟩
  | cons argument rest =>
    cases argument with
    | positional e =>
      simp only [partsOfArguments, List.all_append, Bool.and_eq_true] at h
      have hvalue : TameStep (fun v => v.IsTame ∧ ∀ c, e = .constant c → v.text? = c.text?) (evaluate e) := by
        by_cases hconstant : ∃ c, e = .constant c
        · obtain ⟨c, rfl⟩ := hconstant
          have hc : c.isWritable := by simpa [Expression.withParts, Expression.isQuietStep] using h.1
          refine (tameStep_constant hc).mono fun v hv => ⟨hv.1, ?_⟩
          rintro _ ⟨⟩
          exact hv.2
        · exact (tameStep_evaluate e h.1).mono fun v hv => ⟨hv, fun c hc => absurd ⟨c, hc⟩ hconstant⟩
      unfold evaluateArguments
      refine hvalue.bind fun v hv => ?_
      have ha : Arguments.IsTame { a with positional := a.positional ++ [v] } :=
        ⟨List.forall_mem_append.2 ⟨ha.positional, List.forall_mem_singleton.2 hv.1⟩, ha.named⟩
      exact (tameStep_evaluateArguments shown exact rest ha h.2).mono fun b hb => ⟨hb.1, hb.2.positional hv.2⟩
    | named n e =>
      simp only [partsOfArguments, List.all_append, Bool.and_eq_true] at h
      unfold evaluateArguments
      refine (tameStep_evaluate e h.1).bind fun v hv => ?_
      extract_lets named
      have ha : Arguments.IsTame { a with named } := by
        refine ⟨ha.positional, ?_⟩
        unfold named
        split
        · exact forall_putEntry hv n ha.named
        · exact List.forall_mem_append.2 ⟨ha.named, List.forall_mem_singleton.2 hv⟩
      exact tameStep_evaluateArguments shown exact rest ha h.2
    | spread e =>
      simp only [partsOfArguments, List.all_append, Bool.and_eq_true] at h
      unfold evaluateArguments
      refine (tameStep_evaluate e h.1).bind fun v hv => (tameStep_spreadItems hv).bind fun items hitems => ?_
      have ha : Arguments.IsTame { a with positional := a.positional ++ items } :=
        ⟨List.forall_mem_append.2 ⟨ha.positional, hitems⟩, ha.named⟩
      exact (tameStep_evaluateArguments shown exact rest ha h.2).mono fun b hb => ⟨hb.1, hb.2.spread⟩
    | spreadNamed e =>
      simp only [partsOfArguments, List.all_append, Bool.and_eq_true] at h
      unfold evaluateArguments
      refine (tameStep_evaluate e h.1).bind fun v hv => ?_
      refine (tameStep_present v).bind ?_
      rintro _ rfl
      refine (tameStep_lift (gives_spreadEntries shown hv)).bind fun named hnamed => ?_
      refine (tameStep_lift (gives_addNamed shown hnamed ha)).bind fun b hb => ?_
      refine (tameStep_evaluateArguments shown exact rest hb.1 h.2).mono fun c hc => ⟨hc.1, ?_⟩
      rw [← hb.2]
      exact hc.2

end

end Eval

end Courier.Language
