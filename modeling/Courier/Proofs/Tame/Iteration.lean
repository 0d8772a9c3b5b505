import Courier.Proofs.Tame.Steps

/-! Handing out items one by one is tame: cursors read containers as they are, and what they leave of a stream belongs to
the run. -/

namespace Courier.Language

namespace Eval

/-- An item with the cursor behind it, if there is one, is tame. -/
def NextIsTame (next : Option (Value × Cursor)) : Prop := ∀ p ∈ next, p.1.IsTame ∧ p.2.IsTame

theorem nextIsTame_none : NextIsTame none := forall_mem_none

theorem nextIsTame_some {v : Value} {rest : Cursor} (hv : v.IsTame) (hrest : rest.IsTame) :
    NextIsTame (some (v, rest)) := by
  rintro _ ⟨⟩
  exact ⟨hv, hrest⟩

/-! ### Parts of containers -/

theorem forall_listItems {v : Value} (h : v.IsTame) : ∀ w ∈ listItems v, w.IsTame := by
  unfold listItems
  split
  · simpa using h
  · exact List.forall_mem_nil _

theorem forall_mapEntries {v : Value} (h : v.IsTame) : ∀ e ∈ mapEntries v, e.1.IsTame ∧ e.2.IsTame := by
  unfold mapEntries
  split
  · simpa using h
  · exact List.forall_mem_nil _

theorem mem_of_firstPresent? {entries : List (Value × Value)} {keys rest : List Value} {e : Value × Value}
    (h : firstPresent? entries keys = some (e, rest)) : e ∈ entries ∧ ∀ k ∈ rest, k ∈ keys := by
  induction keys with
  | nil => cases h
  | cons key keys ih =>
      unfold firstPresent? at h
      split at h
      · rename_i entry hentry
        cases h
        exact ⟨List.mem_of_find?_eq_some hentry, fun k hk => List.mem_cons_of_mem key hk⟩
      · exact ⟨(ih h).1, fun k hk => List.mem_cons_of_mem key ((ih h).2 k hk)⟩

theorem gives_advanceKeyed {entries : List (Value × Value)} (h : ∀ e ∈ entries, e.1.IsTame ∧ e.2.IsTame)
    (kind : ViewKind) {owner : Value} (howner : owner.IsTame) {known ahead : List Value}
    (hknown : ∀ k ∈ known, k.IsTame) (hahead : ∀ k ∈ ahead, k.IsTame) (handedOut : Nat) :
    Gives NextIsTame (advanceKeyed entries kind owner known ahead handedOut) := by
  have hentry {e : Value × Value} (he : e ∈ entries) : (Value.ofEntry kind e.1 e.2).IsTame :=
    Value.isTame_ofEntry kind (h e he).1 (h e he).2
  unfold advanceKeyed
  split
  · exact gives_error _
  · split
    · rename_i k v rest hfirst
      obtain ⟨hmem, hrest⟩ := mem_of_firstPresent? hfirst
      refine gives_ok (nextIsTame_some (hentry hmem) ?_)
      simp only [Cursor.IsTame, areTame_iff]
      exact ⟨howner, hknown, fun w hw => hahead w (hrest w hw)⟩
    · split
      · exact gives_ok nextIsTame_none
      · rename_i k v hfound
        have hmem := List.mem_of_find?_eq_some hfound
        split
        · exact gives_error _
        · refine gives_ok (nextIsTame_some (hentry hmem) ?_)
          simp only [Cursor.IsTame, areTame_iff]
          refine ⟨howner, fun w hw => ?_, List.forall_mem_nil _⟩
          rcases List.mem_or_eq_of_mem_set hw with hw | rfl
          · exact hknown w hw
          · exact (h _ hmem).1

theorem gives_filledBatch {length fill : Value} (hlength : length.IsTame) (hfill : fill.IsTame) {items : List Value}
    (h : ∀ v ∈ items, v.IsTame) : Gives Value.IsTame (filledBatch length fill items) := by
  have hitems := Value.isTame_newList.2 h
  unfold filledBatch
  split
  · exact gives_ok hitems
  · refine gives_bind fun isShort => ?_
    split
    · refine (Operation.gives_binary _ hlength (by simp)).bind fun missing hmissing => ?_
      refine (Operation.gives_binary _ (by simpa using hfill) hmissing).bind fun filling hfilling => ?_
      exact Operation.gives_binary _ hitems hfilling
    · exact gives_ok hitems

theorem gives_sliceShape (length : Nat) {count : Value} (h : count.IsTame) :
    Gives (fun shape => ∀ v ∈ shape, v.IsTame) (sliceShape length count) := by
  refine (Operation.gives_binary _ (by simp) h).bind fun least hleast => ?_
  refine (Operation.gives_binary _ (by simp) h).bind fun longer hlonger => ?_
  exact gives_bind fun n => gives_ok (by simpa using ⟨hleast, hlonger⟩)

/-- What a cut hands out next is made of its filling and its items, of which it leaves some. -/
theorem forall_advanceSlice {fill : Value} (hfill : fill.IsTame) {held items : List Value}
    (h : ∀ v ∈ items, v.IsTame) : ∀ next ∈ advanceSlice fill held items,
      next.1.IsTame ∧ (∀ v ∈ next.2.1, v.IsTame) ∧ ∀ v ∈ next.2.2, v.IsTame := by
  have hpart (size : Nat) (isFilled : Bool) :
      ∀ v ∈ if isFilled then items.take size ++ [fill] else items.take size, v.IsTame := by
    have htake : ∀ v ∈ items.take size, v.IsTame := fun v hv => h v (List.mem_of_mem_take hv)
    cases isFilled with
    | true => exact List.forall_mem_append.2 ⟨htake, List.forall_mem_singleton.2 hfill⟩
    | false => exact htake
  unfold advanceSlice
  split
  · split
    · exact forall_mem_none
    · rintro _ ⟨⟩
      exact ⟨Value.isTame_newList.2 (hpart _ _), by simp, fun v hv => h v (List.mem_of_mem_drop hv)⟩
  · exact forall_mem_none

/-! ### Items and filters -/

/-- What is handed out, filtered and checked with so much fuel is tame, as long as no filter indents. -/
structure TameUpTo (fuel : Nat) : Prop where
  advance : ∀ cursor, cursor.IsTame → TameStep NextIsTame (advance fuel cursor)
  advanceShared : ∀ source, source.IsTame → TameStep NextIsTame (advanceShared fuel source)
  opened : ∀ name a held source, Filter.isQuiet name a.positional → a.IsTame → (∀ v ∈ held, v.IsTame) →
    source.IsTame → TameStep Cursor.IsTame (opened fuel name a held source)
  mapped : ∀ a v, Filter.isQuiet "map" a.positional → a.IsTame → v.IsTame → TameStep Value.IsTame (mapped fuel a v)
  accepts : ∀ name a v, a.IsTame → v.IsTame → TameStep (fun _ => True) (accepts fuel name a v)
  advanceChosen : ∀ name a source, Filter.isQuiet name a.positional → a.IsTame → source.IsTame →
    TameStep NextIsTame (advanceChosen fuel name a source)
  advanceUnique : ∀ positional seen source, (∀ v ∈ positional, v.IsTame) → (∀ v ∈ seen, v.IsTame) → source.IsTame →
    TameStep NextIsTame (advanceUnique fuel positional seen source)
  advanceBatch : ∀ positional held source, (∀ v ∈ positional, v.IsTame) → (∀ v ∈ held, v.IsTame) → source.IsTame →
    TameStep NextIsTame (advanceBatch fuel positional held source)
  collect : ∀ taken cursor, (∀ v ∈ taken, v.IsTame) → cursor.IsTame →
    TameStep (fun read => ∀ v ∈ read.1, v.IsTame) (collect fuel taken cursor)
  itemsOf : ∀ v, v.IsTame → TameStep (fun items => ∀ w ∈ items, w.IsTame) (itemsOf fuel v)
  drained : ∀ v, v.IsTame → TameStep Value.IsTame (drained fuel v)
  contains : ∀ container v, container.IsTame → TameStep (fun _ => True) (contains fuel container v)
  isAmong : ∀ v cursor, cursor.IsTame → TameStep (fun _ => True) (isAmong fuel v cursor)
  applyFilter : ∀ name v a, Filter.isQuiet name a.positional → v.IsTame → a.IsTame →
    TameStep Value.IsTame (applyFilter fuel name v a)
  filterNamed : ∀ name v a, (name.text?.all fun n => Filter.isQuiet n a.positional) → v.IsTame → a.IsTame →
    TameStep Value.IsTame (filterNamed fuel name v a)
  applyStepwise : ∀ name v a, v.IsTame → a.IsTame → TameStep Value.IsTame (applyStepwise fuel name v a)
  reversed : ∀ v, v.IsTame → TameStep Value.IsTame (reversed fuel v)
  checkNamed : ∀ name v a, v.IsTame → a.IsTame → TameStep (fun _ => True) (checkNamed fuel name v a)
  applyCheck : ∀ name v a, v.IsTame → a.IsTame → TameStep (fun _ => True) (applyCheck fuel name v a)

theorem tameUpTo_zero : TameUpTo 0 where
  advance _ _ := tameStep_throw _
  advanceShared _ _ := tameStep_throw _
  opened _ _ _ _ _ _ _ _ := tameStep_throw _
  mapped _ _ _ _ _ := tameStep_throw _
  accepts _ _ _ _ _ := tameStep_throw _
  advanceChosen _ _ _ _ _ _ := tameStep_throw _
  advanceUnique _ _ _ _ _ _ := tameStep_throw _
  advanceBatch _ _ _ _ _ _ := tameStep_throw _
  collect _ _ h _ := tameStep_pure fun v hv => h v (Array.mem_toList_iff.1 hv)
  itemsOf _ _ := tameStep_throw _
  drained _ _ := tameStep_throw _
  contains _ _ _ := tameStep_throw _
  isAmong _ _ _ := tameStep_throw _
  applyFilter _ _ _ _ _ _ := tameStep_throw _
  filterNamed _ _ _ _ _ _ := tameStep_throw _
  applyStepwise _ _ _ _ _ := tameStep_throw _
  reversed _ _ := tameStep_throw _
  checkNamed _ _ _ _ _ := tameStep_throw _
  applyCheck _ _ _ _ _ := tameStep_throw _

theorem isTame_through {name : String} {positional held : List Value} {named : List (String × Value)}
    {source : Cursor} : (Cursor.through name positional named held source).IsTame ↔
      Filter.isQuiet name positional ∧ Arguments.IsTame ⟨positional, named⟩ ∧ (∀ v ∈ held, v.IsTame) ∧
        source.IsTame := by
  simp only [Cursor.IsTame, areTame_iff, fieldsAreTame_iff]
  constructor
  · rintro ⟨hquiet, hpositional, hnamed, hheld, hsource⟩
    exact ⟨hquiet, ⟨hpositional, hnamed⟩, hheld, hsource⟩
  · rintro ⟨hquiet, ha, hheld, hsource⟩
    exact ⟨hquiet, ha.positional, ha.named, hheld, hsource⟩

/-- A filter that hands out items makes a stream that reads its value when it is asked for the first one. -/
theorem isTame_generator {name : String} {positional : List Value} {named : List (String × Value)} {v : Value}
    (hquiet : Filter.isQuiet name positional) (ha : Arguments.IsTame ⟨positional, named⟩) (hv : v.IsTame) :
    (Value.stream .loose "generator" (.through name positional named [] (.waiting v))).IsTame := by
  simp only [Value.IsTame, isTame_through, Cursor.IsTame]
  exact ⟨rfl, hquiet, ha, List.forall_mem_nil _, hv⟩

section

variable {fuel : Nat} (ih : TameUpTo fuel)

include ih

theorem TameUpTo.advance_succ {cursor : Cursor} (h : cursor.IsTame) :
    TameStep NextIsTame (Eval.advance (fuel + 1) cursor) := by
  have hitem {items : List Value} (hitems : ∀ v ∈ items, v.IsTame) {rest : Cursor} (hrest : rest.IsTame)
      (position : Nat) : NextIsTame (items[position]?.map fun v => (v, rest)) := by
    rintro p hp
    obtain ⟨v, hv, rfl⟩ := Option.map_eq_some_iff.1 hp
    exact ⟨hitems v (List.mem_of_getElem? hv), hrest⟩
  unfold Eval.advance
  split
  · exact tameStep_pure nextIsTame_none
  · exact tameStep_throw _
  · simp only [Cursor.IsTame, areTame_iff, List.forall_mem_cons] at h
    exact tameStep_pure (nextIsTame_some h.1 (by simpa using h.2))
  · exact tameStep_throw _
  · exact tameStep_pure nextIsTame_none
  · simp only [Cursor.IsTame] at h
    refine (tameStep_present _).bind ?_
    rintro _ rfl
    exact tameStep_pure (hitem (forall_listItems h) (by simpa using h) _)
  · simp only [Cursor.IsTame] at h
    split
    · exact tameStep_pure nextIsTame_none
    · refine (tameStep_present _).bind ?_
      rintro _ rfl
      exact tameStep_pure (hitem (forall_listItems h) (by simpa using h) _)
  · simp only [Cursor.IsTame, areTame_iff] at h
    refine (tameStep_present _).bind ?_
    rintro _ rfl
    exact tameStep_lift (gives_advanceKeyed (forall_mapEntries h.1) _ h.1 h.2.1 h.2.2 _)
  · simp only [Cursor.IsTame] at h
    exact (tameStep_cursorOf h).bind ih.advance
  · simp only [Cursor.IsTame] at h
    exact ih.advanceShared _ h
  · obtain ⟨hquiet, ha, hheld, hsource⟩ := isTame_through.1 h
    simp only [Cursor.IsTame] at hsource
    exact (ih.opened _ _ _ _ hquiet ha hheld hsource).bind ih.advance
  · obtain ⟨hquiet, ha, hheld, hsource⟩ := isTame_through.1 h
    refine (ih.advance _ hsource).bind fun next hnext => ?_
    split
    · exact tameStep_pure nextIsTame_none
    · rename_i v rest
      obtain ⟨hv, hrest⟩ := hnext _ rfl
      refine (ih.mapped _ _ hquiet ha hv).bind fun w hw => tameStep_pure (nextIsTame_some hw ?_)
      exact isTame_through.2 ⟨hquiet, ha, List.forall_mem_nil _, hrest⟩
  · obtain ⟨hquiet, ha, hheld, hsource⟩ := isTame_through.1 h
    exact ih.advanceUnique _ _ _ ha.positional hheld hsource
  · obtain ⟨hquiet, ha, hheld, hsource⟩ := isTame_through.1 h
    exact ih.advanceBatch _ _ _ ha.positional hheld hsource
  · obtain ⟨hquiet, ha, hheld, hsource⟩ := isTame_through.1 h
    split
    · simp only [Cursor.IsTame, areTame_iff] at hsource
      refine tameStep_pure fun p hp => ?_
      obtain ⟨next, hnext, rfl⟩ := Option.map_eq_some_iff.1 hp
      obtain ⟨hpart, hheld, hitems⟩ := forall_advanceSlice (isTame_argument ha.positional 1) hsource next hnext
      refine ⟨hpart, isTame_through.2 ⟨hquiet, ⟨ha.positional, List.forall_mem_nil _⟩, hheld, ?_⟩⟩
      simpa using hitems
    · exact tameStep_pure nextIsTame_none
  · obtain ⟨hquiet, ha, hheld, hsource⟩ := isTame_through.1 h
    exact ih.advanceChosen _ _ _ hquiet ha hsource

theorem TameUpTo.advanceShared_succ {source : Value} (h : source.IsTame) :
    TameStep NextIsTame (Eval.advanceShared (fuel + 1) source) := by
  unfold Eval.advanceShared
  split
  · exact tameStep_pure nextIsTame_none
  · rename_i identity hidentity
    refine (tameStep_remaining identity).bind fun left hleft => ?_
    have hread : (left.getD source).IsTame := Value.isTame_getD (fun v hv => (hleft v hv).1) h
    have hshared : (Cursor.shared source).IsTame := by simpa using h
    -- only objects of the run are kept, and the source is one if it is a stream or a loop itself
    have hlocal (hsource : left = none → identity.isLocal) : identity.isLocal := by
      cases left with
      | some v => exact (hleft v rfl).2
      | none => exact hsource rfl
    split
    · rename_i type cursor hstream
      simp only [hstream, Value.IsTame] at hread
      have hlocal := hlocal (by
        rintro rfl
        obtain rfl : source = _ := hstream
        cases hidentity
        exact hread.1)
      have hleave {cursor : Cursor} (hcursor : cursor.IsTame) :
          TameStep (fun _ => True) (leave identity (.stream identity type cursor)) :=
        tameStep_leave hlocal (by simpa using ⟨hlocal, hcursor⟩)
      refine (hleave (by simp)).bind fun _ _ => ?_
      refine (tameStep_observe (ih.advance _ hread.2)).bind fun next hnext => ?_
      split
      · obtain ⟨hv, hrest⟩ := hnext _ rfl _ rfl
        exact (hleave hrest).bind fun _ _ => tameStep_pure (nextIsTame_some hv hshared)
      · exact (hleave (by simp)).bind fun _ _ => tameStep_pure nextIsTame_none
      · exact (hleave (by simp)).bind fun _ _ => tameStep_throw _
    · rename_i fields hloop
      simp only [hloop, Value.IsTame, true_implies] at hread
      have hlocal := hlocal (by
        rintro rfl
        obtain rfl : source = _ := hloop
        cases hidentity
        exact hread.1)
      refine (tameStep_beginTurn hlocal).bind fun item hitem => ?_
      split
      · exact tameStep_pure (nextIsTame_some (by simpa using ⟨hitem _ rfl, h⟩) hshared)
      · exact tameStep_pure nextIsTame_none
    · exact tameStep_pure nextIsTame_none

theorem TameUpTo.opened_succ {name : String} {a : Arguments} {held : List Value} {source : Value}
    (hquiet : Filter.isQuiet name a.positional) (ha : a.IsTame) (hheld : ∀ v ∈ held, v.IsTame) (hsource : source.IsTame) :
    TameStep Cursor.IsTame (Eval.opened (fuel + 1) name a held source) := by
  have hcursor : TameStep Cursor.IsTame (do
      return .through name a.positional a.named held (← cursorOf source)) :=
    (tameStep_cursorOf hsource).bind fun cursor hcursor => tameStep_pure (isTame_through.2 ⟨hquiet, ha, hheld, hcursor⟩)
  unfold Eval.opened
  split
  · exact tameStep_lift_bind fun _ => hcursor
  · exact hcursor
  · refine (ih.itemsOf _ hsource).bind fun items hitems => ?_
    refine (tameStep_settled _).bind ?_
    rintro _ rfl
    refine (tameStep_lift (gives_sliceShape _ (isTame_argument ha.positional 0))).bind fun shape hshape => ?_
    exact tameStep_pure (isTame_through.2 ⟨hquiet, ha, hshape, by simpa using hitems⟩)
  · refine (tameStep_present _).bind ?_
    rintro _ rfl
    split
    · exact tameStep_pure (by simp)
    · exact tameStep_cursorOf (by simpa using hsource)
    · exact tameStep_throw _
  · refine (tameStep_holds _).bind fun isTruthy _ => ?_
    split
    · exact tameStep_lift_bind fun _ => hcursor
    · exact tameStep_pure (by simp)

theorem TameUpTo.mapped_succ {a : Arguments} {v : Value} (hquiet : Filter.isQuiet "map" a.positional) (ha : a.IsTame)
    (hv : v.IsTame) : TameStep Value.IsTame (Eval.mapped (fuel + 1) a v) := by
  unfold Eval.mapped
  split
  · rename_i name more hpositional
    have hmore := List.forall_mem_cons.1 (hpositional ▸ ha.positional)
    rw [hpositional] at hquiet
    refine (tameStep_settled _).bind ?_
    rintro _ rfl
    exact ih.filterNamed _ _ _ (by simpa [Filter.isQuiet] using hquiet) hv ⟨hmore.2, ha.named⟩
  · refine tameStep_lift_bind fun parts => ?_
    refine tameStep_chained.bind fun chained _ => ?_
    refine (tameStep_settled _).bind ?_
    rintro _ rfl
    exact tameStep_lift (Filter.gives_follow _ (isTame_fieldOf ha.named _) _ hv)

theorem TameUpTo.accepts_succ (name : String) {a : Arguments} {v : Value} (ha : a.IsTame) (hv : v.IsTame) :
    TameStep (fun _ => True) (Eval.accepts (fuel + 1) name a v) := by
  unfold Eval.accepts
  extract_lets byAttribute checked
  have hchecked {subject : Value} (hsubject : subject.IsTame) : TameStep (fun _ => True) (checked subject) := by
    have htests (n : Nat) : ∀ v ∈ a.positional.drop n, v.IsTame :=
      fun v hv => ha.positional v (List.mem_of_mem_drop hv)
    unfold checked
    split
    · exact tameStep_holds _
    · rename_i test more hdrop
      have hmore := List.forall_mem_cons.1 (hdrop ▸ htests _)
      refine (tameStep_settled _).bind ?_
      rintro _ rfl
      exact ih.checkNamed _ _ _ hsubject ⟨hmore.2, ha.named⟩
  split
  · refine tameStep_chained.bind fun chained _ => ?_
    refine tameStep_lift_bind fun parts => ?_
    refine (tameStep_settled _).bind ?_
    rintro _ rfl
    exact (tameStep_lift (Filter.gives_follow _ (by simp) _ hv)).bind fun subject hsubject => hchecked hsubject
  · exact hchecked hv

theorem TameUpTo.advanceChosen_succ {name : String} {a : Arguments} {source : Cursor}
    (hquiet : Filter.isQuiet name a.positional) (ha : a.IsTame) (h : source.IsTame) :
    TameStep NextIsTame (Eval.advanceChosen (fuel + 1) name a source) := by
  refine (ih.advance _ h).bind fun next hnext => ?_
  split
  · exact tameStep_pure nextIsTame_none
  · rename_i v rest
    obtain ⟨hv, hrest⟩ := hnext _ rfl
    refine (ih.accepts _ _ _ ha hv).bind fun passes _ => ?_
    split
    · exact tameStep_pure (nextIsTame_some hv (isTame_through.2 ⟨hquiet, ha, List.forall_mem_nil _, hrest⟩))
    · exact ih.advanceChosen _ _ _ hquiet ha hrest

theorem TameUpTo.advanceUnique_succ {positional seen : List Value} {source : Cursor}
    (hpositional : ∀ v ∈ positional, v.IsTame) (hseen : ∀ v ∈ seen, v.IsTame) (h : source.IsTame) :
    TameStep NextIsTame (Eval.advanceUnique (fuel + 1) positional seen source) := by
  refine (ih.advance _ h).bind fun next hnext => ?_
  split
  · exact tameStep_pure nextIsTame_none
  · rename_i v rest
    obtain ⟨hv, hrest⟩ := hnext _ rfl
    refine tameStep_lift_bind fun parts => ?_
    refine (tameStep_holds _).bind fun caseCounts _ => ?_
    refine tameStep_chained.bind fun chained _ => ?_
    refine (tameStep_settled _).bind ?_
    rintro _ rfl
    refine (tameStep_lift (Filter.gives_comparedBy _ (by simp) _ _ hv)).bind fun key hkey => ?_
    refine (tameStep_lift (Value.gives_asKey hkey)).bind fun key hkey => ?_
    split
    · exact ih.advanceUnique _ _ _ hpositional hseen hrest
    · refine tameStep_pure (nextIsTame_some hv ?_)
      exact isTame_through.2 ⟨Filter.isQuiet_of_ne (by decide) (by decide) _, ⟨hpositional, List.forall_mem_nil _⟩,
        List.forall_mem_cons.2 ⟨hkey, hseen⟩, hrest⟩

theorem TameUpTo.advanceBatch_succ {positional held : List Value} {source : Cursor}
    (hpositional : ∀ v ∈ positional, v.IsTame) (hheld : ∀ v ∈ held, v.IsTame) (h : source.IsTame) :
    TameStep NextIsTame (Eval.advanceBatch (fuel + 1) positional held source) := by
  have hitems : ∀ v ∈ held.reverse, v.IsTame := fun v hv => hheld v (List.mem_reverse.1 hv)
  refine (ih.advance _ h).bind fun next hnext => ?_
  split
  · split
    · exact tameStep_pure nextIsTame_none
    · refine (tameStep_settled _).bind ?_
      rintro _ rfl
      refine (tameStep_lift (gives_filledBatch (isTame_argument hpositional 0) (isTame_argument hpositional 1)
        hitems)).bind fun part hpart => ?_
      exact tameStep_pure (nextIsTame_some hpart (by simp))
  · rename_i v rest
    obtain ⟨hv, hrest⟩ := hnext _ rfl
    refine (tameStep_settled _).bind fun length _ => ?_
    split
    · refine tameStep_pure (nextIsTame_some (Value.isTame_newList.2 hitems) ?_)
      exact isTame_through.2 ⟨Filter.isQuiet_of_ne (by decide) (by decide) _, ⟨hpositional, List.forall_mem_nil _⟩,
        List.forall_mem_singleton.2 hv, hrest⟩
    · exact ih.advanceBatch _ _ _ hpositional (List.forall_mem_cons.2 ⟨hv, hheld⟩) hrest

theorem TameUpTo.collect_succ {taken : Array Value} {cursor : Cursor} (htaken : ∀ v ∈ taken, v.IsTame)
    (h : cursor.IsTame) : TameStep (fun read => ∀ v ∈ read.1, v.IsTame) (Eval.collect (fuel + 1) taken cursor) := by
  have hread : ∀ v ∈ taken.toList, v.IsTame := fun v hv => htaken v (Array.mem_toList_iff.1 hv)
  refine (tameStep_observe (ih.advance _ h)).bind fun next hnext => ?_
  split
  · obtain ⟨hv, hrest⟩ := hnext _ rfl _ rfl
    refine ih.collect _ _ (fun w hw => ?_) hrest
    rcases Array.mem_push.1 hw with hw | rfl
    · exact htaken w hw
    · exact hv
  · exact tameStep_pure hread
  · exact tameStep_pure hread

theorem TameUpTo.itemsOf_succ {v : Value} (h : v.IsTame) :
    TameStep (fun items => ∀ w ∈ items, w.IsTame) (Eval.itemsOf (fuel + 1) v) := by
  refine (tameStep_cursorOf h).bind fun cursor hcursor => ?_
  refine (ih.collect _ _ (by simp) hcursor).bind fun read hread => ?_
  split
  · exact tameStep_pure hread
  · exact tameStep_throw _

/-- What is left of a stream, read at once, makes a stream of the run. -/
theorem TameUpTo.readWhole {v : Value} (h : v.IsTame) {identity : Identity} (hidentity : identity.isLocal)
    (type : String) : TameStep Value.IsTame (do
      let (items, fault) ← Eval.collect fuel #[] (← cursorOf v)
      return .stream identity type (.fixed (← settledAll items) fault)) := by
  refine (tameStep_cursorOf h).bind fun cursor hcursor => ?_
  refine (ih.collect _ _ (by simp) hcursor).bind fun read hread => ?_
  refine (tameStep_settledAll _).bind ?_
  rintro _ rfl
  exact tameStep_pure (by simpa using ⟨hidentity, hread⟩)

theorem TameUpTo.drained_succ {v : Value} (h : v.IsTame) : TameStep Value.IsTame (Eval.drained (fuel + 1) v) := by
  unfold Eval.drained
  split
  · have hstream := h
    simp only [Value.IsTame] at hstream
    exact ih.readWhole h hstream.1 _
  · have hloop := h
    simp only [Value.IsTame, true_implies] at hloop
    exact ih.readWhole h hloop.1 _
  · refine (tameStep_unfolded _).mono ?_
    rintro _ rfl
    exact h

theorem TameUpTo.contains_succ {container v : Value} (hcontainer : container.IsTame) :
    TameStep (fun _ => True) (Eval.contains (fuel + 1) container v) := by
  have hamong : TameStep (fun _ => True) (do Eval.isAmong fuel (← settled v) (← cursorOf container)) :=
    (tameStep_settled _).bind fun w _ => (tameStep_cursorOf hcontainer).bind fun cursor hcursor =>
      ih.isAmong _ _ hcursor
  unfold Eval.contains
  split
  · exact hamong
  · exact hamong
  · refine (tameStep_unfolded _).bind fun _ _ => (tameStep_settled _).bind fun _ _ => ?_
    exact tameStep_lift fun _ _ => trivial

theorem TameUpTo.isAmong_succ (v : Value) {cursor : Cursor} (h : cursor.IsTame) :
    TameStep (fun _ => True) (Eval.isAmong (fuel + 1) v cursor) := by
  refine (ih.advance _ h).bind fun next hnext => ?_
  split
  · exact tameStep_pure trivial
  · refine (tameStep_settled _).bind fun _ _ => ?_
    split
    · exact tameStep_pure trivial
    · exact ih.isAmong _ _ (hnext _ rfl).2

theorem TameUpTo.applyFilter_succ {name : String} {v : Value} {a : Arguments}
    (hquiet : Filter.isQuiet name a.positional) (hv : v.IsTame) (ha : a.IsTame) :
    TameStep Value.IsTame (Eval.applyFilter (fuel + 1) name v a) := by
  unfold Eval.applyFilter
  split
  · split
    · exact tameStep_throw _
    · exact tameStep_pure (isTame_generator hquiet ha hv)
  · split
    · exact ih.applyStepwise _ _ _ hv ha
    · extract_lets apply
      have happly : ∀ v, v.IsTame → TameStep Value.IsTame (apply v) := by
        intro v hv
        refine tameStep_read.bind fun setting _ => ?_
        refine (tameStep_settledArguments _).bind ?_
        rintro _ rfl
        extract_lets result
        rw [if_neg (by simpa using Filter.ne_indent_of_isQuiet hquiet)]
        exact tameStep_lift (Filter.gives_apply _ _ hv ha)
      split
      · exact (ih.drained _ hv).bind happly
      · split
        · refine (tameStep_shownLoop hv).bind fun shown hshown => ?_
          refine (tameStep_settled _).bind ?_
          rintro _ rfl
          exact happly _ hshown
        · refine (tameStep_shownLoop hv).bind fun shown hshown => ?_
          refine (tameStep_unfolded _).bind ?_
          rintro _ rfl
          exact happly _ hshown

theorem TameUpTo.filterNamed_succ {name v : Value} {a : Arguments}
    (hquiet : name.text?.all fun n => Filter.isQuiet n a.positional) (hv : v.IsTame) (ha : a.IsTame) :
    TameStep Value.IsTame (Eval.filterNamed (fuel + 1) name v a) := by
  unfold Eval.filterNamed
  split
  · rename_i n hn
    rw [Option.eq_some_of_filter_eq_some hn] at hquiet
    exact ih.applyFilter _ _ _ hquiet hv ha
  · exact tameStep_lift_bind fun _ => tameStep_throw _

theorem TameUpTo.applyStepwise_succ (name : String) {v : Value} {a : Arguments} (hv : v.IsTame) (ha : a.IsTame) :
    TameStep Value.IsTame (Eval.applyStepwise (fuel + 1) name v a) := by
  unfold Eval.applyStepwise
  extract_lets values through
  have hvalues (shown : String) (hidden : Nat) {parameters : List Parameter}
      (hdefault : ∀ p ∈ parameters, ∀ d ∈ p.default, d.IsTame) :
      TameStep (fun vs => ∀ w ∈ vs, Value.IsTame w) (values shown hidden parameters) :=
    tameStep_lift (Signature.gives_accept hdefault ⟨List.forall_mem_cons.2 ⟨hv, ha.positional⟩, ha.named⟩)
  have hthrough (hindent : name ≠ "indent") (hmap : name ≠ "map") (vs : List Value) (hvs : ∀ w ∈ vs, w.IsTame) :
      (through vs).IsTame :=
    isTame_generator (Filter.isQuiet_of_ne hindent hmap _) ⟨fun w hw => hvs w (List.mem_of_mem_tail hw), List.forall_mem_nil _⟩
      (isTame_argument hvs 0)
  split
  · refine (hvalues _ _ (by simp [required])).bind fun vs hvs => ?_
    refine (tameStep_cursorOf (isTame_argument hvs 0)).bind fun cursor hcursor => ?_
    refine (ih.advance _ hcursor).bind fun next hnext => ?_
    split
    · exact tameStep_pure (hnext _ rfl).1
    · exact tameStep_chained.bind fun _ _ => tameStep_pure (by simp)
  · exact (hvalues _ _ (by simp [required])).bind fun vs hvs => tameStep_pure (hthrough (by decide) (by decide) vs hvs)
  · exact (hvalues _ _ (by simp [required, optional])).bind fun vs hvs => tameStep_pure (hthrough (by decide) (by decide) vs hvs)
  · exact (hvalues _ _ (by simp [required, optional])).bind fun vs hvs => tameStep_pure (hthrough (by decide) (by decide) vs hvs)
  · exact (hvalues _ _ (by simp [required, optional])).bind fun vs hvs => tameStep_pure (hthrough (by decide) (by decide) vs hvs)
  · exact (hvalues _ _ (by simp [required])).bind fun vs hvs => ih.reversed _ (isTame_argument hvs 0)

theorem TameUpTo.reversed_succ {v : Value} (h : v.IsTame) : TameStep Value.IsTame (Eval.reversed (fuel + 1) v) := by
  unfold Eval.reversed
  extract_lets stream keyed
  have hstream (type : String) {left : Cursor} (hleft : left.IsTame) :
      TameStep Value.IsTame (pure (stream type left)) :=
    tameStep_pure (by simpa [stream, Identity.isLocal] using hleft)
  have hkeyed (kind : ViewKind) (word : String) {identity : Identity} {entries : List (Value × Value)}
      (hmap : (Value.map identity entries).IsTame) :
      TameStep Value.IsTame (pure (keyed kind word identity entries)) := by
    have hkeys : ∀ k ∈ entries.map (·.1), k.IsTame := by
      simp only [Value.IsTame, entriesAreTame_iff] at hmap
      exact List.forall_mem_map.2 fun e he => (hmap e he).1
    refine hstream _ ?_
    simp only [Cursor.IsTame, areTame_iff]
    exact ⟨hmap, hkeys, fun k hk => hkeys k (List.mem_reverse.1 hk)⟩
  refine (tameStep_present _).bind ?_
  rintro _ rfl
  split
  · exact tameStep_pure (by simp)
  · exact tameStep_pure (by simp)
  · have hitems := h
    simp only [Value.IsTame, areTame_iff] at hitems
    refine hstream _ ?_
    split
    · simpa using hitems
    · simpa using hitems
  · simp only [Value.IsTame, areTame_iff] at h
    exact hstream _ (by simpa using h)
  · exact hstream _ (by simp)
  · exact hstream _ (by simp [Value.rangeItems])
  · exact hkeyed _ _ h
  · exact hkeyed _ _ (by simpa using h)
  · exact hkeyed _ _ (by simpa using h)
  · exact hkeyed _ _ (by simpa using h)
  · exact hstream _ (by simp)
  · refine (tameStep_observe (ih.itemsOf _ h)).bind fun items hitems => ?_
    split
    · exact tameStep_pure (Value.isTame_newList.2 fun v hv => hitems _ rfl v (List.mem_reverse.1 hv))
    · split
      · exact tameStep_throw _
      · exact tameStep_throw _

theorem TameUpTo.checkNamed_succ (name : Value) {v : Value} {a : Arguments} (hv : v.IsTame) (ha : a.IsTame) :
    TameStep (fun _ => True) (Eval.checkNamed (fuel + 1) name v a) := by
  unfold Eval.checkNamed
  split
  · exact ih.applyCheck _ _ _ hv ha
  · exact tameStep_lift_bind fun _ => tameStep_throw _

theorem TameUpTo.applyCheck_succ (name : String) {v : Value} {a : Arguments} (hv : v.IsTame) (ha : a.IsTame) :
    TameStep (fun _ => True) (Eval.applyCheck (fuel + 1) name v a) := by
  unfold Eval.applyCheck
  split
  · have hvalues : ∀ w ∈ v :: a.positional, w.IsTame := List.forall_mem_cons.2 ⟨hv, ha.positional⟩
    have hdefault : ∀ p ∈ [required "value", required "seq"], ∀ d ∈ p.default, d.IsTame := by simp [required]
    refine (tameStep_lift (Signature.gives_accept (a := ⟨v :: a.positional, a.named⟩) hdefault
      ⟨hvalues, ha.named⟩)).bind fun vs hvs => ?_
    exact ih.contains _ _ (isTame_argument hvs 1)
  · refine (tameStep_settled _).bind fun _ _ => (tameStep_settledArguments _).bind fun _ _ => ?_
    exact tameStep_lift fun _ _ => trivial

end

/-- Handing out items, filtering and checking is tame. -/
theorem tameUpTo : ∀ fuel, TameUpTo fuel
  | 0 => tameUpTo_zero
  -- all of them at once, by the fuel that they hand to each other
  | fuel + 1 =>
    have ih := tameUpTo fuel
    { advance _ h := ih.advance_succ h
      advanceShared _ h := ih.advanceShared_succ h
      opened _ _ _ _ hquiet ha hheld h := ih.opened_succ hquiet ha hheld h
      mapped _ _ hquiet ha hv := ih.mapped_succ hquiet ha hv
      accepts _ _ _ ha hv := ih.accepts_succ _ ha hv
      advanceChosen _ _ _ hquiet ha h := ih.advanceChosen_succ hquiet ha h
      advanceUnique _ _ _ hpositional hseen h := ih.advanceUnique_succ hpositional hseen h
      advanceBatch _ _ _ hpositional hheld h := ih.advanceBatch_succ hpositional hheld h
      collect _ _ htaken h := ih.collect_succ htaken h
      itemsOf _ h := ih.itemsOf_succ h
      drained _ h := ih.drained_succ h
      contains _ _ hcontainer := ih.contains_succ hcontainer
      isAmong _ _ h := ih.isAmong_succ _ h
      applyFilter _ _ _ hquiet hv ha := ih.applyFilter_succ hquiet hv ha
      filterNamed _ _ _ hquiet hv ha := ih.filterNamed_succ hquiet hv ha
      applyStepwise _ _ _ hv ha := ih.applyStepwise_succ _ hv ha
      reversed _ h := ih.reversed_succ h
      checkNamed _ _ _ hv ha := ih.checkNamed_succ _ hv ha
      applyCheck _ _ _ hv ha := ih.applyCheck_succ _ hv ha }

end Eval

end Courier.Language
