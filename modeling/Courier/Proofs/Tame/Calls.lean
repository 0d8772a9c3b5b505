import Courier.Proofs.Tame.Iteration

/-! Calls that are tame: what every text can name makes new values of its arguments, and the look-up of paths reads the
data. -/

namespace Courier.Language

/-! ### Names -/

theorem AllSuit.suits {named : List (String × Value)} (h : AllSuit named) (name : String) :
    ∀ v ∈ entryOf? name named, Suits (Scope.slot name) v :=
  fun v hv => h (name, v) (mem_of_entryOf? hv)

theorem Scope.IsTame.suits {s : Scope} (h : s.IsTame) {name : String} {found : Option Value}
    (hfound : s.find? name = some found) : ∀ v ∈ found, Suits (slot name) v := by
  intro v hv
  unfold find? at hfound
  split at hfound
  · cases hfound
    cases hentry : entryOf? (slot name) s.values with
    | none =>
        rw [hentry] at hv
        cases hv
    | some o =>
        rw [hentry] at hv
        exact h _ (mem_of_entryOf? hentry) v hv
  · cases hfound

namespace Eval

variable {v : Value} {a : Arguments}

theorem suits_variableOf? {name : String} {scopes : List Scope} (h : ∀ s ∈ scopes, s.IsTame) {found : Option Value}
    (hfound : variableOf? name scopes = some found) : ∀ v ∈ found, Suits (Scope.slot name) v := by
  obtain ⟨s, hs, hfound⟩ := List.exists_of_findSome?_eq_some hfound
  exact (h s hs).suits hfound

theorem tameStep_resolve (name : String) :
    TameStep (fun found => ∀ v ∈ found, Suits (Scope.slot name) v) (resolve name) := by
  refine tameStep_read.bind fun setting hsetting => tameStep_get.bind fun run hrun => tameStep_pure fun v hv => ?_
  cases hhanded : entryOf? name setting.handed with
  | some w =>
      rw [hhanded] at hv
      cases hv
      exact hsetting.handed.suits _ _ hhanded
  | none =>
      rw [hhanded] at hv
      cases hexported : entryOf? name run.exported with
      | some w =>
          rw [hexported] at hv
          cases hv
          exact hrun.exported.suits _ _ hexported
      | none =>
          rw [hexported] at hv
          exact hsetting.data name v hv

theorem tameStep_find (name : String) :
    TameStep (fun found => ∀ v ∈ found, Suits (Scope.slot name) v) (find name) := by
  refine tameStep_get.bind fun run hrun => ?_
  split
  · exact tameStep_pure (suits_variableOf? hrun.scopes ‹_›)
  · exact tameStep_resolve name

theorem tameStep_nameValue (name : String) : TameStep (Suits (Scope.slot name)) (nameValue name) := by
  refine (tameStep_find name).bind fun found hfound => tameStep_chained.bind fun chained _ => tameStep_pure ?_
  cases found with
  | none => exact suits_of_isIdle _ (by simp [Value.noName]) rfl
  | some v => exact hfound v rfl

theorem tameStep_pathRoot (name : String) : TameStep (fun found => ∀ v ∈ found, v.IsTame) (pathRoot name) := by
  refine tameStep_get.bind fun run hrun => ?_
  extract_lets assigned
  have hassigned : ∀ v ∈ assigned, v.IsTame := by
    unfold assigned
    split
    · exact fun v hv => (hrun.turn.suits _ v hv).isTame
    · exact fun v hv => (hrun.block.suits _ v hv).isTame
    · exact forall_mem_none
  clear_value assigned
  split
  · exact tameStep_pure hassigned
  · exact (tameStep_resolve name).mono fun found hfound v hv => (hfound v hv).isTame

/-! ### Look-ups -/

theorem tameStep_followPath (path : String) : TameStep Value.IsTame (followPath path) := by
  unfold followPath
  split
  · exact tameStep_pure (by simp)
  · refine (tameStep_pathRoot _).bind fun found hfound => ?_
    split
    · exact tameStep_pure (by simp)
    · refine (tameStep_settled _).bind ?_
      rintro _ rfl
      refine (tameStep_lift (Path.gives_walk _ (hfound _ rfl))).bind fun w hw => ?_
      exact tameStep_pure (Value.isTame_getD hw (by simp))

/-! ### Maps -/

theorem gives_pairOf (position : Nat) (hv : v.IsTame) :
    Gives (fun e => e.1.IsTame ∧ e.2.IsTame) (Method.pairOf position v) := by
  have hiterate := Value.gives_iterate hv
  unfold Method.pairOf
  split
  · exact gives_error _
  · rename_i hread
    have hitems := hiterate _ hread
    split
    · exact gives_error _
    · rw [List.forall_mem_cons, List.forall_mem_singleton] at hitems
      exact (Value.gives_asKey hitems.1).bind fun key hkey => gives_ok ⟨hkey, hitems.2⟩
    · exact gives_error _

theorem forall_pairsUntil (last : Option Fault) (position : Nat) {items : List Value} (h : ∀ w ∈ items, w.IsTame) :
    ∀ e ∈ (Method.pairsUntil last position items).1, e.1.IsTame ∧ e.2.IsTame := by
  induction items generalizing position with
  | nil => exact List.forall_mem_nil _
  | cons w items ih =>
      rw [List.forall_mem_cons] at h
      unfold Method.pairsUntil
      split
      · exact List.forall_mem_cons.2 ⟨gives_pairOf position h.1 _ ‹_›, ih _ h.2⟩
      · exact List.forall_mem_nil _

theorem gives_entriesOf (hv : v.IsTame) :
    Gives (fun entries => ∀ e ∈ entries, e.1.IsTame ∧ e.2.IsTame) (Method.entriesOf v) := by
  have huntil : ∀ e ∈ (Method.entriesUntil v).1, e.1.IsTame ∧ e.2.IsTame := by
    have hiterate := Value.gives_iterate hv
    unfold Method.entriesUntil
    split
    · simpa using hv
    · exact List.forall_mem_nil _
    · split
      · exact forall_pairsUntil _ _ (hiterate _ ‹_›)
      · exact List.forall_mem_nil _
  unfold Method.entriesOf
  split
  · rename_i hentries
    rw [hentries] at huntil
    exact gives_ok huntil
  · exact gives_error _

theorem gives_makeMap (ha : a.IsTame) :
    Gives (fun entries => ∀ e ∈ entries, e.1.IsTame ∧ e.2.IsTame) (makeMap a) := by
  have hmade {pairs : List (Value × Value)} (h : ∀ e ∈ pairs, e.1.IsTame ∧ e.2.IsTame) :
      ∀ e ∈ Value.putKeys (Method.namedEntries a.named) (Value.putKeys pairs []), e.1.IsTame ∧ e.2.IsTame := by
    refine Value.forall_putKeys ?_ (Value.forall_putKeys h (List.forall_mem_nil _))
    exact List.forall_mem_map.2 fun e he => ⟨by simp, ha.named e he⟩
  unfold makeMap
  extract_lets put checked
  refine gives_unless ?_
  unfold checked
  split
  · rename_i v rest hpositional
    have hv := ha.positional v (hpositional ▸ List.mem_cons_self)
    exact (gives_entriesOf hv).bind fun pairs hpairs => gives_ok (hmade hpairs)
  · exact gives_ok (hmade (List.forall_mem_nil _))

theorem tameStep_pairSource (hv : v.IsTame) : TameStep Value.IsTame (pairSource v) := by
  have hdrained {items : List Value} (h : ∀ w ∈ items, w.IsTame) :
      TameStep (fun read => ∀ w ∈ read, w.IsTame) (items.mapM (drained stepLimit)) :=
    tameStep_mapM (fun w hw => (tameUpTo stepLimit).drained w hw) h
  refine ((tameUpTo stepLimit).drained v hv).bind fun w hw => ?_
  split
  · simp only [Value.IsTame, Cursor.IsTame, areTame_iff] at hw
    exact (hdrained hw.2).bind fun read hread => tameStep_pure (by simpa using ⟨hw.1, hread⟩)
  · exact (hdrained (by simpa using hw)).bind fun read hread => tameStep_pure (by simpa using hread)
  · exact (hdrained (by simpa using hw)).bind fun read hread => tameStep_pure (Value.isTame_newTuple.2 hread)
  · exact tameStep_pure hw

theorem tameStep_pairArguments (ha : a.IsTame) : TameStep Arguments.IsTame (pairArguments a) := by
  refine (tameStep_settledArguments a).bind ?_
  rintro _ rfl
  refine (tameStep_mapM (fun v hv => tameStep_pairSource hv) ha.positional).bind fun positional hpositional => ?_
  exact tameStep_pure ⟨hpositional, ha.named⟩

/-! ### Calls -/

theorem gives_makeRange (a : Arguments) : Gives Value.IsTame (makeRange a) := by
  unfold makeRange
  extract_lets made checked
  have hmade (bounds : Int × Int × Int) : Gives Value.IsTame (made bounds) := by
    obtain ⟨start, stop, step⟩ := bounds
    exact gives_unless (gives_unless (gives_unless (gives_ok (by simp))))
  have hchecked (u : Unit) : Gives Value.IsTame (checked u) := by
    unfold checked
    split
    · exact gives_bind fun _ => hmade _
    · exact gives_bind fun _ => gives_bind fun _ => hmade _
    · exact gives_bind fun _ => gives_bind fun _ => gives_bind fun _ => hmade _
    · exact gives_bind fun _ => gives_bind fun _ => gives_bind fun _ => gives_bind fun _ => hmade _
    · exact gives_bind fun _ => hmade _
  split
  · exact gives_error _
  · exact hchecked ()

theorem gives_fillingText (a : Arguments) : Gives Value.IsTame (fillingText a) := by
  unfold fillingText
  refine gives_bind fun vs => gives_bind fun count => ?_
  extract_lets made
  have hmade (paragraph : String) : Gives Value.IsTame (made paragraph) := by
    unfold made
    split
    · exact gives_ok (by simp)
    · exact gives_ok (by simp)
  split
  · exact hmade _
  · exact gives_bind fun least => gives_bind fun limit => gives_unless (gives_unless (hmade _))

theorem isTame_cycler (first : Value) {items : List Value} (hfirst : first.IsTame) (h : ∀ w ∈ items, w.IsTame) :
    (Value.record .loose .cycler [("items", .newTuple items), ("pos", .newInt 0), ("current", first)]).IsTame := by
  simp only [Value.IsTame, fieldsAreTame_iff, List.forall_mem_cons]
  exact ⟨by simp, Value.isTame_newTuple.2 h, by simp, hfirst, List.forall_mem_nil _⟩

/-- What every text can name makes new values, or reads. -/
theorem tameStep_callBuiltin (what : Builtin) (ha : a.IsTame) : TameStep Value.IsTame (callBuiltin what a) := by
  unfold callBuiltin
  split
  · exact tameStep_lift (gives_makeRange a)
  · refine (tameStep_pairArguments ha).bind fun a ha => (tameStep_lift (gives_makeMap ha)).bind fun entries hentries => ?_
    exact tameStep_pure (Value.isTame_newMap.2 hentries)
  · refine (tameStep_pairArguments ha).bind fun a ha => (tameStep_lift (gives_makeMap ha)).bind fun entries hentries => ?_
    refine tameStep_pure ?_
    simp only [Value.IsTame, fieldsAreTame_iff]
    refine ⟨by simp, fun e he => ?_⟩
    obtain ⟨⟨k, w⟩, hentry, he⟩ := List.mem_filterMap.1 he
    obtain ⟨n, -, rfl⟩ := Option.map_eq_some_iff.1 he
    exact (hentries _ hentry).2
  · split
    · exact tameStep_throw _
    · rename_i first rest hpositional
      exact tameStep_pure (isTame_cycler first (ha.positional first (hpositional ▸ List.mem_cons_self)) ha.positional)
  · refine (tameStep_lift (Signature.gives_accept (by simp [Signature.ofNamed, optional]) ha)).bind fun vs hvs => ?_
    refine tameStep_pure ?_
    simp only [Value.IsTame, fieldsAreTame_iff, List.forall_mem_cons]
    exact ⟨by simp, isTame_argument hvs 0, by simp, List.forall_mem_nil _⟩
  · refine tameStep_lift_bind fun vs => ?_
    split
    · exact tameStep_followPath _
    · exact tameStep_throw _
  · exact (tameStep_settledArguments a).bind fun _ _ => tameStep_lift (gives_fillingText _)
  · exact tameStep_throw _

/-- Calling what runs no body and no method. -/
theorem tameStep_call (h : v.isIdle) (ha : a.IsTame) : TameStep Value.IsTame (call v a) := by
  refine (tameStep_present v).bind fun w hw => ?_
  obtain rfl : v = w := hw.symm
  cases v with
  | builtin what => exact tameStep_callBuiltin what ha
  | method owner name => cases h
  | record identity kind fields => cases h
  | _ => exact tameStep_throw _

end Eval

end Courier.Language
