import Courier.Language.Iteration
import Courier.Proofs.Tame.Values

/-! Filters make tame values of tame values: they hand on parts of their values and arguments, or make something new
without streams. -/

namespace Courier.Language

/-- All arguments are tame. -/
structure Arguments.IsTame (a : Arguments) : Prop where
  positional : ∀ v ∈ a.positional, v.IsTame
  named : ∀ e ∈ a.named, e.2.IsTame

theorem Arguments.isTame_empty : Arguments.empty.IsTame :=
  ⟨List.forall_mem_nil _, List.forall_mem_nil _⟩

theorem isTame_argument {vs : List Value} (h : ∀ v ∈ vs, v.IsTame) (position : Nat) : (argument vs position).IsTame :=
  Value.isTame_getD (fun v hv => h v (List.mem_of_getElem? hv)) (by simp)

namespace Signature

theorem isTame_of_mem_assign {parameters : List Parameter} {positional : List Value} {named : List (String × Value)}
    (hdefault : ∀ p ∈ parameters, ∀ d ∈ p.default, d.IsTame) (hpositional : ∀ v ∈ positional, v.IsTame)
    (hnamed : ∀ e ∈ named, e.2.IsTame) {v : Value} (h : some v ∈ assign parameters positional named) : v.IsTame := by
  induction parameters generalizing positional with
  | nil => cases h
  | cons p parameters ih =>
      rw [List.forall_mem_cons] at hdefault
      cases positional with
      | nil =>
          rcases List.mem_cons.1 h with h | h
          · cases hfound : entryOf? p.name named with
            | some w =>
                rw [hfound] at h
                cases h
                exact isTame_of_entryOf? hnamed _ hfound
            | none =>
                rw [hfound] at h
                exact hdefault.1 v h.symm
          · exact ih hdefault.2 hpositional h
      | cons w positional =>
          rw [List.forall_mem_cons] at hpositional
          rcases List.mem_cons.1 h with h | h
          · cases h
            exact hpositional.1
          · exact ih hdefault.2 hpositional.2 h

/-- The values of parameters are arguments or defaults. -/
theorem gives_accept {s : Signature} {a : Arguments} (hdefault : ∀ p ∈ s.parameters, ∀ d ∈ p.default, d.IsTame)
    (ha : a.IsTame) : Gives (fun vs => ∀ v ∈ vs, v.IsTame) (s.accept a) := by
  have htame : Gives (fun vs => ∀ v ∈ vs, v.IsTame)
      (.ok ((assign s.parameters a.positional a.named).filterMap id) : Except Fault (List Value)) := by
    refine gives_ok fun v hv => ?_
    obtain ⟨w, hw, rfl⟩ := List.mem_filterMap.1 hv
    exact isTame_of_mem_assign hdefault ha.positional ha.named hw
  unfold accept
  refine gives_bind fun _ => ?_
  split
  · exact gives_error _
  · dsimp only
    split
    · exact gives_error _
    · exact htame

end Signature

namespace Filter

open Value

variable {v : Value} {a : Arguments}

/-- A filter takes its value and its arguments by the parameters of a signature, and makes a tame value of them. -/
theorem gives_bound {name : String} {hidden : Nat} {parameters : List Parameter} {f : List Value → Except Fault Value}
    (hdefault : ∀ p ∈ parameters, ∀ d ∈ p.default, d.IsTame) (hv : v.IsTame) (ha : a.IsTame)
    (hf : ∀ vs, (∀ w ∈ vs, w.IsTame) → Gives IsTame (f vs)) : Gives IsTame (bound name hidden parameters v a f) := by
  refine Gives.bind (Signature.gives_accept hdefault ?_) hf
  exact ⟨List.forall_mem_cons.2 ⟨hv, ha.positional⟩, ha.named⟩

/-- The same for a filter whose parameters have no names. -/
theorem gives_boundByPosition {name : String} {parameters : List Parameter} {f : List Value → Except Fault Value}
    (hdefault : ∀ p ∈ parameters, ∀ d ∈ p.default, d.IsTame) (hv : v.IsTame) (ha : a.IsTame)
    (hf : ∀ vs, (∀ w ∈ vs, w.IsTame) → Gives IsTame (f vs)) :
    Gives IsTame (boundByPosition name parameters v a f) := by
  refine Gives.bind (Signature.gives_accept hdefault ?_) hf
  exact ⟨List.forall_mem_cons.2 ⟨hv, ha.positional⟩, ha.named⟩

theorem gives_exactlyOne {name : String} {f : Value → Except Fault Value} (hf : Gives IsTame (f v)) :
    Gives IsTame (exactlyOne name v a f) := by
  unfold exactlyOne
  split
  · exact gives_error _
  · split
    · exact gives_error _
    · exact hf

/-! ### Attributes of items -/

theorem gives_follow (chained : Bool) {default : Value} (hdefault : default.IsTame) (parts : List Value)
    (hv : v.IsTame) : Gives IsTame (follow chained default parts v) := by
  induction parts generalizing v with
  | nil => exact gives_ok hv
  | cons part parts ih =>
      refine (gives_item chained part hv).bind fun next hnext => ih ?_
      split
      · exact hnext
      · exact hdefault
      · exact hnext

theorem isTame_foldCase (hv : v.IsTame) : (foldCase v).IsTame := by
  unfold foldCase
  split
  · simp [newText]
  · simp
  · exact hv

theorem gives_comparedBy (chained : Bool) {default : Value} (hdefault : default.IsTame) (parts : List Value)
    (caseCounts : Bool) (hv : v.IsTame) : Gives IsTame (comparedBy chained default parts caseCounts v) := by
  refine (gives_follow chained hdefault parts hv).bind fun found hfound => gives_ok ?_
  split
  · exact hfound
  · exact isTame_foldCase hfound

/-! ### Texts -/

theorem isTame_inPlaceOf (v : Value) (t : String) : (inPlaceOf v t).IsTame := by
  unfold inPlaceOf
  split
  · split <;> simp [newText]
  · simp
  · simp [newText]

theorem gives_softText (v : Value) : Gives (fun soft => ∀ s, (soft.2 s).IsTame) (softText v) := by
  unfold softText
  split
  · exact gives_ok fun s => by simp [ownText]
  · exact gives_ok fun s => by simp
  · exact gives_bind fun _ => gives_ok fun s => by simp [ownText]

theorem gives_replaced (manner : Manner) (v old new : Value) (most : Int) :
    Gives IsTame (replaced manner v old new most) := by
  unfold replaced
  dsimp only
  split
  · exact gives_bind fun _ => gives_bind fun _ => gives_bind fun _ => gives_ok (by simp)
  · refine gives_bind fun _ => gives_bind fun _ => gives_bind fun _ => gives_ok ?_
    split
    · simp [newText]
    · exact isTame_inPlaceOf _ _

theorem gives_ofText? (manner : Manner) (name : String) (hv : v.IsTame) (ha : a.IsTame) :
    ∀ result ∈ ofText? manner name v a, Gives IsTame result := by
  have halone (shown : String) (f : String → String) :
      Gives IsTame (bound shown 0 [required "s"] v a fun vs => do
        let soft ← softText (argument vs 0)
        return soft.2 (f soft.1)) :=
    gives_bound (by simp [required]) hv ha fun vs _ => (gives_softText _).bind fun soft hsoft => gives_ok (hsoft _)
  intro result h
  unfold ofText? at h
  dsimp only at h
  split at h <;> cases h
  case h_1 => exact halone "do_upper" Text.upper
  case h_2 => exact halone "do_lower" Text.lower
  case h_3 => exact halone "do_capitalize" Text.capitalize
  case h_4 =>
    exact gives_bound (by simp [required]) hv ha fun vs _ => gives_bind fun _ => gives_ok (by simp)
  case h_5 =>
    refine gives_boundByPosition (by simp [required]) hv ha fun vs _ => ?_
    exact gives_bind fun _ => gives_ok (isTame_inPlaceOf _ _)
  case h_6 =>
    refine gives_bound (by simp [required, optional]) hv ha fun vs _ => ?_
    exact gives_bind fun _ => gives_bind fun _ => gives_ok (isTame_inPlaceOf _ _)
  case h_7 =>
    refine gives_bound (by simp [required, optional]) hv ha fun vs _ => ?_
    split
    · split <;> exact gives_bind fun most => gives_replaced _ _ _ _ _
    · exact gives_ok (by simp)
  case h_8 =>
    refine gives_bound (by simp [required, optional]) hv ha fun vs _ => ?_
    exact gives_bind fun _ => gives_bind fun _ => gives_ok (isTame_inPlaceOf _ _)
  case h_9 =>
    exact gives_bound (by simp [required]) hv ha fun vs _ => gives_bind fun _ => gives_ok (by simp)
  case h_10 | h_11 =>
    exact gives_boundByPosition (by simp [required]) hv ha fun vs _ => gives_bind fun _ => gives_ok (by simp)
  case h_12 | h_13 =>
    exact gives_bound (by simp [required]) hv ha fun vs _ => gives_bind fun _ => gives_ok (by simp)
  case h_14 =>
    exact gives_bound (by simp [required, optional]) hv ha fun vs _ => gives_bind fun _ => gives_ok (by simp)

/-! ### Layout -/

theorem isTame_markedLike (v : Value) (s : String) : (markedLike v s).IsTame := by
  unfold markedLike
  split <;> simp

theorem gives_joinedBy (separator : Value) (parts : List Value) : Gives IsTame (joinedBy separator parts) := by
  unfold joinedBy
  split
  · exact gives_bind fun _ => gives_bind fun _ => gives_ok (by simp)
  · exact gives_bind fun _ => gives_bind fun _ => gives_ok (by simp)

theorem gives_upToLastBlank (v : Value) : Gives IsTame (upToLastBlank v) := by
  unfold upToLastBlank
  split
  · exact gives_ok (isTame_markedLike _ _)
  · exact gives_ok (isTame_markedLike _ _)
  · exact gives_error _
  · exact gives_error _

theorem gives_truncated {length ending leeway : Value} (hv : v.IsTame) (hending : ending.IsTame)
    (insideWords : Bool) : Gives IsTame (truncated v length insideWords ending leeway) := by
  unfold truncated
  refine gives_bind fun n => gives_bind fun _ => ?_
  extract_lets withEnding cut checked
  have hending : ∀ part, part.IsTame → Gives IsTame (withEnding part) :=
    fun part hpart => Operation.gives_binary _ hpart hending
  have hcut : ∀ r, Gives IsTame (cut r) := by
    refine fun r => gives_bind fun n => gives_bind fun _ => gives_bind fun _ => ?_
    split
    · exact gives_ok hv
    · refine gives_bind fun _ => (gives_sliced hv _ _ _).bind fun part hpart => ?_
      split
      · exact hending part hpart
      · exact (gives_upToLastBlank _).bind hending
  have hchecked : ∀ r, Gives IsTame (checked r) := by
    refine fun r => gives_bind fun _ => ?_
    split
    · exact gives_bind fun _ => gives_bind hcut
    · exact hcut ()
  split
  · exact gives_bind fun _ => gives_bind fun _ => gives_bind hchecked
  · exact hchecked ()

theorem gives_wrapped (v width : Value) (cutsWords : Bool) (separator hyphens : Value) :
    Gives IsTame (wrapped v width cutsWords separator hyphens) := by
  unfold wrapped
  extract_lets separator ofLines ofText
  have hlines : ∀ cs, Gives IsTame (ofLines cs) := fun cs => gives_bind fun _ => gives_joinedBy _ _
  have htext : ∀ r, Gives IsTame (ofText r) := by
    intro r
    unfold ofText
    split
    case h_3 => split <;> exact gives_bind hlines
    all_goals exact gives_bind hlines
  clear_value separator
  split
  · exact htext ()
  · exact htext ()
  · exact gives_bind htext
  · exact gives_bind htext

theorem gives_formatted (ha : a.IsTame) : Gives IsTame (formatted v a) := by
  unfold formatted
  extract_lets filled unmixed
  have hfilled : ∀ r, Gives IsTame (filled r) := by
    refine fun r => gives_bind fun soft => Operation.gives_binary _ ?_ ?_
    · split
      · simp
      · exact isTame_markedLike _ _
    · split
      · simpa using ha.positional
      · exact isTame_newMap.2 (List.forall_mem_map.2 fun e he => ⟨by simp, ha.named e he⟩)
  have hunmixed : ∀ r, Gives IsTame (unmixed r) := by
    intro r
    unfold unmixed
    split
    · exact gives_bind hfilled
    · exact hfilled ()
  split
  · exact gives_bind hunmixed
  · exact hunmixed ()

theorem gives_endedLines (v : Value) : Gives (fun lines => ∀ w ∈ lines, w.IsTame) (endedLines v) := by
  unfold endedLines
  split
  case h_1 | h_2 => exact gives_ok (forall_mem_map (fun _ => isTame_markedLike _ _) _)
  all_goals exact gives_error _

theorem gives_indentation (v : Value) {width : Value} (hwidth : width.IsTame) :
    Gives IsTame (indentation v width) := by
  unfold indentation
  extract_lets marked
  have hmarked : ∀ plain, plain.IsTame → Gives IsTame (marked plain) := by
    intro plain hplain
    unfold marked
    split
    · exact gives_bind fun _ => gives_ok (by simp)
    · exact gives_ok hplain
  split
  · exact hmarked width hwidth
  · exact (Operation.gives_binary _ (by simp) hwidth).bind hmarked

theorem gives_indented (v : Value) {width : Value} (hwidth : width.IsTame) (first blank : Bool) :
    Gives IsTame (indented v width first blank) := by
  unfold indented
  refine (gives_indentation v hwidth).bind fun front hfront => (gives_endedLines v).bind fun lines hlines => ?_
  extract_lets body head
  have hnewline : (markedLike v "\n").IsTame := isTame_markedLike _ _
  have hhead : head.IsTame := isTame_argument hlines 0
  have hbody : ∀ w, w.IsTame → Gives IsTame (body w) := by
    intro w hw
    unfold body
    split
    · exact Operation.gives_binary _ hfront hw
    · exact gives_ok hw
  split
  · refine (Operation.gives_binary _ hnewline hfront).bind fun separator _ => ?_
    exact (gives_joinedBy _ _).bind hbody
  · refine gives_bind fun rest => ?_
    split
    · exact hbody head hhead
    · refine (gives_joinedBy _ _).bind fun lines hlines => ?_
      exact (Operation.gives_binary _ hnewline hlines).bind fun w hw => (Operation.gives_binary _ hhead hw).bind hbody

theorem gives_ofLayout? (name : String) (hv : v.IsTame) (ha : a.IsTame) :
    ∀ result ∈ ofLayout? name v a, Gives IsTame result := by
  intro result h
  unfold ofLayout? at h
  split at h <;> cases h
  · exact gives_formatted ha
  · refine gives_bound (by simp [required, optional]) hv ha fun vs hvs => ?_
    exact gives_indented _ (isTame_argument hvs 1) _ _
  · exact gives_bound (by simp [required]) hv ha fun vs _ => gives_bind fun _ => gives_ok (by simp)
  · refine gives_bound (by simp [required, optional]) hv ha fun vs hvs => ?_
    exact gives_truncated (isTame_argument hvs 0) (isTame_argument hvs 3) _
  · exact gives_bound (by simp [required, optional]) hv ha fun vs hvs => gives_wrapped _ _ _ _ _

/-! ### HTML and numbers -/

theorem isTame_forHtml (manner : Manner) (s : String) : (forHtml manner s).IsTame := by
  unfold forHtml
  split <;> simp

theorem gives_attributesText (manner : Manner) (v : Value) (spaced : Bool) :
    Gives IsTame (attributesText manner v spaced) := by
  unfold attributesText
  split
  · exact gives_bind fun _ => gives_ok (isTame_forHtml _ _)
  · exact gives_error _
  · exact gives_error _

theorem gives_ofHtml? (manner : Manner) (name : String) (hv : v.IsTame) (ha : a.IsTame) :
    ∀ result ∈ ofHtml? manner name v a, Gives IsTame result := by
  intro result h
  unfold ofHtml? at h
  split at h <;> cases h
  · exact gives_bound (by simp [required]) hv ha fun vs _ => gives_bind fun _ => gives_ok (by simp)
  · exact gives_bound (by simp [required]) hv ha fun vs _ => gives_bind fun _ => gives_ok (by simp)
  · exact gives_bound (by simp [required, optional]) hv ha fun vs _ => gives_attributesText _ _ _
  · refine gives_bound (by simp [required, optional]) hv ha fun vs _ => ?_
    refine gives_bind fun _ => gives_bind fun _ => gives_bind fun _ => gives_bind fun _ => gives_bind fun _ => ?_
    exact gives_bind fun _ => gives_ok (isTame_forHtml _ _)

theorem gives_toInt (v : Value) {default : Value} (hdefault : default.IsTame) (base : Value) :
    Gives IsTame (toInt v default base) := by
  have helim (i : Option Int) : (i.elim default newInt).IsTame := by
    cases i with
    | none => exact hdefault
    | some i => simp
  unfold toInt
  split
  case h_6 => exact gives_ok (isTame_getD (isTame_asInt? _) hdefault)
  case h_5 => exact gives_error _
  case h_4 =>
    split
    · exact gives_ok (by simp)
    · exact gives_error _
    · exact gives_ok hdefault
  all_goals
    dsimp only
    split
    · exact gives_ok (by simp)
    · exact gives_ok (helim _)

theorem gives_toFloat (v : Value) {default : Value} (hdefault : default.IsTame) : Gives IsTame (toFloat v default) := by
  have helim (x : Option Float) : (x.elim default newFloat).IsTame := by
    cases x with
    | none => exact hdefault
    | some x => simp
  unfold toFloat
  split
  · exact gives_ok (helim _)
  · exact gives_ok (helim _)
  · exact gives_ok (helim _)
  · exact gives_ok (by simp)
  · exact gives_error _
  · split
    · exact Operation.gives_ofFloat _
    · exact gives_ok hdefault

theorem gives_roundTo (hv : v.IsTame) (precision : Value) : Gives IsTame (roundTo v precision) := by
  unfold roundTo
  split
  · split
    · exact gives_bind fun _ => gives_bind fun _ => gives_ok (by simp)
    · exact gives_bind fun _ => Operation.gives_ofFloat _
  · split
    · exact gives_error _
    · extract_lets atPlaces
      have hplaces : ∀ places, Gives IsTame (atPlaces places) := by
        refine fun places => gives_ok ?_
        split
        · exact isTame_getD (isTame_asInt? _) hv
        · simp
      split <;> exact gives_bind hplaces

theorem gives_roundAway (up : Bool) (v : Value) {precision : Value} (hprecision : precision.IsTame) :
    Gives IsTame (roundAway up v precision) := by
  unfold roundAway
  refine (Operation.gives_binary _ (by simp) hprecision).bind fun unit hunit => ?_
  refine gives_bind fun scaled => ?_
  extract_lets divided
  have hdivided : ∀ whole, Gives IsTame (divided whole) := fun whole => Operation.gives_binary _ (by simp) hunit
  split
  · exact gives_bind fun _ => gives_bind hdivided
  · split <;> exact gives_bind hdivided

theorem gives_round (hv : v.IsTame) {precision : Value} (hprecision : precision.IsTame) (method : Value) :
    Gives IsTame (round v precision method) := by
  refine gives_bind fun _ => ?_
  split
  · exact gives_roundTo hv _
  · exact gives_roundAway _ _ hprecision
  · exact gives_roundAway _ _ hprecision
  · exact gives_error _

theorem gives_magnitude (hv : v.IsTame) : Gives IsTame (magnitude v) := by
  unfold magnitude
  split
  · exact gives_ok (by simp)
  · exact gives_ok (by simp)
  · split
    · refine gives_ok ?_
      split
      · exact isTame_getD (isTame_asInt? _) hv
      · simp
    · exact gives_error _

theorem gives_ofNumber? (name : String) (hv : v.IsTame) (ha : a.IsTame) :
    ∀ result ∈ ofNumber? name v a, Gives IsTame result := by
  intro result h
  unfold ofNumber? at h
  split at h <;> cases h
  · exact gives_exactlyOne (gives_magnitude hv)
  · exact gives_bound (by simp [required, optional]) hv ha fun vs hvs => gives_toInt _ (isTame_argument hvs 1) _
  · exact gives_bound (by simp [required, optional]) hv ha fun vs hvs => gives_toFloat _ (isTame_argument hvs 1)
  · refine gives_bound (by simp [required, optional]) hv ha fun vs _ => ?_
    exact gives_bind fun _ => gives_bind fun _ => gives_ok (by simp)
  · refine gives_bound (by simp [required, optional]) hv ha fun vs hvs => ?_
    exact gives_round (isTame_argument hvs 0) (isTame_argument hvs 1) _

/-! ### Items -/

theorem gives_extreme (chained : Bool) (relation : Relation) (hv : v.IsTame) (path : Value) (caseCounts : Bool) :
    Gives IsTame (extreme chained relation v path caseCounts) := by
  refine (gives_iterate hv).bind fun read hread => ?_
  split
  · exact gives_error _
  · exact gives_ok (by simp)
  · rename_i item rest fault
    rw [List.forall_mem_cons] at hread
    refine gives_bind fun parts => gives_bind fun key => ?_
    refine Gives.bind (P := fun best : Value × Value => best.1.IsTame) (gives_forIn hread.1 fun w hw best hbest => ?_)
      fun best hbest => ?_
    · refine gives_bind fun key => gives_bind fun isBetter => ?_
      split
      · exact gives_ok (hread.2 w hw)
      · exact gives_ok hbest
    · split
      · exact gives_error _
      · exact gives_ok hbest

/-- Sorting hands on the items that it is given. -/
theorem mem_of_mem_insertAll {α : Type} (less : α → α → Except Fault Bool) {sorted : Array α} {items : List α} {a : α}
    (h : a ∈ (insertAll less sorted items).1) : a ∈ sorted ∨ a ∈ items := by
  induction items generalizing sorted with
  | nil => exact Or.inl (Array.mem_toList_iff.1 h)
  | cons item items ih =>
      unfold insertAll at h
      split at h
      · rename_i position _
        rcases ih h with h | h
        · unfold Array.insertIdxIfInBounds at h
          split at h
          · rcases Array.mem_insertIdx.1 h with rfl | h
            · exact Or.inr List.mem_cons_self
            · exact Or.inl h
          · exact Or.inl h
        · exact Or.inr (List.mem_cons_of_mem item h)
      · rcases List.mem_append.1 h with h | h
        · exact Or.inl (Array.mem_toList_iff.1 h)
        · exact Or.inr h

theorem mem_of_mem_arranged {α : Type} (less : α → α → Except Fault Bool) {items : List α} {a : α}
    (h : a ∈ (arranged less items).1) : a ∈ items := by
  unfold arranged at h
  split at h
  · dsimp only at h
    split at h
    · rename_i falling n _
      rcases mem_of_mem_insertAll less h with h | h
      · split at h
        · exact List.mem_of_mem_take (List.mem_reverse.1 (List.mem_toArray.1 h))
        · exact List.mem_of_mem_take (List.mem_toArray.1 h)
      · exact List.mem_of_mem_drop h
    · exact h
  · exact h

theorem gives_sortDirected {α : Type} {P : α → Prop} (less : α → α → Except Fault Bool) (reversed : Bool)
    {items : List α} (h : ∀ a ∈ items, P a) :
    Gives (fun sorted => ∀ a ∈ sorted, P a) (sortDirected less reversed items) := by
  have hmem : ∀ a ∈ (arrangedIn less reversed items).1, a ∈ items := by
    intro a ha
    unfold arrangedIn at ha
    split at ha
    · exact List.mem_reverse.1 (mem_of_mem_arranged less (List.mem_reverse.1 ha))
    · exact mem_of_mem_arranged less ha
  unfold sortDirected
  split
  · rename_i sorted heq
    rw [heq] at hmem
    exact gives_ok fun a ha => h a (hmem a ha)
  · exact gives_error _

theorem gives_withKeys {P Q : Value → Prop} {f : Value → Except Fault Value} {items : List Value}
    (h : ∀ v ∈ items, P v) (hf : ∀ v, P v → Gives Q (f v)) :
    Gives (fun keyed => ∀ e ∈ keyed, Q e.1 ∧ P e.2) (withKeys f items) := by
  induction items with
  | nil => exact gives_ok (List.forall_mem_nil _)
  | cons v items ih =>
      rw [List.forall_mem_cons] at h
      refine (hf v h.1).bind fun key hkey => (ih h.2).bind fun keyed hkeyed => ?_
      exact gives_ok (List.forall_mem_cons.2 ⟨⟨hkey, h.1⟩, hkeyed⟩)

theorem gives_sortedBy (f : Value → Except Fault Value) (reverse : Value) {items : List Value}
    (h : ∀ v ∈ items, v.IsTame) : Gives IsTame (sortedBy f reverse items) := by
  refine gives_bind fun _ => ?_
  refine (gives_withKeys (Q := fun _ => True) h fun _ _ _ _ => trivial).bind fun keyed hkeyed => ?_
  refine (gives_sortDirected _ _ hkeyed).bind fun sorted hsorted => gives_ok ?_
  exact isTame_newList.2 (List.forall_mem_map.2 fun e he => (hsorted e he).2)

theorem gives_attributeOf (chained : Bool) (parts : Option (List Value)) (hv : v.IsTame) :
    Gives IsTame (attributeOf chained parts v) := by
  cases parts with
  | none => exact gives_ok hv
  | some parts => exact gives_follow chained (by simp) parts hv

theorem gives_total (chained : Bool) (parts : Option (List Value)) {acc : Value} (hacc : acc.IsTame)
    {items : List Value} (h : ∀ v ∈ items, v.IsTame) : Gives IsTame (total chained parts acc items) := by
  induction items generalizing acc with
  | nil => exact gives_ok hacc
  | cons v items ih =>
      rw [List.forall_mem_cons] at h
      refine (gives_attributeOf chained parts h.1).bind fun w hw => ?_
      exact (Operation.gives_binary _ hacc hw).bind fun next hnext => ih hnext h.2

theorem gives_unlessEnded {α : Type} {P : α → Prop} {result : α} (h : P result) (fault : Option Fault) :
    Gives P (unlessEnded fault result) := by
  cases fault with
  | none => exact gives_ok h
  | some f => exact gives_error f

theorem gives_joinTexts (manner : Manner) (separator : Value) (items : List Value) :
    Gives IsTame (joinTexts manner separator items) := by
  unfold joinTexts
  split
  · exact gives_bind fun _ => gives_bind fun _ => gives_ok (by simp)
  · refine gives_bind fun _ => ?_
    split
    · exact gives_ok (by simp)
    · exact gives_bind fun _ => gives_ok (by simp)

/-- The runs of a list hold its items. -/
theorem forall_runsOf {P : Value → Prop} {keyed : List (Value × Value)} (h : ∀ e ∈ keyed, e.1.IsTame ∧ P e.2) :
    ∀ run ∈ runsOf keyed, run.1.IsTame ∧ ∀ v ∈ run.2, P v := by
  induction keyed with
  | nil => exact List.forall_mem_nil _
  | cons e keyed ih =>
      obtain ⟨key, v⟩ := e
      rw [List.forall_mem_cons] at h
      have hrest := ih h.2
      unfold runsOf
      split
      · rename_i next vs others heq
        rw [heq, List.forall_mem_cons] at hrest
        split
        · exact List.forall_mem_cons.2 ⟨⟨h.1.1, List.forall_mem_cons.2 ⟨h.1.2, hrest.1.2⟩⟩, hrest.2⟩
        · exact List.forall_mem_cons.2 ⟨⟨h.1.1, List.forall_mem_singleton.2 h.1.2⟩, List.forall_mem_cons.2 hrest⟩
      · exact List.forall_mem_singleton.2 ⟨h.1.1, List.forall_mem_singleton.2 h.1.2⟩

theorem gives_grouped (chained : Bool) (path : Value) {default : Value} (hdefault : default.IsTame) (caseCounts : Bool)
    {items : List Value} (h : ∀ v ∈ items, v.IsTame) :
    Gives IsTame (grouped chained path default caseCounts items) := by
  refine gives_bind fun parts => ?_
  refine (gives_withKeys h fun v hv => gives_comparedBy chained hdefault parts caseCounts hv).bind fun keyed hkeyed => ?_
  refine (gives_sortDirected _ _ hkeyed).bind fun sorted hsorted => ?_
  refine Gives.bind (gives_mapM (fun run hrun => ?_) (forall_runsOf hsorted))
    fun groups hgroups => gives_ok (isTame_newList.2 hgroups)
  have hgroup {shown : Value} (hshown : shown.IsTame) : (tuple ["grouper", "list"] [shown, newList run.2]).IsTame := by
    simpa using ⟨hshown, hrun.2⟩
  dsimp only
  split
  · exact gives_ok (hgroup hrun.1)
  · exact (gives_follow chained hdefault parts (isTame_argument hrun.2 0)).bind fun shown hshown =>
      gives_ok (hgroup hshown)

theorem gives_anyItem (chained : Bool) (hv : v.IsTame) : Gives IsTame (anyItem chained v) := by
  refine gives_bind fun n => ?_
  split
  · exact gives_ok (by simp)
  · split
    · exact gives_ok (isTame_item? _ hv _ ‹_›)
    · exact gives_error _
    · exact gives_error _

theorem gives_reversed (hv : v.IsTame) : Gives (fun items => ∀ w ∈ items, w.IsTame) (reversed v) := by
  have hitems : Gives (fun items => ∀ w ∈ items, w.IsTame) (do return (← v.items).reverse) :=
    (gives_items hv).bind fun items h => gives_ok fun w hw => h w (List.mem_reverse.1 hw)
  unfold reversed
  split
  case h_10 | h_11 => exact gives_error _
  all_goals exact hitems

theorem gives_ofItems? (manner : Manner) (name : String) (hv : v.IsTame) (ha : a.IsTame) :
    ∀ result ∈ ofItems? manner name v a, Gives IsTame result := by
  intro result h
  unfold ofItems? at h
  dsimp only at h
  split at h <;> cases h
  · exact gives_exactlyOne (gives_bind fun _ => gives_ok (by simp))
  · exact gives_exactlyOne (gives_bind fun _ => gives_ok (by simp))
  · refine gives_bound (by simp [required]) hv ha fun vs hvs => ?_
    exact (gives_items (isTame_argument hvs 0)).bind fun items h => gives_ok (isTame_newList.2 h)
  · refine gives_bound (by simp [required]) hv ha fun vs hvs => ?_
    refine (gives_reversed (isTame_argument hvs 0)).bind fun items h => gives_ok ?_
    exact isTame_getD (fun w hw => h w (List.mem_of_mem_head? hw)) (by simp)
  · refine gives_bound (by simp [required, optional]) hv ha fun vs hvs => ?_
    exact gives_bind fun _ => gives_bind fun _ => gives_bind fun _ => gives_bind fun _ => gives_joinTexts _ _ _
  · refine gives_bound (by simp [required, optional]) hv ha fun vs hvs => ?_
    refine (gives_iterate (isTame_argument hvs 0)).bind fun read hread => ?_
    exact (gives_unlessEnded hread _).bind fun items h => gives_grouped _ _ (isTame_argument hvs 2) _ h
  · exact gives_bound (by simp [required]) hv ha fun vs hvs => gives_anyItem _ (isTame_argument hvs 0)
  · refine gives_bound (by simp [required, optional]) hv ha fun vs hvs => gives_bind fun paths => ?_
    exact (gives_items (isTame_argument hvs 0)).bind fun items h => gives_sortedBy _ _ h
  · exact gives_bound (by simp [required, optional]) hv ha fun vs hvs => gives_extreme _ _ (isTame_argument hvs 0) _ _
  · exact gives_bound (by simp [required, optional]) hv ha fun vs hvs => gives_extreme _ _ (isTame_argument hvs 0) _ _
  · refine gives_bound (by simp [required, optional]) hv ha fun vs hvs => gives_bind fun parts => ?_
    refine (gives_iterate (isTame_argument hvs 0)).bind fun read hread => ?_
    have htotal := (gives_total manner.chained parts (isTame_argument hvs 2) hread).bind fun sum hsum =>
      gives_unlessEnded hsum read.2
    split
    · exact gives_bind fun _ => htotal
    · exact htotal

theorem forall_pairs {entries : List (Value × Value)} (h : ∀ e ∈ entries, e.1.IsTame ∧ e.2.IsTame) :
    ∀ w ∈ entries.map fun (k, w) => newTuple [k, w], w.IsTame :=
  List.forall_mem_map.2 fun e he => by simpa using h e he

theorem gives_ofAny? (chained : Bool) (name : String) (hv : v.IsTame) (ha : a.IsTame) :
    ∀ result ∈ ofAny? chained name v a, Gives IsTame result := by
  have hdefault : Gives IsTame (bound "do_default" 0
      [required "value", optional "default_value" (newText ""), optional "boolean" (bool false)] v a fun vs =>
      let v := argument vs 0
      .ok (if v.isUndefined || ((argument vs 2).isTrue && !v.isTrue) then argument vs 1 else v)) := by
    refine gives_bound (by simp [required, optional]) hv ha fun vs hvs => gives_ok ?_
    split
    · exact isTame_argument hvs 1
    · exact isTame_argument hvs 0
  intro result h
  unfold ofAny? at h
  split at h <;> cases h
  · exact hdefault
  · exact hdefault
  · refine gives_bound (by simp [required, optional]) hv ha fun vs hvs => ?_
    have hw := isTame_argument hvs 0
    dsimp only
    split
    all_goals
      refine gives_bind fun atValue => ?_
      split
      · rename_i heq
        simp only [heq, IsTame, entriesAreTame_iff] at hw
        exact gives_sortedBy _ _ (forall_pairs hw)
      · exact gives_error _
      · exact gives_error _
  · refine gives_bound (by simp [required]) hv ha fun vs hvs => gives_bind fun name => ?_
    have hw := isTame_argument hvs 0
    split
    · exact Value.gives_attributeOf _ _ hw
    · exact gives_ok (isTame_attribute? _ _ hw _ ‹_›)
    · exact gives_ok hw
    · exact gives_ok (by simp [noAttribute])

/-- The first of two results that are tame, if there is one, is tame. -/
theorem gives_orElse {first second : Option (Except Fault Value)} (hfirst : ∀ r ∈ first, Gives IsTame r)
    (hsecond : ∀ r ∈ second, Gives IsTame r) : ∀ r ∈ first.orElse fun _ => second, Gives IsTame r := by
  cases first with
  | none => exact hsecond
  | some result => exact hfirst

/-- A filter of a tame value and tame arguments makes a tame value. -/
theorem gives_apply (manner : Manner) (name : String) (hv : v.IsTame) (ha : a.IsTame) :
    Gives IsTame (apply manner name v a) := by
  have hall := gives_orElse (gives_ofText? manner name hv ha) <| gives_orElse (gives_ofLayout? name hv ha) <|
    gives_orElse (gives_ofHtml? manner name hv ha) <| gives_orElse (gives_ofNumber? name hv ha) <|
    gives_orElse (gives_ofItems? manner name hv ha) (gives_ofAny? manner.chained name hv ha)
  unfold apply
  dsimp only
  generalize (ofText? manner name v a).orElse _ = result at hall ⊢
  cases result with
  | none => exact gives_error _
  | some r => exact hall r rfl

end Filter

end Courier.Language
