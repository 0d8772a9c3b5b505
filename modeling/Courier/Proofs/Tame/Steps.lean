import Courier.Proofs.Language.Outcome
import Courier.Proofs.Tame.Filters
import Courier.Template.Tag

/-! Steps of runs in which nothing was changed but streams and loops of the run itself. A tame step leaves such a run
behind, whether it comes to a value or to a fault. -/

namespace Courier.Language

namespace Value

theorem present_nil (v : Value) : v.present [] = v := by
  have hcurrent (w : Value) : w.current [] = w := by
    unfold current
    split <;> rfl
  unfold present
  rw [hcurrent]
  split
  · rw [hcurrent]
  · rfl

theorem map_settle_nil (entries : List (Value × Value)) : (entries.map fun (k, w) => (k, w.settle [])) = entries :=
  List.map_id'' (fun _ => rfl) entries

theorem unfolded_nil (v : Value) : v.unfolded [] = v := by
  unfold unfolded
  rw [present_nil]
  split
  · rw [List.map_id'' settle_nil]
  · rw [List.map_id'' settle_nil]
  · rw [map_settle_nil]
  · rw [map_settle_nil]
  · rfl

end Value

theorem Changes.mem_put {identity : Identity} {v : Value} {changes : Changes} {e : Identity × Value}
    (h : e ∈ changes.put identity v) : e = (identity, v) ∨ e ∈ changes := by
  induction changes with
  | nil => exact Or.inl (List.mem_singleton.1 h)
  | cons c changes ih =>
      unfold put at h
      split at h
      · exact (List.mem_cons.1 h).imp_right (List.mem_cons_of_mem c)
      · rcases List.mem_cons.1 h with rfl | h
        · exact Or.inr List.mem_cons_self
        · exact (ih h).imp_right (List.mem_cons_of_mem c)

/-- Calling the value runs no body and no method. -/
def Value.isIdle : Value → Bool
  | .method _ _ | .record _ _ _ => false
  | _ => true

/-- What a program may call by name: the look-up of paths, and what every text can name. -/
def callables : List String := [Template.lookupName, "range", "dict", "lipsum", "cycler", "joiner", "namespace"]

/-- What a variable may be worth: a tame value, and under the name of something that is called one whose call changes
nothing. -/
structure Suits (slot : String) (v : Value) : Prop where
  isTame : v.IsTame
  isIdle : ∀ n ∈ callables, slot = Scope.slot n → v.isIdle

/-- Whether a variable of a name is another one than those that are called. -/
def Scope.isFree (name : String) : Bool := callables.all fun n => slot name != slot n

theorem suits_of_isFree {name : String} {v : Value} (hname : Scope.isFree name) (hv : v.IsTame) :
    Suits (Scope.slot name) v :=
  ⟨hv, fun n hn heq => absurd heq (bne_iff_ne.1 (List.all_eq_true.1 hname n hn))⟩

theorem suits_of_isIdle (slot : String) {v : Value} (hv : v.IsTame) (h : v.isIdle) : Suits slot v :=
  ⟨hv, fun _ _ _ => h⟩

/-- All variables are worth what they may be, by their names. -/
def AllSuit (named : List (String × Value)) : Prop := ∀ e ∈ named, Suits (Scope.slot e.1) e.2

/-- The values of a scope are what they may be, by the plain forms of their names. -/
def Scope.IsTame (s : Scope) : Prop := ∀ e ∈ s.values, ∀ v ∈ e.2, Suits e.1 v

/-- A run that changed no container. -/
structure Run.IsTame (run : Run) : Prop where
  changes : run.changes = []
  own : run.own = []
  streams : ∀ e ∈ run.streams, e.2.IsTame
  exported : AllSuit run.exported
  turn : AllSuit run.turn
  block : AllSuit run.block
  scopes : ∀ s ∈ run.scopes, s.IsTame

/-- A setting before which nothing was changed, in which loops hand out tame items and change nothing else. -/
structure Setting.IsTame (setting : Setting) : Prop where
  before : setting.before = []
  data : ∀ name, ∀ v ∈ setting.data name, Suits (Scope.slot name) v
  handed : AllSuit setting.handed
  draw : ∀ identity run, run.IsTame → (comesTo (setting.draw identity) run).2.IsTame ∧
    Gives (fun item => ∀ v ∈ item, v.IsTame) (comesTo (setting.draw identity) run).1

namespace Eval

variable {α β : Type} {P : α → Prop} {Q : β → Prop}

/-- A step that leaves tame runs tame, and comes to something with a property unless it is a fault. -/
def TameStep (P : α → Prop) (step : Eval α) : Prop :=
  ∀ setting run, setting.IsTame → run.IsTame →
    (outcome step setting run).2.IsTame ∧ Gives P (outcome step setting run).1

theorem tameStep_pure {a : α} (h : P a) : TameStep P (pure a) := fun _ _ _ hrun => ⟨hrun, gives_ok h⟩

theorem tameStep_throw (f : Fault) : TameStep P (throw f) := fun _ _ _ hrun => ⟨hrun, gives_error f⟩

theorem TameStep.bind {step : Eval α} {next : α → Eval β} (h : TameStep P step)
    (hnext : ∀ a, P a → TameStep Q (next a)) : TameStep Q (step >>= next) := by
  intro setting run hsetting hrun
  obtain ⟨hafter, hresult⟩ := h setting run hsetting hrun
  rw [outcome_bind]
  rcases hstep : outcome step setting run with ⟨f | a, after⟩
  · rw [hstep] at hafter
    exact ⟨hafter, gives_error f⟩
  · rw [hstep] at hafter hresult
    exact hnext a (hresult a rfl) setting after hsetting hafter

theorem TameStep.mono {R : α → Prop} {step : Eval α} (h : TameStep P step) (hPR : ∀ a, P a → R a) :
    TameStep R step := by
  intro setting run hsetting hrun
  obtain ⟨hafter, hresult⟩ := h setting run hsetting hrun
  exact ⟨hafter, fun a ha => hPR a (hresult a ha)⟩

theorem tameStep_lift {r : Except Fault α} (h : Gives P r) : TameStep P (lift r) := by
  intro setting run _ hrun
  rw [outcome_lift]
  exact ⟨hrun, h⟩

/-- Nothing has to be known of a part to know something of what is made of it. -/
theorem tameStep_lift_bind {r : Except Fault α} {next : α → Eval β} (h : ∀ a, TameStep Q (next a)) :
    TameStep Q (lift r >>= next) :=
  (tameStep_lift (P := fun _ => True) fun _ _ => trivial).bind fun a _ => h a

theorem tameStep_get : TameStep Run.IsTame get := fun _ _ _ hrun => ⟨hrun, gives_ok hrun⟩

theorem tameStep_read : TameStep Setting.IsTame read := fun _ _ hsetting hrun => ⟨hrun, gives_ok hsetting⟩

theorem tameStep_set {run : Run} (h : run.IsTame) : TameStep (fun _ => True) (set run) :=
  fun _ _ _ _ => ⟨h, gives_ok trivial⟩

theorem tameStep_modify {f : Run → Run} (h : ∀ run, run.IsTame → (f run).IsTame) :
    TameStep (fun _ => True) (modify f) :=
  fun _ run _ hrun => ⟨h run hrun, gives_ok trivial⟩

theorem tameStep_withReader {f : Setting → Setting} (hf : ∀ setting, setting.IsTame → (f setting).IsTame)
    {step : Eval α} (h : TameStep P step) : TameStep P (withReader f step) :=
  fun setting run hsetting hrun => h (f setting) run (hf setting hsetting) hrun

theorem outcome_observe (step : Eval α) (setting : Setting) (run : Run) :
    outcome (observe step) setting run = (.ok (outcome step setting run).1, (outcome step setting run).2) := rfl

/-- A step that is looked at leaves what it leaves, fault or not. -/
theorem tameStep_observe {step : Eval α} (h : TameStep P step) : TameStep (Gives P) (observe step) := by
  intro setting run hsetting hrun
  obtain ⟨hafter, hresult⟩ := h setting run hsetting hrun
  rw [outcome_observe]
  exact ⟨hafter, gives_ok hresult⟩

theorem tameStep_mapM {f : α → Eval β} (hf : ∀ a, P a → TameStep Q (f a)) {as : List α} (h : ∀ a ∈ as, P a) :
    TameStep (fun bs => ∀ b ∈ bs, Q b) (as.mapM f) := by
  induction as with
  | nil => exact tameStep_pure (List.forall_mem_nil _)
  | cons a as ih =>
      rw [List.mapM_cons]
      refine (hf a (h a List.mem_cons_self)).bind fun b hb => ?_
      refine (ih fun c hc => h c (List.mem_cons_of_mem a hc)).bind fun bs hbs => ?_
      exact tameStep_pure (List.forall_mem_cons.2 ⟨hb, hbs⟩)

theorem tameStep_chained : TameStep (fun _ => True) chained := tameStep_read.bind fun _ _ => tameStep_pure trivial

/-! ### Containers -/

theorem tameStep_changes : TameStep (· = []) changes := by
  refine tameStep_get.bind fun run hrun => tameStep_read.bind fun setting hsetting => tameStep_pure ?_
  rw [hrun.own, hrun.changes, hsetting.before]
  rfl

theorem tameStep_present (v : Value) : TameStep (· = v) (present v) := by
  refine tameStep_changes.bind fun changes hchanges => tameStep_pure ?_
  rw [hchanges, Value.present_nil]

theorem tameStep_settled (v : Value) : TameStep (· = v) (settled v) := by
  refine tameStep_changes.bind fun changes hchanges => tameStep_pure ?_
  rw [hchanges, Value.settle_nil]

theorem tameStep_unfolded (v : Value) : TameStep (· = v) (unfolded v) := by
  refine tameStep_changes.bind fun changes hchanges => tameStep_pure ?_
  rw [hchanges, Value.unfolded_nil]

theorem tameStep_settledAll (vs : List Value) : TameStep (· = vs) (settledAll vs) := by
  refine tameStep_changes.bind fun changes hchanges => tameStep_pure ?_
  rw [hchanges]
  exact List.map_id'' Value.settle_nil vs

theorem tameStep_settledArguments (a : Arguments) : TameStep (· = a) (settledArguments a) := by
  refine tameStep_changes.bind fun changes hchanges => tameStep_pure ?_
  rw [hchanges]
  obtain ⟨positional, named⟩ := a
  congr 1
  · exact List.map_id'' Value.settle_nil positional
  · exact List.map_id'' (fun _ => rfl) named

theorem tameStep_holds (v : Value) : TameStep (fun _ => True) (holds v) :=
  (tameStep_present v).bind fun _ _ => tameStep_pure trivial

/-- Objects that are new to a run leave it tame. -/
theorem isTame_withSerial {run : Run} (h : run.IsTame) (serial : Nat) : Run.IsTame { run with serial } := { h with }

theorem tameStep_bound {v : Value} (h : v.IsTame) : TameStep Value.IsTame (bound v) := by
  refine tameStep_read.bind fun setting hsetting => tameStep_get.bind fun run hrun => ?_
  rw [hsetting.before]
  exact (tameStep_set (isTame_withSerial hrun _)).bind fun _ _ => tameStep_pure (Value.isTame_bind v run.serial h)

theorem tameStep_newIdentity : TameStep (fun identity => identity.isLocal) newIdentity := by
  refine tameStep_read.bind fun setting hsetting => tameStep_get.bind fun run hrun => ?_
  rw [hsetting.before]
  exact (tameStep_set (isTame_withSerial hrun _)).bind fun _ _ => tameStep_pure rfl

theorem tameStep_register (identity : Identity) (p : Procedure) : TameStep (fun _ => True) (register identity p) :=
  tameStep_modify fun _ hrun => { hrun with }

/-! ### Streams and loops -/

/-- The run's own objects are all that is local without being loose. -/
theorem tameStep_isOwn (identity : Identity) :
    TameStep (fun isOwn => isOwn = (identity.isLocal && identity != .loose)) (isOwn identity) := by
  unfold isOwn
  split
  · refine tameStep_read.bind fun setting hsetting => tameStep_pure ?_
    rw [hsetting.before]
    rename_i epoch serial
    cases epoch <;> rfl
  · refine tameStep_pure ?_
    rename_i h
    cases identity with
    | bound epoch serial => exact absurd rfl (h epoch serial)
    | _ => rfl

/-- Of what is no object of the run nothing is kept. -/
theorem tameStep_remaining (identity : Identity) :
    TameStep (fun left => ∀ v ∈ left, v.IsTame ∧ identity.isLocal) (remaining identity) := by
  refine (tameStep_isOwn identity).bind fun isOwn hown => ?_
  split
  · refine tameStep_get.bind fun run hrun => tameStep_pure fun v hv => ⟨?_, by simp_all⟩
    obtain ⟨e, he, rfl⟩ := Option.map_eq_some_iff.1 hv
    exact hrun.streams e (List.mem_of_find?_eq_some he)
  · refine tameStep_get.bind fun run hrun => tameStep_read.bind fun setting hsetting => tameStep_pure ?_
    rw [hrun.changes, hsetting.before]
    exact forall_mem_none

theorem tameStep_leave {identity : Identity} {v : Value} (hidentity : identity.isLocal) (hv : v.IsTame) :
    TameStep (fun _ => True) (leave identity v) := by
  refine (tameStep_isOwn identity).bind fun isOwn hown => ?_
  split
  · refine tameStep_modify fun run hrun => { hrun with streams := fun e he => ?_ }
    rcases Changes.mem_put he with rfl | he
    · exact hv
    · exact hrun.streams e he
  · have hloose : identity = .loose := by simp_all
    unfold record
    rw [if_pos (by rw [hloose]; rfl)]
    exact tameStep_pure trivial

theorem tameStep_loopFields (identity : Identity) :
    TameStep (fun fields => ∀ e ∈ fields, e.2.IsTame) (loopFields identity) := by
  refine (tameStep_remaining identity).bind fun left hleft => ?_
  split
  · have hrecord := (hleft _ rfl).1
    simp only [Value.IsTame, fieldsAreTame_iff] at hrecord
    exact tameStep_pure hrecord.2
  · exact tameStep_pure (List.forall_mem_nil _)

theorem isTame_fieldOf {fields : List (String × Value)} (h : ∀ e ∈ fields, e.2.IsTame) (name : String) :
    (fieldOf fields name).IsTame :=
  Value.isTame_getD (isTame_of_entryOf? h) (by simp)

theorem isTame_loop {identity : Identity} (hidentity : identity.isLocal) {fields : List (String × Value)}
    (h : ∀ e ∈ fields, e.2.IsTame) : (Value.record identity .loop fields).IsTame := by
  simp only [Value.IsTame, fieldsAreTame_iff]
  exact ⟨fun _ => hidentity, h⟩

theorem forall_putEntry {v : Value} (hv : v.IsTame) (name : String) {fields : List (String × Value)}
    (h : ∀ e ∈ fields, e.2.IsTame) : ∀ e ∈ putEntry name v fields, e.2.IsTame := by
  intro e he
  rcases mem_putEntry he with rfl | he
  · exact hv
  · exact h e he

theorem tameStep_setLoopField {identity : Identity} (hidentity : identity.isLocal) (name : String) {v : Value}
    (hv : v.IsTame) : TameStep (fun _ => True) (setLoopField identity name v) :=
  (tameStep_loopFields identity).bind fun _ hfields =>
    tameStep_leave hidentity (isTame_loop hidentity (forall_putEntry hv name hfields))

theorem tameStep_loopIndex (identity : Identity) : TameStep (fun _ => True) (loopIndex identity) :=
  (tameStep_loopFields identity).bind fun _ _ => tameStep_pure trivial

theorem tameStep_drawItem {identity : Identity} (hidentity : identity.isLocal) :
    TameStep (fun item => ∀ v ∈ item, v.IsTame) (drawItem identity) := by
  refine (tameStep_loopFields identity).bind fun fields hfields => ?_
  split
  · rename_i v rest hlisted
    have hall : (Value.tuple _ (v :: rest)).IsTame := hlisted ▸ isTame_fieldOf hfields "_listed"
    simp only [Value.IsTame, areTame_iff, List.forall_mem_cons] at hall
    exact (tameStep_setLoopField hidentity _ (by simpa using hall.2)).bind fun _ _ =>
      tameStep_pure fun w hw => Option.some.inj hw ▸ hall.1
  · exact fun setting run hsetting hrun => hsetting.draw identity run hrun

theorem tameStep_nextItem {identity : Identity} (hidentity : identity.isLocal) :
    TameStep (fun item => ∀ v ∈ item, v.IsTame) (nextItem identity) := by
  refine (tameStep_loopFields identity).bind fun fields hfields => ?_
  split
  · rename_i v hafter
    exact tameStep_pure fun w hw => Option.some.inj hw ▸ isTame_of_entryOf? hfields v hafter
  · refine (tameStep_drawItem hidentity).bind fun item hitem => ?_
    split
    · rename_i v
      exact (tameStep_setLoopField hidentity _ (hitem v rfl)).bind fun _ _ => tameStep_pure hitem
    · exact tameStep_pure forall_mem_none

theorem tameStep_beginTurn {identity : Identity} (hidentity : identity.isLocal) :
    TameStep (fun item => ∀ v ∈ item, v.IsTame) (beginTurn identity) := by
  refine (tameStep_loopFields identity).bind fun fields hfields => ?_
  extract_lets begun
  have hbegun : ∀ item, (∀ v ∈ item, Value.IsTame v) →
      TameStep (fun item => ∀ v ∈ item, Value.IsTame v) (begun item) := by
    intro item hitem
    cases item with
    | none => exact tameStep_pure forall_mem_none
    | some v =>
        refine (tameStep_loopFields identity).bind fun fields hfields => ?_
        extract_lets others index0 before
        have hothers : ∀ e ∈ others, e.2.IsTame := fun e he => hfields e (List.mem_of_mem_filter he)
        refine (tameStep_leave hidentity (isTame_loop hidentity ?_)).bind fun _ _ => tameStep_pure hitem
        exact forall_putEntry (hitem v rfl) _ (forall_putEntry (isTame_fieldOf hothers _) _
          (forall_putEntry (by simp) _ hothers))
  split
  · rename_i v hafter
    exact hbegun (some v) fun w hw => Option.some.inj hw ▸ isTame_of_entryOf? hfields v hafter
  · exact (tameStep_drawItem hidentity).bind hbegun

theorem tameStep_drawAll {identity : Identity} (hidentity : identity.isLocal) (fuel : Nat) {taken : Array Value}
    (h : ∀ v ∈ taken, v.IsTame) : TameStep (fun items => ∀ v ∈ items, v.IsTame) (drawAll identity fuel taken) := by
  induction fuel generalizing taken with
  | zero => exact tameStep_pure fun v hv => h v (Array.mem_toList_iff.1 hv)
  | succ fuel ih =>
      refine (tameStep_drawItem hidentity).bind fun item hitem => ?_
      split
      · rename_i v
        refine ih fun w hw => ?_
        rcases Array.mem_push.1 hw with hw | rfl
        · exact h w hw
        · exact hitem w rfl
      · exact tameStep_pure fun v hv => h v (Array.mem_toList_iff.1 hv)

theorem tameStep_loopLength {identity : Identity} (hidentity : identity.isLocal) :
    TameStep (fun _ => True) (loopLength identity) := by
  refine (tameStep_loopFields identity).bind fun fields hfields => ?_
  refine (tameStep_present _).bind fun iterable _ => ?_
  split
  · exact tameStep_pure trivial
  · exact (tameStep_setLoopField hidentity _ (by simp)).bind fun _ _ => tameStep_pure trivial
  · refine (tameStep_drawAll hidentity _ (by simp)).bind fun items hitems => ?_
    refine (tameStep_setLoopField hidentity _ (by simpa using hitems)).bind fun _ _ => ?_
    exact (tameStep_setLoopField hidentity _ (by simp)).bind fun _ _ => tameStep_pure trivial

theorem tameStep_loopAttribute? {identity : Identity} (hidentity : identity.isLocal) (name : String) :
    TameStep (fun found => ∀ v ∈ found, v.IsTame) (loopAttribute? identity name) := by
  unfold loopAttribute?
  extract_lets missing
  have hmissing (which : String) : TameStep (fun found => ∀ v ∈ found, Value.IsTame v) (missing which) :=
    tameStep_chained.bind fun _ _ => tameStep_pure (by simp)
  have hsome {v : Value} (hv : v.IsTame) : TameStep (fun found => ∀ v ∈ found, Value.IsTame v) (pure (some v)) :=
    tameStep_pure (by simpa using hv)
  have hlength (f : Int → Int) : TameStep (fun found => ∀ v ∈ found, Value.IsTame v)
      (do return some (.newInt (f (← loopLength identity)))) :=
    (tameStep_loopLength hidentity).bind fun n _ => hsome (by simp)
  refine (tameStep_loopIndex identity).bind fun index0 _ => ?_
  split
  · exact hsome (by simp)
  · exact hsome (by simp)
  · exact hsome (by simp)
  · exact (tameStep_loopFields identity).bind fun fields hfields => hsome (isTame_fieldOf hfields _)
  · exact (tameStep_loopFields identity).bind fun fields hfields => hsome (by simp)
  · exact hlength id
  · exact hlength fun n => n - index0
  · exact hlength fun n => n - index0 - 1
  · exact (tameStep_nextItem hidentity).bind fun _ _ => hsome (by simp)
  · split
    · exact hmissing _
    · exact (tameStep_loopFields identity).bind fun fields hfields => hsome (isTame_fieldOf hfields _)
  · refine (tameStep_nextItem hidentity).bind fun item hitem => ?_
    split
    · exact tameStep_pure hitem
    · exact hmissing _
  · exact tameStep_pure forall_mem_none

theorem tameStep_shownLoop {v : Value} (h : v.IsTame) : TameStep Value.IsTame (shownLoop v) := by
  unfold shownLoop
  split
  · have hidentity := h
    simp only [Value.IsTame, true_implies] at hidentity
    refine (tameStep_loopIndex _).bind fun index _ => ?_
    exact (tameStep_loopLength hidentity.1).bind fun n _ => tameStep_pure (isTame_loop hidentity.1 (by simp))
  · exact tameStep_pure h

/-! ### Cursors -/

theorem isTame_keyed (identity : Identity) (kind : ViewKind) {owner : Value} (howner : owner.IsTame)
    {entries : List (Value × Value)} (h : ∀ e ∈ entries, e.1.IsTame ∧ e.2.IsTame) :
    (cursorOf.keyed identity kind owner entries).IsTame := by
  have hkeys : ∀ k ∈ entries.map (·.1), k.IsTame := List.forall_mem_map.2 fun e he => (h e he).1
  unfold cursorOf.keyed
  split
  · simp only [Cursor.IsTame, areTame_iff]
    exact List.forall_mem_map.2 fun e he => Value.isTame_ofEntry kind (h e he).1 (h e he).2
  · simp only [Cursor.IsTame, areTame_iff]
    exact ⟨howner, hkeys, hkeys⟩

theorem tameStep_cursorOf {v : Value} (h : v.IsTame) : TameStep Cursor.IsTame (cursorOf v) := by
  refine (tameStep_present v).bind ?_
  rintro _ rfl
  split
  · split
    · exact tameStep_pure (by simpa using h)
    · exact tameStep_pure (by simpa using h)
  · exact tameStep_pure (isTame_keyed _ _ h (by simpa using h))
  · exact tameStep_pure (isTame_keyed _ _ (by simpa using h) (by simpa using h))
  · simp only [Value.IsTame] at h
    exact tameStep_pure h.2
  · exact tameStep_pure (by simpa using h)
  · exact tameStep_pure (by simpa using h)
  · refine (tameStep_lift (Value.gives_iterate h)).bind fun read hread => ?_
    exact tameStep_pure (by simpa using hread)

end Eval

end Courier.Language
