import Courier.Proofs.Tame.Expressions

/-! Statements that are tame by their form. Their expressions are, and they put no bodies aside that could be called
later, nor do they assign to members of values or to the name of the look-up. -/

namespace Courier.Language

mutual

/-- Whether a target consists of names beside that of the look-up. -/
def Target.isQuiet : Target → Bool
  | .name n => Scope.isFree n
  | .tuple items => areQuietTargets items
  | .field _ _ => false

def areQuietTargets : List Target → Bool
  | [] => true
  | t :: rest => t.isQuiet && areQuietTargets rest

end

mutual

/-- Whether what a statement does with the values of its expressions changes no container. -/
def Statement.isQuietStep : Statement → Bool
  | .output _ | .reference _ _ => true
  | .assign target _ => target.isQuiet
  | .assignBody target _ body => target.isQuiet && areQuietSteps body
  | .branch arms otherwise => areQuietArms arms && areQuietSteps otherwise
  | .loop target _ _ isRecursive body otherwise =>
    target.isQuiet && !isRecursive && areQuietSteps body && areQuietSteps otherwise
  | .bindings values body => values.all (fun (t, _) => t.isQuiet) && areQuietSteps body
  | .filterBody _ body | .escaping _ _ body => areQuietSteps body
  | .block _ _ _ _ | .define _ _ _ _ | .callBody _ _ _ _ => false

def areQuietSteps : List Statement → Bool
  | [] => true
  | s :: rest => s.isQuietStep && areQuietSteps rest

def areQuietArms : List (Expression × List Statement) → Bool
  | [] => true
  | (_, body) :: rest => areQuietSteps body && areQuietArms rest

end

/-- Whether nothing in a program changes a container. -/
def Program.isQuiet (p : Program) : Bool :=
  areQuietSteps p.statements && (expressionsOfAll p.statements).all Expression.isQuiet

/-- The variables that a scope starts with are what they may be. -/
def AllGivenSuit (given : List (String × Option Value)) : Prop := ∀ e ∈ given, ∀ v ∈ e.2, Suits (Scope.slot e.1) v

theorem allSuit_putEntry {name : String} {v : Value} (hv : Suits (Scope.slot name) v) {named : List (String × Value)}
    (h : AllSuit named) : AllSuit (putEntry name v named) := by
  intro e he
  rcases mem_putEntry he with rfl | he
  · exact hv
  · exact h e he

namespace Scope

theorem isTame_empty (role : ScopeRole) : (empty role).IsTame := nofun

theorem IsTame.declare {s : Scope} (h : s.IsTame) {name : String} {v : Option Value}
    (hv : ∀ w ∈ v, Suits (slot name) w) : (s.declare name v).IsTame := by
  intro e he w hw
  rcases mem_putEntry he with rfl | he
  · exact hv w hw
  · exact h e he w hw

theorem IsTame.assign {s : Scope} (h : s.IsTame) {name : String} {v : Option Value}
    (hv : ∀ w ∈ v, Suits (slot name) w) : (s.assign name v).IsTame :=
  h.declare hv

end Scope

namespace Eval

variable {α : Type} {P : α → Prop}

/-! ### Scopes -/

theorem tameStep_startValue {outside : List Scope} (houtside : ∀ s ∈ outside, s.IsTame) (name : String)
    (start : Start) : TameStep (fun found => ∀ v ∈ found, Suits (Scope.slot name) v) (startValue outside name start) := by
  cases start with
  | unset => exact tameStep_pure forall_mem_none
  | resolved => exact tameStep_resolve name
  | inherited =>
      refine tameStep_pure fun v hv => ?_
      cases hfound : variableOf? name outside with
      | none =>
          rw [hfound] at hv
          cases hv
      | some found =>
          rw [hfound] at hv
          exact suits_variableOf? houtside hfound v hv

theorem tameStep_started {outside : List Scope} (houtside : ∀ s ∈ outside, s.IsTame) (starts : List (String × Start))
    {scope : Scope} (hscope : scope.IsTame) : TameStep Scope.IsTame (started outside starts scope) := by
  induction starts generalizing scope with
  | nil => exact tameStep_pure hscope
  | cons first starts ih =>
      obtain ⟨n, start⟩ := first
      exact (tameStep_startValue houtside n start).bind fun v hv => ih (hscope.declare hv)

theorem tameStep_setScopes {f : List Scope → List Scope}
    (hf : ∀ scopes, (∀ s ∈ scopes, s.IsTame) → ∀ s ∈ f scopes, s.IsTame) :
    TameStep (fun _ => True) (modify fun run => { run with scopes := f run.scopes }) :=
  tameStep_modify fun run hrun => { hrun with scopes := hf run.scopes hrun.scopes }

theorem isTame_foldl_assign {parameters : List (String × Option Value)} (h : AllGivenSuit parameters) {scope : Scope}
    (hscope : scope.IsTame) : (parameters.foldl (fun scope (n, v) => scope.assign n v) scope).IsTame := by
  induction parameters generalizing scope with
  | nil => exact hscope
  | cons first parameters ih =>
      have hall := List.forall_mem_cons.1 h
      exact ih hall.2 (hscope.assign hall.1)

/-- A step in a scope of its own is tame if the step is. A fault leaves the scope where it was. -/
theorem tameStep_within (role : ScopeRole) {parameters : List (String × Option Value)} (h : AllGivenSuit parameters)
    (symbols : Symbols) {step : Eval α} (hstep : TameStep P step) :
    TameStep P (within role parameters symbols step) := by
  refine tameStep_get.bind fun run hrun => ?_
  have hscope := isTame_foldl_assign h (Scope.isTame_empty role)
  refine (tameStep_started hrun.scopes _ hscope).bind fun scope hscope => ?_
  refine (tameStep_setScopes fun scopes h => List.forall_mem_cons.2 ⟨hscope, h⟩).bind fun _ _ => ?_
  refine hstep.bind fun result hresult => ?_
  refine (tameStep_setScopes fun scopes h s hs => h s (List.mem_of_mem_tail hs)).bind fun _ _ => ?_
  exact tameStep_pure hresult

theorem isTame_setVariable {name : String} {v : Value} (hv : Suits (Scope.slot name) v) {scopes : List Scope}
    (h : ∀ s ∈ scopes, s.IsTame) : ∀ s ∈ setVariable name v scopes, s.IsTame := by
  cases scopes with
  | nil => exact h
  | cons scope scopes =>
      rw [List.forall_mem_cons] at h
      exact List.forall_mem_cons.2 ⟨h.1.assign (by simpa using hv), h.2⟩

theorem tameStep_assignName {name : String} {v : Value} (hv : Suits (Scope.slot name) v) :
    TameStep (fun _ => True) (assignName name v) := by
  refine tameStep_modify fun run hrun => ?_
  have hset : Run.IsTame { run with scopes := setVariable name v run.scopes } :=
    { hrun with scopes := isTame_setVariable hv hrun.scopes }
  dsimp only
  split
  · exact { hset with exported := allSuit_putEntry hv hrun.exported }
  · exact { hset with turn := allSuit_putEntry hv hrun.turn }
  · exact { hset with block := allSuit_putEntry hv hrun.block }
  · exact hset

/-! ### Targets -/

theorem tameStep_takeItems (n : Nat) {cursor : Cursor} (h : cursor.IsTame) :
    TameStep (fun taken => (∀ v ∈ taken.1, v.IsTame) ∧ taken.2.IsTame) (takeItems n cursor) := by
  induction n generalizing cursor with
  | zero => exact tameStep_pure ⟨List.forall_mem_nil _, h⟩
  | succ n ih =>
      refine ((tameUpTo stepLimit).advance cursor h).bind fun next hnext => ?_
      split
      · exact tameStep_pure ⟨List.forall_mem_nil _, by simp⟩
      · obtain ⟨hv, hrest⟩ := hnext _ rfl
        refine (ih hrest).bind fun more hmore => tameStep_pure ?_
        exact ⟨List.forall_mem_cons.2 ⟨hv, hmore.1⟩, hmore.2⟩

theorem tameStep_unpack (count : Nat) {v : Value} (hv : v.IsTame) :
    TameStep (fun items => ∀ w ∈ items, w.IsTame) (unpack count v) := by
  unfold unpack
  extract_lets unpacked
  have hunpacked : ∀ cursor, cursor.IsTame → TameStep (fun items => ∀ w ∈ items, Value.IsTame w) (unpacked cursor) := by
    intro cursor hcursor
    refine (tameStep_takeItems count hcursor).bind fun taken htaken => ?_
    obtain ⟨items, rest⟩ := taken
    dsimp only
    split
    · exact tameStep_throw _
    · refine ((tameUpTo stepLimit).advance rest htaken.2).bind fun next _ => ?_
      split
      · exact tameStep_throw _
      · exact tameStep_pure htaken.1
  refine (tameStep_observe (tameStep_cursorOf hv)).bind fun cursor hcursor => ?_
  split
  · exact hunpacked _ (hcursor _ rfl)
  · exact tameStep_throw _

/-- What is assigned are names beside that of the look-up, to tame values. -/
def AreMatched (pairs : List (Target × Value)) : Prop :=
  ∀ e ∈ pairs, e.2.IsTame ∧ ∃ n, e.1 = .name n ∧ Scope.isFree n

mutual

theorem tameStep_matched (target : Target) (h : target.isQuiet) {v : Value} (hv : v.IsTame) :
    TameStep AreMatched (matched target v) := by
  cases target with
  | name n => exact tameStep_pure (List.forall_mem_singleton.2 ⟨hv, n, rfl, h⟩)
  | tuple items =>
    unfold matched
    exact (tameStep_unpack items.length hv).bind fun vs hvs => tameStep_matchedAll items h hvs
  | field owner n => cases h

theorem tameStep_matchedAll (targets : List Target) (h : areQuietTargets targets) {vs : List Value}
    (hvs : ∀ v ∈ vs, v.IsTame) : TameStep AreMatched (matchedAll targets vs) := by
  cases targets with
  | nil => exact tameStep_pure (List.forall_mem_nil _)
  | cons t ts =>
    simp only [areQuietTargets, Bool.and_eq_true] at h
    cases vs with
    | nil => exact tameStep_pure (List.forall_mem_nil _)
    | cons v vs =>
      rw [List.forall_mem_cons] at hvs
      unfold matchedAll
      refine (tameStep_matched t h.1 hvs.1).bind fun first hfirst => ?_
      refine (tameStep_matchedAll ts h.2 hvs.2).bind fun rest hrest => tameStep_pure ?_
      exact List.forall_mem_append.2 ⟨hfirst, hrest⟩

end

mutual

theorem tameStep_shaped (target : Target) {v : Value} (hv : v.IsTame) :
    TameStep Value.IsTame (shaped target v) := by
  cases target with
  | name n => exact tameStep_pure hv
  | tuple items =>
    unfold shaped
    refine (tameStep_unpack items.length hv).bind fun vs hvs => ?_
    exact (tameStep_shapedAll items hvs).bind fun parts hparts => tameStep_pure (Value.isTame_newTuple.2 hparts)
  | field owner n => exact tameStep_pure hv

theorem tameStep_shapedAll (targets : List Target) {vs : List Value} (hvs : ∀ v ∈ vs, v.IsTame) :
    TameStep (fun parts => ∀ v ∈ parts, v.IsTame) (shapedAll targets vs) := by
  cases targets with
  | nil => exact tameStep_pure (List.forall_mem_nil _)
  | cons t ts =>
    cases vs with
    | nil => exact tameStep_pure (List.forall_mem_nil _)
    | cons v vs =>
      rw [List.forall_mem_cons] at hvs
      unfold shapedAll
      refine (tameStep_shaped t hvs.1).bind fun first hfirst => ?_
      refine (tameStep_shapedAll ts hvs.2).bind fun rest hrest => tameStep_pure ?_
      exact List.forall_mem_cons.2 ⟨hfirst, hrest⟩

end

theorem tameStep_turnVariables {target : Target} (h : target.isQuiet) {v : Value} (hv : v.IsTame) :
    TameStep AllGivenSuit (turnVariables target v) := by
  refine (tameStep_matched target h hv).bind fun pairs hpairs => tameStep_pure fun e he => ?_
  obtain ⟨⟨t, w⟩, hpair, he⟩ := List.mem_filterMap.1 he
  obtain ⟨hw, n, rfl, hn⟩ := hpairs _ hpair
  cases he
  rintro _ ⟨⟩
  exact suits_of_isFree hn hw

theorem tameStep_checkOwners (owners : List String) : TameStep (fun _ => True) (checkOwners owners) := by
  induction owners with
  | nil => exact tameStep_pure trivial
  | cons owner owners ih =>
      refine TameStep.bind (P := fun _ => True) ((tameStep_nameValue owner).bind fun v _ => ?_) fun _ _ => ih
      split
      · exact tameStep_pure trivial
      · exact tameStep_throw _

theorem tameStep_forIn {f : α → PUnit → Eval (ForInStep PUnit)} (as : List α)
    (hf : ∀ a ∈ as, TameStep (fun _ => True) (f a ⟨⟩)) : TameStep (fun _ => True) (forIn as PUnit.unit f) := by
  induction as with
  | nil => exact tameStep_pure trivial
  | cons a as ih =>
      rw [List.forall_mem_cons] at hf
      rw [List.forIn_cons]
      refine hf.1.bind fun next _ => ?_
      cases next with
      | done _ => exact tameStep_pure trivial
      | yield _ => exact ih hf.2

theorem tameStep_assign {target : Target} (h : target.isQuiet) {v : Value} (hv : v.IsTame) :
    TameStep (fun _ => True) (assign target v) := by
  refine (tameStep_bound hv).bind fun v hv => (tameStep_matched target h hv).bind fun pairs hpairs => ?_
  refine (tameStep_forIn pairs fun e he => ?_).bind fun _ _ => tameStep_pure trivial
  obtain ⟨t, w⟩ := e
  obtain ⟨hw, n, rfl, hn⟩ := hpairs _ he
  exact (tameStep_assignName (suits_of_isFree hn hw)).bind fun _ _ => tameStep_pure trivial

/-! ### Output -/

theorem tameStep_written {v : Value} (hv : v.IsTame) : TameStep (fun _ => True) (written v) :=
  (tameStep_shownForm hv).bind fun _ _ => tameStep_escapes.bind fun _ _ => tameStep_lift fun _ _ => trivial

theorem tameStep_writePieces (afterText : Bool) (pieces : List Piece)
    (h : ∀ e, .value e ∈ pieces → e.isQuiet) : TameStep (fun _ => True) (writePieces afterText pieces) := by
  induction pieces generalizing afterText with
  | nil => exact tameStep_pure trivial
  | cons piece pieces ih =>
      have hrest (afterText : Bool) := ih afterText fun e he => h e (List.mem_cons_of_mem _ he)
      cases piece with
      | text s => exact (hrest true).bind fun _ _ => tameStep_pure trivial
      | value e =>
          refine (tameStep_evaluate e (h e List.mem_cons_self)).bind fun v hv => ?_
          exact (tameStep_written hv).bind fun _ _ => (hrest false).bind fun _ _ => tameStep_pure trivial

theorem tameStep_collected {step : Eval Output} (h : TameStep (fun _ => True) step) :
    TameStep (fun _ => True) (collected step) :=
  h.bind fun _ _ => tameStep_lift fun _ _ => trivial

/-! ### Loops -/

/-- A loop is tame if every turn of it is, and what is between the turns. -/
theorem tameStep_runTurns {next : α → Eval (Option (List (String × Option Value) × α))}
    {turn : List (String × Option Value) → Eval Output}
    (hnext : ∀ place, P place → TameStep (fun found => ∀ p ∈ found, AllGivenSuit p.1 ∧ P p.2) (next place))
    (hturn : ∀ given, AllGivenSuit given → TameStep (fun _ => True) (turn given)) (fuel : Nat)
    (outputs : Array Output) {place : α} (hplace : P place) :
    TameStep (fun _ => True) (runTurns next turn fuel outputs place) := by
  induction fuel generalizing outputs place with
  | zero => exact tameStep_pure trivial
  | succ fuel ih =>
      refine (hnext place hplace).bind fun found hfound => ?_
      split
      · exact tameStep_pure trivial
      · obtain ⟨hgiven, hplace⟩ := hfound _ rfl
        have hcleared : TameStep (fun _ => True) (modify fun run => { run with turn := [] }) :=
          tameStep_modify fun run hrun => { hrun with turn := List.forall_mem_nil _ }
        refine hcleared.bind fun _ _ => ?_
        exact (hturn _ hgiven).bind fun output _ => ih _ hplace

variable {target : Target} {test : Option Expression}

theorem tameStep_nextPassing (htarget : target.isQuiet) (htest : ∀ e ∈ test, e.isQuiet) (fuel : Nat) {cursor : Cursor}
    (h : cursor.IsTame) : TameStep NextIsTame (nextPassing target test fuel cursor) := by
  induction fuel generalizing cursor with
  | zero => exact tameStep_pure nextIsTame_none
  | succ fuel ih =>
      refine ((tameUpTo stepLimit).advance cursor h).bind fun next hnext => ?_
      split
      · exact tameStep_pure nextIsTame_none
      · obtain ⟨hv, hrest⟩ := hnext _ rfl
        refine (tameStep_bound hv).bind fun v hv => ?_
        split
        · exact tameStep_pure (nextIsTame_some hv hrest)
        · refine (tameStep_shaped target hv).bind fun v hv => ?_
          refine (tameStep_turnVariables htarget hv).bind fun given hgiven => tameStep_get.bind fun run _ => ?_
          have hholds : TameStep (fun _ => True) (do holds (← evaluate _)) :=
            (tameStep_evaluate _ (htest _ rfl)).bind fun v _ => tameStep_holds v
          refine (tameStep_within .plain hgiven _ hholds).bind fun passes _ => ?_
          split
          · exact tameStep_pure (nextIsTame_some hv hrest)
          · exact ih hrest

theorem tameStep_nextTurn (htarget : target.isQuiet) (htest : ∀ e ∈ test, e.isQuiet) {cursor : Cursor}
    (h : cursor.IsTame) :
    TameStep (fun found => ∀ p ∈ found, AllGivenSuit p.1 ∧ p.2.IsTame) (nextTurn target test cursor) := by
  refine (tameStep_nextPassing htarget htest stepLimit h).bind fun next hnext => ?_
  split
  · exact tameStep_pure forall_mem_none
  · obtain ⟨hv, hrest⟩ := hnext _ rfl
    refine (tameStep_turnVariables htarget hv).bind fun given hgiven => tameStep_pure ?_
    rintro _ ⟨⟩
    exact ⟨hgiven, hrest⟩

theorem tameStep_drawPassing (htarget : target.isQuiet) (htest : ∀ e ∈ test, e.isQuiet) {source : Identity}
    {outside : List Scope} (houtside : ∀ s ∈ outside, s.IsTame) :
    TameStep (fun item => ∀ v ∈ item, v.IsTame) (drawPassing target test source outside) := by
  refine (tameStep_remaining source).bind fun left hleft => ?_
  split
  · obtain ⟨hstream, hlocal⟩ := hleft _ rfl
    simp only [Value.IsTame] at hstream
    refine tameStep_get.bind fun run hrun => ?_
    refine (tameStep_setScopes fun _ _ => houtside).bind fun _ _ => ?_
    refine (tameStep_nextPassing htarget htest stepLimit hstream.2).bind fun drawn hdrawn => ?_
    refine (tameStep_setScopes fun _ _ => hrun.scopes).bind fun _ _ => ?_
    refine (tameStep_leave hlocal ?_).bind fun _ _ => tameStep_pure fun v hv => ?_
    · cases drawn with
      | none => simpa using hlocal
      | some next => simpa using ⟨hlocal, (hdrawn next rfl).2⟩
    · obtain ⟨next, hnext, rfl⟩ := Option.map_eq_some_iff.1 hv
      exact (hdrawn next hnext).1
  · exact tameStep_pure forall_mem_none

theorem tameStep_runKnownTurns (htarget : target.isQuiet) (htest : ∀ e ∈ test, e.isQuiet) {items : Value}
    (hitems : items.IsTame) {turn : List (String × Option Value) → Eval Output}
    (hturn : ∀ given, AllGivenSuit given → TameStep (fun _ => True) (turn given)) :
    TameStep (fun _ => True) (runKnownTurns target test items none turn) := by
  refine (tameStep_cursorOf hitems).bind fun cursor hcursor => ?_
  refine tameStep_newIdentity.bind fun identity hidentity => tameStep_newIdentity.bind fun source hsource => ?_
  refine tameStep_get.bind fun run hrun => tameStep_read.bind fun setting hsetting => ?_
  extract_lets iterable loop draw next
  have hiterable : iterable.IsTame := by
    unfold iterable
    split
    · simp [Identity.isLocal]
    · exact hitems
  have hloop : loop.IsTame := isTame_loop hidentity (by simpa [loopStart] using hiterable)
  have hnext : ∀ place, True → TameStep (fun found => ∀ p ∈ found, AllGivenSuit p.1 ∧ True) (next place) := by
    intro _ _
    refine (tameStep_beginTurn hidentity).bind fun item hitem => ?_
    split
    · exact tameStep_pure forall_mem_none
    · refine (tameStep_turnVariables htarget (hitem _ rfl)).bind fun given hgiven => tameStep_pure ?_
      rintro _ ⟨⟩
      -- a loop is no value to call, but nothing is called by its name either
      have hnamed : ∀ v ∈ some loop, Suits (Scope.slot "loop") v := by
        rintro _ ⟨⟩
        exact suits_of_isFree (by decide +kernel) hloop
      exact ⟨List.forall_mem_append.2 ⟨hgiven, List.forall_mem_singleton.2 hnamed⟩, trivial⟩
  refine (tameStep_leave hidentity hloop).bind fun _ _ => ?_
  refine (tameStep_leave hsource (by simpa using ⟨hsource, hcursor⟩)).bind fun _ _ => ?_
  refine TameStep.bind (P := fun _ => True) (tameStep_pure trivial) fun _ _ => ?_
  -- a loop inside may still draw from the loops outside, which goes by the invariant of the setting
  have hdraw : ∀ i after, after.IsTame → (comesTo (draw i) after).2.IsTame ∧
      Gives (fun item => ∀ v ∈ item, v.IsTame) (comesTo (draw i) after).1 := by
    intro i after hafter
    unfold draw
    split
    · exact tameStep_drawPassing htarget htest hrun.scopes setting after hsetting hafter
    · exact hsetting.draw i after hafter
  refine tameStep_withReader (f := fun inside => { inside with draw }) (fun inside hinside => ?_)
    (tameStep_runTurns hnext hturn stepLimit #[] trivial)
  exact { hinside with draw := hdraw }

theorem tameStep_loopOutput (htarget : target.isQuiet) (htest : ∀ e ∈ test, e.isQuiet) {items : Value}
    (hitems : items.IsTame) (isKnown : Bool) {turn : List (String × Option Value) → Eval Output}
    (hturn : ∀ given, AllGivenSuit given → TameStep (fun _ => True) (turn given)) {alternative : Eval Output}
    (halternative : TameStep (fun _ => True) alternative) :
    TameStep (fun _ => True) (loopOutput target test items isKnown none turn alternative) := by
  unfold loopOutput
  extract_lets ended
  have hended (outputs : Array Output) : TameStep (fun _ => True) (ended outputs) := by
    unfold ended
    split
    · exact halternative
    · exact tameStep_pure trivial
  split
  · exact (tameStep_runKnownTurns htarget htest hitems hturn).bind fun outputs _ => hended outputs
  · refine (tameStep_cursorOf hitems).bind fun cursor hcursor => ?_
    have hnext (place : Cursor) (hplace : place.IsTame) := tameStep_nextTurn htarget htest hplace
    exact (tameStep_runTurns hnext hturn stepLimit #[] hcursor).bind fun outputs _ => hended outputs

/-! ### Statements -/

theorem tameStep_isEmptyChoice {v : Value} (hv : v.IsTame) : TameStep (fun _ => True) (isEmptyChoice v) := by
  refine (tameStep_present v).bind ?_
  rintro _ rfl
  split
  · exact tameStep_pure trivial
  · split
    · exact tameStep_pure trivial
    · exact (tameStep_cursorOf hv).bind fun _ _ => tameStep_pure trivial

theorem tameStep_withBody (body : String) {step : Eval α} (h : TameStep P step) :
    TameStep P (withReader (fun setting : Setting => { setting with body }) step) := by
  refine tameStep_withReader ?_ h
  exact fun setting hsetting => { hsetting with }

mutual

theorem tameStep_execute (s : Statement) (h : s.isQuietStep) (he : s.expressions.all Expression.isQuiet) :
    TameStep (fun _ => True) (execute s) := by
  cases s with
  | output pieces =>
    refine tameStep_writePieces false pieces fun e hpiece => List.all_eq_true.1 he e ?_
    exact List.mem_filterMap.2 ⟨.value e, hpiece, rfl⟩
  | assign target e =>
    simp only [Statement.expressions, List.all_cons, List.all_nil, Bool.and_true] at he
    unfold execute
    refine (tameStep_checkOwners _).bind fun _ _ => (tameStep_evaluate e he).bind fun v hv => ?_
    exact (tameStep_assign h hv).bind fun _ _ => tameStep_pure trivial
  | assignBody target filter body =>
    simp only [Statement.isQuietStep, Bool.and_eq_true] at h
    simp only [Statement.expressions, List.all_cons, Bool.and_eq_true] at he
    unfold execute
    refine tameStep_get.bind fun run hrun => ?_
    refine (tameStep_within .plain (List.forall_mem_nil _) _ (P := Value.IsTame) ?_).bind fun v hv => ?_
    · refine (tameStep_collected (tameStep_executeAll body h.2 he.2)).bind fun text _ => ?_
      split
      · exact tameStep_pure (by simp)
      · exact tameStep_withBody text (tameStep_evaluate filter he.1)
    · refine tameStep_read.bind fun setting _ => ?_
      split
      · refine (tameStep_shownForm hv).bind fun shown _ => tameStep_lift_bind fun text => ?_
        exact (tameStep_assign h.1 (by simp)).bind fun _ _ => tameStep_pure trivial
      · exact (tameStep_assign h.1 hv).bind fun _ _ => tameStep_pure trivial
  | branch arms otherwise =>
    simp only [Statement.isQuietStep, Bool.and_eq_true] at h
    simp only [Statement.expressions, List.all_append, Bool.and_eq_true] at he
    unfold execute
    refine (tameStep_executeArms arms h.1 he.1).bind fun output _ => ?_
    split
    · exact tameStep_pure trivial
    · exact tameStep_executeAll otherwise h.2 he.2
  | loop target items test isRecursive body otherwise =>
    simp only [Statement.isQuietStep, Bool.and_eq_true, Bool.not_eq_true'] at h
    simp only [Statement.expressions, List.all_append, List.all_cons, Bool.and_eq_true] at he
    obtain ⟨⟨⟨htarget, rfl⟩, hbody⟩, hotherwise⟩ := h
    have htest : ∀ e ∈ test, e.isQuiet := fun e htest => List.all_eq_true.1 he.1.1.2 e (Option.mem_toList.2 htest)
    unfold execute
    refine (tameStep_evaluate items he.1.1.1).bind fun v hv => ?_
    rw [if_neg Bool.false_ne_true]
    refine tameStep_get.bind fun run hrun => ?_
    refine tameStep_loopOutput htarget htest hv _ (fun given hgiven => ?_) ?_
    · exact tameStep_within .loop hgiven _ (tameStep_executeAll body hbody he.1.2)
    · exact tameStep_within .plain (List.forall_mem_nil _) _ (tameStep_executeAll otherwise hotherwise he.2)
  | bindings values body =>
    simp only [Statement.isQuietStep, Bool.and_eq_true] at h
    simp only [Statement.expressions, List.all_append, Bool.and_eq_true] at he
    unfold execute
    refine tameStep_get.bind fun run hrun => ?_
    have hvalue : ∀ e ∈ values, TameStep (fun pair => pair.1.isQuiet ∧ pair.2.IsTame)
        (do return (e.1, ← evaluate e.2)) := by
      intro e hvalue
      have htarget := List.all_eq_true.1 h.1 e hvalue
      have hquiet := List.all_eq_true.1 he.1 e.2 (List.mem_map_of_mem hvalue)
      exact (tameStep_evaluate e.2 hquiet).bind fun v hv => tameStep_pure ⟨htarget, hv⟩
    refine (tameStep_mapM (P := fun e => e ∈ values) hvalue fun e he => he).bind fun pairs hpairs => ?_
    refine tameStep_within .plain ?_ _ ?_
    · exact List.forall_mem_map.2 fun n _ => forall_mem_none
    · refine (tameStep_forIn pairs fun pair hpair => ?_).bind fun _ _ => tameStep_executeAll body h.2 he.2
      obtain ⟨htarget, hv⟩ := hpairs pair hpair
      exact (tameStep_assign htarget hv).bind fun _ _ => tameStep_pure trivial
  | filterBody filter body =>
    simp only [Statement.isQuietStep] at h
    simp only [Statement.expressions, List.all_cons, Bool.and_eq_true] at he
    unfold execute
    refine tameStep_get.bind fun run hrun => ?_
    refine (tameStep_within .plain (List.forall_mem_nil _) _ (P := Value.IsTame) ?_).bind
      fun v _ => tameStep_pure trivial
    refine (tameStep_collected (tameStep_executeAll body h he.2)).bind fun text _ => ?_
    exact tameStep_withBody text (tameStep_evaluate filter he.1)
  | escaping isOn isKnown body =>
    simp only [Statement.isQuietStep] at h
    simp only [Statement.expressions, List.all_cons, Bool.and_eq_true] at he
    unfold execute
    refine tameStep_get.bind fun run hrun => tameStep_within .plain (List.forall_mem_nil _) _ ?_
    refine (tameStep_evaluate isOn he.1).bind fun v _ => (tameStep_holds v).bind fun escaping _ => ?_
    refine tameStep_withReader ?_ (tameStep_executeAll body h he.2)
    exact fun setting hsetting => { hsetting with }
  | reference kind e =>
    simp only [Statement.expressions, List.all_cons, List.all_nil, Bool.and_true] at he
    unfold execute
    refine (tameStep_evaluate e he).bind fun v hv => ?_
    extract_lets missing
    split
    · refine (tameStep_isEmptyChoice hv).bind fun isEmpty _ => ?_
      split
      · exact tameStep_pure trivial
      · exact tameStep_throw _
    · refine (tameStep_isEmptyChoice hv).bind fun isEmpty _ => ?_
      split
      · exact tameStep_throw _
      · exact tameStep_throw _
    · exact tameStep_throw _
  -- what is put aside could be called under any name, so that such statements are not quiet
  | block | define | callBody => cases h

theorem tameStep_executeAll (body : List Statement) (h : areQuietSteps body)
    (he : (expressionsOfAll body).all Expression.isQuiet) : TameStep (fun _ => True) (executeAll body) := by
  cases body with
  | nil => exact tameStep_pure trivial
  | cons s rest =>
    simp only [areQuietSteps, Bool.and_eq_true] at h
    simp only [expressionsOfAll, List.all_append, Bool.and_eq_true] at he
    unfold executeAll
    refine (tameStep_execute s h.1 he.1).bind fun output _ => ?_
    exact (tameStep_executeAll rest h.2 he.2).bind fun _ _ => tameStep_pure trivial

theorem tameStep_executeArms (arms : List (Expression × List Statement)) (h : areQuietArms arms)
    (he : (expressionsOfArms arms).all Expression.isQuiet) : TameStep (fun _ => True) (executeArms arms) := by
  cases arms with
  | nil => exact tameStep_pure trivial
  | cons arm rest =>
    obtain ⟨test, body⟩ := arm
    simp only [areQuietArms, Bool.and_eq_true] at h
    simp only [expressionsOfArms, List.all_cons, List.all_append, Bool.and_eq_true] at he
    unfold executeArms
    refine (tameStep_evaluate test he.1.1).bind fun v _ => (tameStep_holds v).bind fun isTrue _ => ?_
    split
    · exact (tameStep_executeAll body h.1 he.1.2).bind fun _ _ => tameStep_pure trivial
    · exact tameStep_executeArms rest h.2 he.2

end

end Eval

end Courier.Language
