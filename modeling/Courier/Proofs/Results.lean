import Mathlib.Data.List.Forall2

/-! Results that can be refused: where a chain of them is there, each link of it is. Programs that end with such a result
and leave a state behind in either case have the same laws for every kind of state, so that steps on the data, steps on
the network and whole calls share them. -/

namespace Courier

variable {ε α β : Type}

theorem exists_of_bind_ok {x : Except ε α} {f : α → Except ε β} {b : β} (h : (x >>= f) = .ok b) :
    ∃ a, x = .ok a ∧ f a = .ok b := by
  cases x with
  | error e => cases h
  | ok a => exact ⟨a, rfl, h⟩

/-- A chain ends with the error of its first link, or with one of the links behind it. -/
theorem of_bind_error {x : Except ε α} {f : α → Except ε β} {e : ε} (h : (x >>= f) = .error e) :
    x = .error e ∨ ∃ a, x = .ok a ∧ f a = .error e := by
  cases x with
  | error e' =>
      cases h
      exact Or.inl rfl
  | ok a => exact Or.inr ⟨a, rfl, h⟩

theorem exists_of_mapError {δ : Type} {x : Except δ α} {cause : δ → ε} {e : ε} (h : x.mapError cause = .error e) :
    ∃ d, x = .error d ∧ e = cause d := by
  cases x with
  | error d =>
      cases h
      exact ⟨d, rfl, rfl⟩
  | ok a => cases h

theorem eq_ok_of_mapError {δ : Type} {x : Except δ α} {cause : δ → ε} {a : α} (h : x.mapError cause = .ok a) :
    x = .ok a := by
  cases x with
  | error d => cases h
  | ok b =>
      cases h
      rfl

theorem eq_ok_of_mem_toOption {x : Except ε α} {a : α} (h : a ∈ x.toOption) : x = .ok a := by
  cases x with
  | error e => cases h
  | ok b => exact congrArg Except.ok (Option.some.inj h)

/-- Where a list of results is there, each of them is, in its place. -/
theorem forall₂_of_mapM {f : α → Except ε β} {as : List α} {bs : List β} (h : as.mapM f = .ok bs) :
    List.Forall₂ (fun a b => f a = .ok b) as bs := by
  induction as generalizing bs with
  | nil =>
      cases h
      exact .nil
  | cons a as ih =>
      rw [List.mapM_cons] at h
      obtain ⟨b, hb, h⟩ := exists_of_bind_ok h
      obtain ⟨rest, hrest, h⟩ := exists_of_bind_ok h
      cases h
      exact .cons hb (ih hrest)

theorem exists_of_mem_forall₂ {R : α → β → Prop} {as : List α} {bs : List β} {a : α} (h : List.Forall₂ R as bs)
    (ha : a ∈ as) : ∃ b, R a b := by
  induction h with
  | nil => cases ha
  | @cons c b as bs hcb _ ih =>
      rcases List.mem_cons.1 ha with rfl | ha
      · exact ⟨b, hcb⟩
      · exact ih ha

/-- Where each result of a list is there, all of them are. -/
theorem exists_mapM_ok {f : α → Except ε β} {as : List α} (h : ∀ a ∈ as, ∃ b, f a = .ok b) :
    ∃ bs, as.mapM f = .ok bs := by
  induction as with
  | nil => exact ⟨[], rfl⟩
  | cons a as ih =>
      obtain ⟨b, hb⟩ := h a List.mem_cons_self
      obtain ⟨bs, hbs⟩ := ih fun c hc => h c (List.mem_cons_of_mem _ hc)
      refine ⟨b :: bs, ?_⟩
      rw [List.mapM_cons, hb, hbs]
      rfl

/-! ### What results are like -/

/-- Where there is nothing, everything is so of it. -/
theorem forall_mem_none {P : α → Prop} : ∀ a ∈ (none : Option α), P a := fun a h => absurd h (Option.not_mem_none a)

/-- A result has a property if it is there at all. -/
def Gives (P : α → Prop) (x : Except ε α) : Prop := ∀ a, x = .ok a → P a

theorem gives_ok {P : α → Prop} {a : α} (h : P a) : Gives P (.ok a : Except ε α) := by
  rintro _ ⟨⟩
  exact h

theorem gives_error {P : α → Prop} (e : ε) : Gives P (.error e : Except ε α) := nofun

theorem Gives.bind {P : α → Prop} {Q : β → Prop} {x : Except ε α} {f : α → Except ε β} (h : Gives P x)
    (hf : ∀ a, P a → Gives Q (f a)) : Gives Q (x >>= f) := by
  cases x with
  | error e => exact gives_error e
  | ok a => exact hf a (h a rfl)

/-- Nothing has to be known of a part to know something of what is made of it. -/
theorem gives_bind {Q : β → Prop} {x : Except ε α} {f : α → Except ε β} (hf : ∀ a, Gives Q (f a)) :
    Gives Q (x >>= f) :=
  Gives.bind (P := fun _ => True) (fun _ _ => trivial) fun a _ => hf a

/-- What stands behind a check is all there is to a result. -/
theorem gives_unless {P : α → Prop} {c : Prop} [Decidable c] {e : ε} {rest : Unit → Except ε α} (h : Gives P (rest ())) :
    Gives P (if c then throw e >>= rest else rest ()) := by
  split
  · exact gives_error e
  · exact h

theorem gives_map {Q : β → Prop} {x : Except ε α} {f : α → β} (hf : ∀ a, Q (f a)) : Gives Q (x.map f) := by
  cases x with
  | error e => exact gives_error e
  | ok a => exact gives_ok (hf a)

theorem gives_mapError {δ : Type} {P : α → Prop} {x : Except ε α} {f : ε → δ} (h : Gives P x) :
    Gives P (x.mapError f) := by
  cases x with
  | error e => exact gives_error _
  | ok a => exact gives_ok (h a rfl)

theorem gives_mapM {P : α → Prop} {Q : β → Prop} {f : α → Except ε β} (hf : ∀ a, P a → Gives Q (f a)) {as : List α}
    (h : ∀ a ∈ as, P a) : Gives (fun bs => ∀ b ∈ bs, Q b) (as.mapM f) := by
  induction as with
  | nil => exact gives_ok (List.forall_mem_nil _)
  | cons a as ih =>
      rw [List.mapM_cons]
      refine (hf a (h a List.mem_cons_self)).bind fun b hb => ?_
      refine (ih fun c hc => h c (List.mem_cons_of_mem a hc)).bind fun bs hbs => ?_
      exact gives_ok (List.forall_mem_cons.2 ⟨hb, hbs⟩)

theorem gives_forIn {P : β → Prop} {f : α → β → Except ε (ForInStep β)} {as : List α} {b : β} (hb : P b)
    (hf : ∀ a ∈ as, ∀ b, P b → Gives (fun next => P next.value) (f a b)) : Gives P (forIn as b f) := by
  induction as generalizing b with
  | nil => exact gives_ok hb
  | cons a as ih =>
      rw [List.forIn_cons]
      refine (hf a List.mem_cons_self b hb).bind fun next hnext => ?_
      cases next with
      | done c => exact gives_ok hnext
      | yield c => exact ih hnext fun d hd => hf d (List.mem_cons_of_mem a hd)

/-! ### Programs with a state -/

variable {σ : Type}

/-- What a program comes to from a state: its result or its error, and the state that it leaves. -/
def comesTo (step : ExceptT ε (StateM σ) α) (s : σ) : Except ε α × σ := step.run.run s

/-- The second of two programs starts where the first one ends, and an error of the first one ends both. -/
theorem comesTo_bind (step : ExceptT ε (StateM σ) α) (next : α → ExceptT ε (StateM σ) β) (s : σ) :
    comesTo (step >>= next) s =
      match comesTo step s with
      | (.ok a, after) => comesTo (next a) after
      | (.error e, after) => (.error e, after) := by
  show (step >>= next).run.run s = _
  rw [ExceptT.run_bind, StateT.run_bind]
  rcases h : (step.run.run s : Except ε α × σ) with ⟨r, after⟩
  have h' : comesTo step s = (r, after) := h
  rw [h']
  cases r <;> rfl

theorem comesTo_bind_of_ok {step : ExceptT ε (StateM σ) α} {s after : σ} {a : α}
    (next : α → ExceptT ε (StateM σ) β) (h : comesTo step s = (.ok a, after)) :
    comesTo (step >>= next) s = comesTo (next a) after := by
  rw [comesTo_bind, h]

theorem comesTo_bind_of_error {step : ExceptT ε (StateM σ) α} {s after : σ} {e : ε}
    (next : α → ExceptT ε (StateM σ) β) (h : comesTo step s = (.error e, after)) :
    comesTo (step >>= next) s = (.error e, after) := by
  rw [comesTo_bind, h]

/-- A program that succeeds was put together of two that do. -/
theorem exists_of_comesTo_bind_ok {step : ExceptT ε (StateM σ) α} {next : α → ExceptT ε (StateM σ) β} {s after : σ}
    {b : β} (h : comesTo (step >>= next) s = (.ok b, after)) :
    ∃ a between, comesTo step s = (.ok a, between) ∧ comesTo (next a) between = (.ok b, after) := by
  rw [comesTo_bind] at h
  rcases hs : comesTo step s with ⟨e | a, between⟩
  · rw [hs] at h
    cases h
  · rw [hs] at h
    exact ⟨a, between, rfl, h⟩

end Courier
