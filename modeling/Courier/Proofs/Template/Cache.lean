import Courier.Proofs.Document.Entries
import Courier.Template.Cache

/-! What a renderer keeps does not show in what it renders. Every program that it has is the one that its template is
read as, whatever was rendered in between, so that it makes no difference whether a template was read before. Which
templates it has is told by the templates that were used alone: of these it has so many, those that were used last. -/

namespace Courier.Template

open Courier.Language

/-! ### Templates in the order of their last use -/

/-- A template is used once more: it moves to the front. -/
def touch (recent : List String) (source : String) : List String := source :: recent.filter (· != source)

/-- The different templates of some uses, the one that was used last in front. -/
def latestFirst (uses : List String) : List String := uses.foldl touch []

theorem nodup_touch {recent : List String} (h : recent.Nodup) (source : String) : (touch recent source).Nodup := by
  refine List.nodup_cons.2 ⟨fun hmem => ?_, h.filter _⟩
  simpa using (List.mem_filter.1 hmem).2

/-- Without one of them, the first of some templates are the first of those without it. -/
theorem take_filter_take {recent : List String} (h : recent.Nodup) (source : String) (n : Nat) :
    ((recent.take (n + 1)).filter (· != source)).take n = (recent.filter (· != source)).take n := by
  induction recent generalizing n with
  | nil => rfl
  | cons first recent ih =>
      obtain ⟨hfirst, hrecent⟩ := List.nodup_cons.1 h
      rw [List.take_succ_cons]
      by_cases heq : first = source
      · subst heq
        have hall {l : List String} (hl : l ⊆ recent) : l.filter (· != first) = l := by
          rw [List.filter_eq_self]
          intro s hs
          simpa using fun hs' : s = first => hfirst (hs' ▸ hl hs)
        rw [List.filter_cons_of_neg (by simp), List.filter_cons_of_neg (by simp), hall (List.take_subset n recent),
          hall (List.Subset.refl recent), List.take_take, Nat.min_self]
      · rw [List.filter_cons_of_pos (by simpa using heq), List.filter_cons_of_pos (by simpa using heq)]
        cases n with
        | zero => rfl
        | succ n => rw [List.take_succ_cons, List.take_succ_cons, ih hrecent]

/-- Only the templates within the bound matter to what is within it after the next use. -/
theorem take_touch {recent : List String} (h : recent.Nodup) (source : String) (n : Nat) :
    (touch (recent.take n) source).take n = (touch recent source).take n := by
  cases n with
  | zero => rfl
  | succ n => rw [touch, touch, List.take_succ_cons, List.take_succ_cons, take_filter_take h]

/-! ### Jobs -/

namespace Renderer

/-- A template that is to be rendered, and the data for it with the changes that were made to it. -/
structure Job where
  source : String
  data : Value
  memory : Memory

/-- What a job comes to, and the renderer behind it. -/
def perform (r : Renderer) (job : Job) : (Except Failure String × Memory) × Renderer :=
  let (result, memory, r) := r.render job.source job.data job.memory
  ((result, memory), r)

/-- What jobs come to on one renderer, one after the other. -/
def performAll (r : Renderer) : List Job → List (Except Failure String × Memory) × Renderer
  | [] => ([], r)
  | job :: jobs =>
    let (outcome, r) := r.perform job
    let (outcomes, r) := r.performAll jobs
    (outcome :: outcomes, r)

/-- Whether a template has a program that is worth keeping: it has to be read, and can be. -/
def isKeepable (source : String) : Bool := !isPlain source && (Template.compile source).toOption.isSome

/-- The templates whose programs some jobs use. -/
def used (jobs : List Job) : List String := (jobs.map (·.source)).filter isKeepable

/-! ### What is kept -/

/-- A renderer has the programs of so many of the templates that were used last, each as its template is read. -/
structure Has (r : Renderer) (bound : Nat) (recent : List String) : Prop where
  capacity : r.capacity = bound
  names : r.kept.map (·.1) = recent.take bound
  compiled : ∀ e ∈ r.kept, Template.compile e.1 = .ok e.2

theorem has_ofCapacity (capacity : Nat) : (ofCapacity capacity).Has capacity [] where
  capacity := rfl
  names := (List.take_nil).symm
  compiled := List.forall_mem_nil _

namespace Has

variable {r : Renderer} {bound : Nat} {recent : List String} (h : r.Has bound recent)

include h

theorem keep (hrecent : recent.Nodup) {source : String} {p : Program} (hp : Template.compile source = .ok p) :
    (r.keep source p).Has bound (touch recent source) where
  capacity := h.capacity
  names := by
    have hnames : (r.kept.filter (·.1 != source)).map (·.1) = (recent.take bound).filter (· != source) := by
      rw [← h.names, List.filter_map]
      rfl
    show (List.take r.capacity ((source, p) :: r.kept.filter (·.1 != source))).map (·.1) = _
    rw [List.map_take, List.map_cons, hnames, h.capacity]
    exact take_touch hrecent source bound
  compiled := by
    intro e he
    rcases List.mem_cons.1 (List.mem_of_mem_take he) with rfl | he
    · exact hp
    · exact h.compiled e (List.mem_filter.1 he).1

/-- A program is the one that its template is read as, kept or not, and is in front from then on. A template that cannot
be read leaves everything as it is. -/
theorem compile (hrecent : recent.Nodup) (source : String) :
    (r.compile source).1 = Template.compile source ∧
      (r.compile source).2.Has bound
        (if (Template.compile source).toOption.isSome then touch recent source else recent) := by
  unfold Renderer.compile
  split
  · rename_i p hentry
    have hp : Template.compile source = .ok p := h.compiled (source, p) (mem_of_entryOf? hentry)
    rw [hp]
    exact ⟨rfl, h.keep hrecent hp⟩
  · generalize hread : Template.compile source = read
    cases read with
    | ok p => exact ⟨rfl, h.keep hrecent hread⟩
    | error f => exact ⟨rfl, h⟩

/-- A job comes to what its template comes to, and only its template is used. -/
theorem perform (hrecent : recent.Nodup) (job : Job) :
    (r.perform job).1 = Template.render job.source job.data job.memory ∧
      (r.perform job).2.Has bound (if isKeepable job.source then touch recent job.source else recent) := by
  obtain ⟨hprogram, hkept⟩ := h.compile hrecent job.source
  unfold Renderer.perform Renderer.render Template.render isKeepable
  cases hplain : isPlain job.source with
  | true => exact ⟨rfl, h⟩
  | false =>
      rcases hcompile : r.compile job.source with ⟨f | p, after⟩
      all_goals
        rw [hcompile] at hprogram hkept
        simp only [Bool.false_eq_true, if_false, Bool.not_false, Bool.true_and, ← hprogram] at hkept ⊢
        exact ⟨trivial, hkept⟩

/-- Jobs come to what each of them comes to alone, and their templates are used in turn. -/
theorem performAll (hrecent : recent.Nodup) (jobs : List Job) :
    (r.performAll jobs).1 = jobs.map (fun job => Template.render job.source job.data job.memory) ∧
      (r.performAll jobs).2.Has bound ((used jobs).foldl touch recent) := by
  induction jobs generalizing r recent with
  | nil => exact ⟨rfl, h⟩
  | cons job jobs ih =>
      obtain ⟨houtcome, hafter⟩ := h.perform hrecent job
      have hused : (used (job :: jobs)).foldl touch recent =
          (used jobs).foldl touch (if isKeepable job.source then touch recent job.source else recent) := by
        rw [used, List.map_cons]
        cases hkeepable : isKeepable job.source with
        | true => rw [List.filter_cons_of_pos hkeepable]; rfl
        | false => rw [List.filter_cons_of_neg (by simp [hkeepable])]; rfl
      have hnodup : (if isKeepable job.source then touch recent job.source else recent).Nodup := by
        split
        · exact nodup_touch hrecent _
        · exact hrecent
      obtain ⟨houtcomes, hlast⟩ := ih hafter hnodup
      rw [hused]
      exact ⟨congrArg₂ List.cons houtcome houtcomes, hlast⟩

end Has

/-- On a renderer that keeps templates, however many, jobs come to what each of them comes to on a new renderer. After
any jobs it has the programs of the templates that were used last, as many as it keeps, and each of these programs is
the one that its template is read as; a template that cannot be read is never among them. -/
theorem performAll_ofCapacity (capacity other : Nat) (jobs : List Job) :
    ((ofCapacity capacity).performAll jobs).1 = jobs.map (fun job => ((ofCapacity other).perform job).1) ∧
      (∀ e ∈ ((ofCapacity capacity).performAll jobs).2.kept, Template.compile e.1 = .ok e.2) ∧
      ((ofCapacity capacity).performAll jobs).2.kept.map (·.1) = (latestFirst (used jobs)).take capacity := by
  obtain ⟨houtcomes, hafter⟩ := (has_ofCapacity capacity).performAll List.nodup_nil jobs
  have hnew (job : Job) : ((ofCapacity other).perform job).1 = Template.render job.source job.data job.memory :=
    ((has_ofCapacity other).perform List.nodup_nil job).1
  refine ⟨?_, hafter.compiled, hafter.names⟩
  rw [houtcomes]
  exact List.map_congr_left fun job _ => (hnew job).symm

end Renderer

end Courier.Template
