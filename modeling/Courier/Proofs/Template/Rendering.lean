import Courier.Proofs.Template.Lookups

/-! What a template of texts and names is rendered as: its texts as they are, and in the place of each tag the text of
what stands at the end of its key path. -/

namespace Courier.Template

open Courier.Language Courier.Language.Eval Courier.Text

/-- The text of what stands at the end of a key path in a document, and nothing where it leads nowhere. -/
def told (d : Document) (path : String) : Except Fault String := do
  return ((← d.walk (Path.segments path)).map Document.plainText).getD ""

/-- What a piece of a template is rendered as. -/
def Segment.rendered (d : Document) : Segment → Except Fault String
  | .text content => .ok (String.ofList content)
  | .tag name => told d (String.ofList name)

/-- A name that is looked up in a context alone: its first segment is a key of the context, or nothing that templates
can name without one. -/
def IsLookedUp (context : List (String × Document)) (name : List Char) : Prop :=
  ∀ first rest, Path.segments (String.ofList name) = first :: rest →
    (entryOf? first context).isSome ∨ (Context.builtin? first = none ∧ first ≠ lookupName)

/-! ### The text of a fragment -/

/-- The text of what stands at the end of a key path, or nothing where that is refused. -/
def textOf (d : Document) (name : List Char) : String := (told d (String.ofList name)).toOption.getD ""

theorem Fragment.text_before (texts : List Char → String) (content name : List Char) (f : Fragment) :
    (before content name f).text texts = String.ofList content ++ (texts name ++ f.text texts) := by
  have hcontent : dropTrailingList (· == '\x7b') content ++ content.rtakeWhile (· == '\x7b') = content :=
    List.rdropWhile_append_rtakeWhile
  simp only [before]
  split
  · conv_rhs => rw [← hcontent]
    simp [text, Hole.text, drop_dropTrailingList, String.ofList_append, String.append_assoc]
  · simp [text, Hole.text, String.append_assoc]

theorem exists_of_mapM_cons {d : Document} {s : Segment} {rest : List Segment} {texts : List String}
    (h : (s :: rest).mapM (Segment.rendered d) = .ok texts) :
    ∃ t ts, s.rendered d = .ok t ∧ rest.mapM (Segment.rendered d) = .ok ts ∧ texts = t :: ts := by
  rw [List.mapM_cons] at h
  cases ht : s.rendered d with
  | error f =>
      rw [ht] at h
      cases h
  | ok t =>
      cases hts : rest.mapM (Segment.rendered d) with
      | error f =>
          rw [ht, hts] at h
          cases h
      | ok ts =>
          rw [ht, hts] at h
          cases h
          exact ⟨t, ts, rfl, rfl, rfl⟩

/-- The text of the fragment of the pieces is put together of what the pieces are rendered as. -/
theorem Fragment.text_ofSegments {d : Document} {segments : List Segment} (h : Alternates segments)
    {texts : List String} (htexts : segments.mapM (Segment.rendered d) = .ok texts) :
    (ofSegments segments).text (textOf d) = String.join texts := by
  induction h generalizing texts with
  | last content =>
      cases htexts
      simp [ofSegments, text]
  | before content name _ ih =>
      obtain ⟨s, more, hcontent, hmore, rfl⟩ := exists_of_mapM_cons htexts
      obtain ⟨t, ts, ht, hts, rfl⟩ := exists_of_mapM_cons hmore
      cases hcontent
      have hname : textOf d name = t := by
        rw [textOf, show told d (String.ofList name) = .ok t from ht]
        rfl
      rw [ofSegments, text_before, hname, ih hts]
      simp

theorem exists_told_of_mem {d : Document} {segments : List Segment} {texts : List String}
    (htexts : segments.mapM (Segment.rendered d) = .ok texts) {name : List Char} (hname : name ∈ tagNames segments) :
    ∃ s, told d (String.ofList name) = .ok s := by
  induction segments generalizing texts with
  | nil => cases hname
  | cons s rest ih =>
      obtain ⟨t, ts, ht, hts, -⟩ := exists_of_mapM_cons htexts
      cases s with
      | text content => exact ih hts hname
      | tag other =>
          rcases List.mem_cons.1 hname with rfl | hname
          · exact ⟨t, ht⟩
          · exact ih hts hname

theorem Fragment.mem_tagNames {segments : List Segment} (h : Alternates segments) {p : List Char × Hole}
    (hp : p ∈ (ofSegments segments).holes) {name : List Char} (hname : p.2 = .lookup name) :
    name ∈ tagNames segments := by
  induction h with
  | last content => cases hp
  | before content other _ ih =>
      simp only [tagNames, List.mem_cons]
      simp only [ofSegments, before] at hp
      split at hp
      · rcases List.mem_cons.1 hp with rfl | hp
        · cases hname
        · rcases List.mem_cons.1 hp with rfl | hp
          · cases hname
            exact Or.inl rfl
          · exact Or.inr (ih hp)
      · rcases List.mem_cons.1 hp with rfl | hp
        · cases hname
          exact Or.inl rfl
        · exact Or.inr (ih hp)

/-! ### Look-ups -/

/-- A key path leads to the same place in a document and in a context that is made of its entries. -/
theorem endOf_findInTemplate {entries : List (String × Document)} {context : Context}
    (hrel : ∀ name, Option.Rel Value.IsMadeOf (entryOf? name entries) (entryOf? name context))
    (hjson : (Document.object entries).IsJson) {name : List Char} (hname : IsLookedUp entries name) {s : String}
    (hs : told (.object entries) (String.ofList name) = .ok s) :
    ∃ root path d, d.IsJson ∧ endOf context.findInTemplate (String.ofList name) = .ok (.ofDocument root path d) ∧
      s = d.plainText := by
  unfold told at hs
  unfold endOf
  cases hsegments : Path.segments (String.ofList name) with
  | nil => exact absurd hsegments (Path.segments_ne_nil _)
  | cons first rest =>
      simp only
      rw [hsegments, Document.walk_object_cons] at hs
      have hfirst := hrel first
      generalize hcontext : entryOf? first context = found at hfirst
      cases hentry : entryOf? first entries with
      | none =>
          rw [hentry] at hfirst hs
          cases hfirst
          have hopen := (hname first rest hsegments).resolve_left (by simp [hentry])
          have hdata : context.findInTemplate first = none := by
            simp [Context.findInTemplate, hcontext, hopen.1, hopen.2]
          cases hs
          exact ⟨"", [], .null, .null, by rw [hdata]; rfl, rfl⟩
      | some d =>
          rw [hentry] at hfirst hs
          obtain ⟨root, path, rfl⟩ : ∃ root path, found = some (.ofDocument root path d) := by
            cases hfirst with
            | some hv => exact hv.imp fun root hof => hof.imp fun path h => congrArg some h
          have hdata : context.findInTemplate first = some (.ofDocument root path d) := by
            simp [Context.findInTemplate, hcontext]
          rw [hdata]
          cases hwalk : d.walk rest with
          | error f =>
              simp only [hwalk] at hs
              cases hs
          | ok part =>
              have hd : d.IsJson := hjson.step (congrArg Except.ok hentry)
              obtain ⟨v, inner, e, hv, hvalue, he, htext⟩ := Value.exists_walk_ofDocument root path hd hwalk
              simp only [hwalk] at hs
              cases hs
              simp only
              rw [hv]
              exact ⟨root, inner, e, he, congrArg Except.ok hvalue, htext⟩

/-- The texts of the look-ups of a fragment are known from the document that it is rendered against. -/
theorem Fragment.isTold_ofSegments {entries : List (String × Document)} {context : Context}
    (hrel : ∀ name, Option.Rel Value.IsMadeOf (entryOf? name entries) (entryOf? name context))
    (hjson : (Document.object entries).IsJson) {segments : List Segment} (h : Alternates segments)
    (hnames : ∀ name ∈ tagNames segments, IsLookedUp entries name) {texts : List String}
    (htexts : segments.mapM (Segment.rendered (.object entries)) = .ok texts) :
    (ofSegments segments).IsTold context.findInTemplate (textOf (.object entries)) := by
  intro p hp name hname
  have hmem := mem_tagNames h hp hname
  obtain ⟨s, hs⟩ := exists_told_of_mem htexts hmem
  obtain ⟨root, path, d, hd, hend, htext⟩ := endOf_findInTemplate hrel hjson (hnames name hmem) hs
  refine ⟨root, path, d, hd, hend, ?_⟩
  rw [textOf, hs, ← htext]
  rfl

/-! ### Rendering -/

/-- A template of texts and names is rendered alike against every value whose context is made of the same entries. -/
theorem render_of_context {source : String} {data : Value} {context : Context} {entries : List (String × Document)}
    {texts : List String} (hcontext : Context.ofValue data = .ok context)
    (hrel : ∀ name, Option.Rel Value.IsMadeOf (entryOf? name entries) (entryOf? name context))
    (hlines : ∀ content, .text content ∈ cut source.toList → '\r' ∉ content) (hjson : (Document.object entries).IsJson)
    (hlookup : entryOf? lookupName entries = none)
    (hplain : ∀ content ∈ bareTexts (cut source.toList), Token.IsPlain content)
    (hnames : ∀ name ∈ tagNames (cut source.toList), (∀ c ∈ name, codePoint c ≤ 0xFFFF) ∧ IsLookedUp entries name)
    (htexts : (cut source.toList).mapM (Segment.rendered (.object entries)) = .ok texts) :
    render source data .empty = (.ok (String.join texts), .empty) := by
  unfold render
  split
  · rename_i hbrace
    have hnone : '\x7b' ∉ source.toList := by simpa [isPlain] using hbrace
    rw [cut_of_not_mem hnone] at htexts
    cases htexts
    simp
  · have halternates := alternates_cut source.toList
    have hcodes : ∀ name ∈ tagNames (cut source.toList), ∀ c ∈ name, codePoint c < 0x10000 :=
      fun name hname c hc => Nat.lt_succ_of_le ((hnames name hname).1 c hc)
    have hwritten := Fragment.written_ofSegments halternates
    have hcompile : compile source = .ok (Fragment.ofSegments (cut source.toList)).program :=
      compile_eq (Fragment.readable_ofSegments halternates hplain hcodes) (by rw [hwritten]; rfl)
        (by rw [hwritten]; exact return_not_mem_writeOut halternates hlines hcodes)
    have hdata : Context.findInTemplate context lookupName = some (.builtin .pathLookup) := by
      have hnone := hrel lookupName
      rw [hlookup] at hnone
      generalize hfound : entryOf? lookupName context = found at hnone
      cases hnone
      simp [Context.findInTemplate, hfound]
    have htold := Fragment.isTold_ofSegments hrel hjson halternates (fun name hname => (hnames name hname).2) htexts
    have hrun := Fragment.run_program _ hdata htold
    rw [Fragment.text_ofSegments halternates htexts] at hrun
    rw [hcompile]
    simp only [runOn, show Memory.empty.settle data = data from Value.settle_nil data, hcontext, hrun]
    rfl

end Courier.Template
