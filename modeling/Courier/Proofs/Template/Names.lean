import Courier.Proofs.Formula.Agreement
import Courier.Proofs.Text.Halves

/-! Tags of any name. Tags are written out with their names in quotes, and a name is read back with a character beyond
U+FFFF in halves, which no key has. A name that the environment brings along is found where the data has no such key.
Data with a key of the name of the look-up takes the look-up away, so that no tag is left that works. -/

namespace Courier

open Courier.Language Courier.Text

namespace Document

/-- Nothing that the keys lead to before the last one is a list. -/
def MeetsNoList (d : Document) (keys : List String) : Prop :=
  ∀ front back items, keys = front ++ back → back ≠ [] → d.under? front ≠ some (.list items)

/-- No key of an object that keys lead to has the half of a character. -/
def HasWholeKeys (d : Document) : Prop :=
  ∀ front entries, d.under? front = some (.object entries) →
    ∀ e ∈ entries, ∀ c ∈ e.1.toList, surrogateOf? c = none

theorem LeadsThroughObjects.meetsNoList {d : Document} {keys : List String} (h : d.LeadsThroughObjects keys) :
    d.MeetsNoList keys := by
  intro front back items hkeys hback hpart
  obtain ⟨entries, heq⟩ := h front back _ hkeys hback hpart
  cases heq

section

variable {entries : List (String × Document)} {key : String} {part : Document}

theorem under?_object_cons (hkey : entryOf? key entries = some part) (front : List String) :
    (Document.object entries).under? (key :: front) = part.under? front := by
  show (entryOf? key entries).bind (under? front) = _
  rw [hkey]
  rfl

theorem MeetsNoList.under {keys : List String} (h : (Document.object entries).MeetsNoList (key :: keys))
    (hkey : entryOf? key entries = some part) : part.MeetsNoList keys := by
  intro front back items hkeys hback
  rw [← under?_object_cons hkey]
  exact h (key :: front) back items (by rw [hkeys, List.cons_append]) hback

theorem hasWholeKeys_int (i : Int) : (Document.int i).HasWholeKeys := by
  intro front entries hfront
  cases front <;> cases hfront

theorem hasWholeKeys_object (hkeys : ∀ e ∈ entries, ∀ c ∈ e.1.toList, surrogateOf? c = none)
    (h : ∀ e ∈ entries, e.2.HasWholeKeys) : (Document.object entries).HasWholeKeys := by
  intro front inner hfront
  cases front with
  | nil =>
      cases hfront
      exact hkeys
  | cons key front =>
      obtain ⟨part, hpart, hrest⟩ := Option.bind_eq_some_iff.1 hfront
      exact h (key, part) (mem_of_entryOf? hpart) front inner hrest

theorem HasWholeKeys.under (h : (Document.object entries).HasWholeKeys) (hkey : entryOf? key entries = some part) :
    part.HasWholeKeys := by
  intro front inner hfront
  rw [← under?_object_cons hkey] at hfront
  exact h _ inner hfront

end

/-- Where no list is met, segments lead where keys lead. -/
theorem MeetsNoList.walk {d : Document} {keys : List String} (h : d.MeetsNoList keys) :
    d.walk keys = .ok (d.under? keys) := by
  induction keys generalizing d with
  | nil => rfl
  | cons key keys ih =>
      cases d with
      | list items => exact absurd rfl (h [] (key :: keys) items rfl (List.cons_ne_nil _ _))
      | object entries =>
          rw [walk_object_cons]
          cases hkey : entryOf? key entries with
          | none =>
              show _ = Except.ok ((entryOf? key entries).bind (under? keys))
              rw [hkey]
              rfl
          | some part =>
              rw [under?_object_cons hkey]
              exact ih (h.under hkey)
      | _ => rfl

/-- Keys that were read back lead nowhere if one of them has a character beyond U+FFFF. -/
theorem MeetsNoList.walk_halved {d : Document} {keys : List String} (h : d.MeetsNoList keys) (hwhole : d.HasWholeKeys)
    (hwide : ∃ key ∈ keys, ∃ c ∈ key.toList, ¬ codePoint c < 0x10000) :
    d.walk (keys.map fun key => String.ofList (halved key.toList)) = .ok none := by
  induction keys generalizing d with
  | nil =>
      obtain ⟨key, hkey, -⟩ := hwide
      exact absurd hkey List.not_mem_nil
  | cons key keys ih =>
      rw [List.map_cons]
      cases d with
      | list items => exact absurd rfl (h [] (key :: keys) items rfl (List.cons_ne_nil _ _))
      | object entries =>
          rw [walk_object_cons]
          by_cases hkey : ∀ c ∈ key.toList, codePoint c < 0x10000
          · rw [halved_of_lt hkey, String.ofList_toList]
            cases hentry : entryOf? key entries with
            | none => rfl
            | some part =>
                obtain ⟨other, hother, c, hc, hcode⟩ := hwide
                have hmem : other ∈ keys := by
                  rcases List.mem_cons.1 hother with rfl | hmem
                  · exact absurd (hkey c hc) hcode
                  · exact hmem
                exact ih (h.under hentry) (hwhole.under hentry) ⟨other, hmem, c, hc, hcode⟩
          · -- a half in the key that is looked for, and none in the keys that are there
            obtain ⟨c, hc, hcode⟩ : ∃ c ∈ key.toList, ¬ codePoint c < 0x10000 := by simpa using hkey
            obtain ⟨half, hhalf, hsome⟩ := exists_mem_halved hc hcode
            cases hentry : entryOf? (String.ofList (halved key.toList)) entries with
            | none => rfl
            | some part =>
                have hno := hwhole [] entries rfl _ (mem_of_entryOf? hentry) half (by rwa [String.toList_ofList])
                rw [hno] at hsome
                cases hsome
      | _ => rfl

end Document

namespace Language.Path

theorem splitOn_append {stop : Char} {cs : List Char} (h : stop ∉ cs) (rest : List Char) :
    (cs ++ rest).splitOn stop = (rest.splitOn stop).modifyHead (cs ++ ·) := by
  induction cs with
  | nil =>
      rw [List.nil_append]
      cases rest.splitOn stop <;> rfl
  | cons c cs ih =>
      have hc : c ≠ stop := fun heq => h (heq ▸ List.mem_cons_self)
      rw [List.cons_append, List.splitOn_cons_eq_if_modifyHead, beq_eq_false_iff_ne.2 hc,
        ih fun hin => h (List.mem_cons_of_mem _ hin)]
      simp [List.modifyHead_modifyHead, Function.comp_def]

/-- A point is one code unit, and no half of a character is a point. -/
theorem point_not_mem_halves {c : Char} (h : c ≠ '.') : '.' ∉ halves c := by
  unfold halves
  split
  · simpa using Ne.symm h
  · rename_i hc
    obtain ⟨⟨hlow, hhigh⟩, hlow', hhigh'⟩ := splitSurrogates_range hc
    have hne {code : Nat} (h : 0xD800 ≤ code) (h' : code < 0xE000) : '.' ≠ charOfEscape code := by
      intro heq
      have hcode := codePoint_charOfEscape h h'
      rw [← heq, show codePoint '.' = 46 by decide] at hcode
      omega
    simp [hne hlow hhigh, hne hlow' hhigh']

/-- A path is read back segment by segment. -/
theorem segments_halved (cs : List Char) : segments (String.ofList (halved cs)) =
    (segments (String.ofList cs)).map fun segment => String.ofList (halved segment.toList) := by
  have hsplit : (halved cs).splitOn '.' = (cs.splitOn '.').map halved := by
    induction cs with
    | nil => rfl
    | cons c cs ih =>
        have hcons : halved (c :: cs) = halves c ++ halved cs := rfl
        rw [hcons, List.splitOn_cons_eq_if_modifyHead]
        by_cases hc : c = '.'
        · subst hc
          rw [show halves '.' = ['.'] by decide, List.singleton_append, List.splitOn_cons_eq_if_modifyHead, ih]
          rfl
        · rw [splitOn_append (point_not_mem_halves hc), ih, if_neg (by simpa using hc)]
          cases cs.splitOn '.' <;> rfl
  simp only [segments, splitBy, String.toList_ofList, hsplit, List.map_map]
  simp [Function.comp_def]

/-- A character beyond U+FFFF in a path is in one of its segments. -/
theorem exists_mem_segments {path : String} (h : ∃ c ∈ path.toList, ¬ codePoint c < 0x10000) :
    ∃ segment ∈ segments path, ∃ c ∈ segment.toList, ¬ codePoint c < 0x10000 := by
  by_contra hnone
  -- the segments are read back as they are, and so is the path, which has no such character then
  have hsame : segments (String.ofList (halved path.toList)) = segments path := by
    rw [segments_halved, String.ofList_toList]
    refine (List.map_congr_left fun segment hsegment => ?_).trans (List.map_id _)
    rw [halved_of_lt, String.ofList_toList, id]
    intro c hc
    by_contra hcode
    exact hnone ⟨segment, hsegment, c, hc, hcode⟩
  obtain ⟨c, hc, hcode⟩ := h
  rw [← segments_injective hsame, String.toList_ofList] at hc
  exact hcode (codePoint_of_mem_halved c hc)

end Language.Path

namespace Template

open Courier.Language.Eval

/-- What the environment brings along under a name. -/
def global? (name : String) : Option Builtin :=
  if name == lookupName then some .pathLookup else Context.builtin? name

theorem findInTemplate_eq (context : Context) (name : String) :
    context.findInTemplate name = (entryOf? name context).or ((global? name).map .builtin) := by
  unfold Context.findInTemplate global?
  cases entryOf? name context with
  | some v => rfl
  | none =>
      show (if _ then _ else _) = _
      split <;> simp

/-! ### The program of a tag -/

/-- The fragment of a single tag. -/
def tagFragment (name : List Char) : Fragment := ⟨[([], .lookup name)], []⟩

/-- A name is written out as it is read back. -/
theorem lookupOf_halved (name : List Char) : lookupOf (halved name) = lookupOf name := by
  simp only [lookupOf, toList_asciiJsonString, String.toList_ofList, asciiJsonBody_halved]

/-- A tag is compiled to the look-up of its name as it is read back. -/
theorem compile_tag {source name : String} (hsource : IsTag source name) :
    compile source = .ok (tagFragment (halved name.toList)).program := by
  have hreadable : (tagFragment (halved name.toList)).Readable := by
    refine ⟨?_, ?_, Token.isPlain_of_not_mem List.not_mem_nil⟩
    · intro p hp
      rw [List.mem_singleton.1 hp]
      exact ⟨Token.isPlain_of_not_mem List.not_mem_nil, by simp⟩
    · intro p hp
      rw [List.mem_singleton.1 hp]
      exact codePoint_of_mem_halved
  have hwritten : (tagFragment (halved name.toList)).written = lookupOf (halved name.toList) := by
    simp [tagFragment, Fragment.written, Hole.written]
  have hout : writeOut (cut source.toList) = lookupOf name.toList := by
    rw [hsource]
    simp [writeOut, guarded, dropTrailingList_nil]
  have hexpand : expand source = String.ofList (tagFragment (halved name.toList)).written := by
    rw [hwritten, lookupOf_halved, expand, hout]
  refine compile_eq hreadable hexpand ?_
  rw [hwritten]
  exact return_not_mem_hole (o := .lookup (halved name.toList)) codePoint_of_mem_halved

/-- A value that is put out as a text wherever nothing has happened before. -/
def IsWritten (v : Value) (s : String) : Prop :=
  ∀ setting run, IsFresh setting run → outcome (written v) setting run = (.ok s, run)

theorem isWritten_ofDocument {d : Document} (h : d.IsJson) (root : String) (path : List Nat) :
    IsWritten (.ofDocument root path d) d.plainText := by
  intro setting run hfresh
  rw [outcome_written_ofDocument hfresh, Value.finalized_ofDocument h]

theorem isWritten_builtin (b : Builtin) : IsWritten (.builtin b) b.shown := by
  intro setting run hfresh
  have hshown : outcome (shownForm (.builtin b)) setting run = (.ok (.builtin b), run) :=
    hfresh.isCalm.outcome_settled (.builtin b)
  unfold written
  rw [outcome_bind_of_ok _ _ _ hshown, outcome_bind_of_ok _ _ _ hfresh.outcome_escapes]
  rfl

/-- The statement of a tag puts out what its name is looked up as. -/
theorem outcome_tag {name : List Char} {setting : Setting} {run : Run} (hfresh : IsFresh setting run) {v : Value}
    {s : String} (hend : endOf setting.data (String.ofList name) = .ok v) (hv : IsWritten v s) :
    outcome (collected (executeAll (tagFragment name).program.statements)) setting run = (.ok s, run) := by
  have hlookup := outcome_lookupCall hfresh name
  rw [hend] at hlookup
  have hnil : Writes setting run [] "" := writes_nil
  obtain ⟨o, ho, htext, hstray⟩ := hnil.value hlookup (hv _ _ hfresh) false
  have hall : outcome (executeAll (tagFragment name).program.statements) setting run = (.ok (o.append .none), run) := by
    show outcome (executeAll [.output [.value (lookupCall name)]]) setting run = _
    rw [executeAll, execute, outcome_bind_of_ok _ _ _ ho, executeAll]
    rfl
  unfold collected
  rw [outcome_bind_of_ok _ _ _ hall, Output.joined, Output.append_none, hstray, htext, String.append_empty]
  rfl

/-- The program of a tag comes to the text of what its name is looked up as. -/
theorem run_tag {name : List Char} {data : String → Option Value} {v : Value} {s : String}
    (hdata : data lookupName = some (.builtin .pathLookup)) (hend : endOf data (String.ofList name) = .ok v)
    (hv : IsWritten v s) : (tagFragment name).program.run data .empty = (.ok s, .empty) := by
  have hstep (run : Run) (hfresh : IsFresh (atStart true (expressionsOfAll (tagFragment name).program.statements)
      (tagFragment name).program.blocks data Memory.empty.changes) run) := outcome_tag hfresh hend hv
  obtain ⟨after, hafter, hchanges⟩ := outcome_within_root (tagFragment name).isLookupOnly rfl rfl rfl hdata hstep
  unfold Program.run
  rw [(tagFragment name).selfVariables, run_eq, hafter]
  simp only [handedOn, hchanges]
  rfl

/-- A document is nothing that can be called. -/
theorem outcome_call_ofDocument {setting : Setting} {run : Run} (h : IsCalm setting run) (root : String)
    (path : List Nat) (d : Document) (a : Arguments) :
    outcome (call (.ofDocument root path d) a) setting run = (.error (.notCallable d.typeName), run) := by
  unfold call
  rw [outcome_bind_of_ok _ _ _ (h.outcome_present _)]
  cases d <;> rfl

/-- Where data stands under the name of the look-up, no tag can be followed. -/
theorem outcome_tag_of_document {name : List Char} {setting : Setting} {run : Run} (h : IsCalm setting run)
    {root : String} {path : List Nat} {d : Document}
    (hname : (variableOf? lookupName run.scopes).getD (setting.data lookupName) = some (.ofDocument root path d)) :
    outcome (collected (executeAll (tagFragment name).program.statements)) setting run =
      (.error (.notCallable d.typeName), run) := by
  obtain ⟨i, hcall⟩ := h.exists_outcome_lookupCall hname name
  have hlookup : outcome (evaluate (lookupCall name)) setting run = (.error (.notCallable d.typeName), run) :=
    hcall.trans (outcome_call_ofDocument h root path d _)
  have hpieces : outcome (writePieces false [.value (lookupCall name)]) setting run =
      (.error (.notCallable d.typeName), run) := by
    rw [writePieces, outcome_bind, hlookup]
  have hall : outcome (executeAll (tagFragment name).program.statements) setting run =
      (.error (.notCallable d.typeName), run) := by
    show outcome (executeAll [.output [.value (lookupCall name)]]) setting run = _
    rw [executeAll, execute, outcome_bind, hpieces]
  unfold collected
  rw [outcome_bind, hall]

theorem run_tag_of_document (name : List Char) {data : String → Option Value} {root : String} {path : List Nat}
    {d : Document} (hdata : data lookupName = some (.ofDocument root path d)) :
    (tagFragment name).program.run data .empty = (.error (.notCallable d.typeName), .empty) := by
  have hstep (scope : Scope) (_ : scope.role = .root) (hscope : scope.find? lookupName = some (data lookupName)) :
      outcome (collected (executeAll (tagFragment name).program.statements))
        (atStart true (expressionsOfAll (tagFragment name).program.statements) (tagFragment name).program.blocks data
          Memory.empty.changes) { Run.start with scopes := [scope] } =
        (.error (.notCallable d.typeName), { Run.start with scopes := [scope] }) := by
    have hname : (variableOf? lookupName [scope]).getD (data lookupName) = some (.ofDocument root path d) := by
      rw [variableOf?, List.findSome?_cons, hscope]
      exact hdata
    exact outcome_tag_of_document ⟨rfl, rfl, rfl, rfl, rfl⟩ hname
  obtain ⟨after, hafter, hchanges⟩ :=
    @outcome_within_reading _
      (atStart true (expressionsOfAll (tagFragment name).program.statements) (tagFragment name).program.blocks data
        Memory.empty.changes)
      (collected (executeAll (tagFragment name).program.statements)) lookupName _ rfl hstep
  have hsymbols : Symbols.afterAll (fun _ => false) .empty (tagFragment name).program.statements =
      ⟨[(lookupName, .resolved)], []⟩ := rfl
  unfold Program.run
  rw [(tagFragment name).selfVariables, run_eq, hsymbols, hafter]
  simp only [handedOn, hchanges]
  rfl

/-! ### Rendering -/

theorem not_isPlain_of_isTag {source name : String} (hsource : IsTag source name) : isPlain source = false := by
  by_contra hplain
  have hnone : '\x7b' ∉ source.toList := by simpa [isPlain] using hplain
  rw [IsTag, cut_of_not_mem hnone] at hsource
  simp at hsource

/-- A tag is rendered as what its program comes to. -/
theorem render_of_run_tag {source name : String} (hsource : IsTag source name) {data : Value} {context : Context}
    (hcontext : Context.ofValue data = .ok context) {result : Except Fault String}
    (hrun : (tagFragment (halved name.toList)).program.run context.findInTemplate .empty = (result, .empty)) :
    render source data .empty = (result.mapError (.ofTemplate source), .empty) := by
  unfold render
  rw [not_isPlain_of_isTag hsource, compile_tag hsource]
  simp only [runOn, show Memory.empty.settle data = data from Value.settle_nil data, hcontext, hrun]
  rfl

/-- What the environment brings along has names of one segment, in ASCII. -/
theorem segments_of_global {name : String} {b : Builtin} (h : global? name = some b) :
    Path.segments name = [name] ∧ ∀ c ∈ name.toList, c.toNat < 128 := by
  unfold global? at h
  split at h
  · rename_i heq
    rw [beq_iff_eq.1 heq]
    exact ⟨Path.segments_of_not_mem (by decide), List.forall_iff_forall_mem.1 (by decide)⟩
  · unfold Context.builtin? at h
    split at h
    case h_7 => cases h
    all_goals exact ⟨Path.segments_of_not_mem (by decide), List.forall_iff_forall_mem.1 (by decide)⟩

section

variable {entries : List (String × Document)} {context : Context}
  (hrel : ∀ name, Option.Rel Value.IsMadeOf (entryOf? name entries) (entryOf? name context))

include hrel

theorem findInTemplate_of_none {name : String} (hnone : entryOf? name entries = none) :
    context.findInTemplate name = (global? name).map .builtin := by
  have hname := hrel name
  rw [hnone] at hname
  generalize hfound : entryOf? name context = found at hname
  cases hname
  rw [findInTemplate_eq, hfound]
  rfl

/-- A path ends in the text that it has in the data, unless it is a name that only the environment has. -/
theorem exists_endOf (hjson : (Document.object entries).IsJson) {path : String}
    (hpath : global? path = none ∨ (entryOf? path entries).isSome) {s : String}
    (hs : told (.object entries) path = .ok s) :
    ∃ v, endOf context.findInTemplate path = .ok v ∧ IsWritten v s := by
  by_cases hname : IsLookedUp entries path.toList
  · obtain ⟨root, inner, d, hd, hend, rfl⟩ :=
      endOf_findInTemplate hrel hjson hname (s := s) (by rwa [String.ofList_toList])
    rw [String.ofList_toList] at hend
    exact ⟨_, hend, isWritten_ofDocument hd root inner⟩
  · -- the first segment is a name of the environment alone, and nothing stands below it
    simp only [IsLookedUp, String.ofList_toList, not_forall, not_or, Option.not_isSome_iff_eq_none] at hname
    obtain ⟨first, rest, hsegments, hfirst, hglobal⟩ := hname
    obtain ⟨b, hb⟩ : ∃ b, global? first = some b := by
      unfold global?
      split
      · exact ⟨_, rfl⟩
      · rename_i hne
        exact Option.ne_none_iff_exists'.1 fun hnone => hglobal ⟨hnone, by simpa using hne⟩
    have hdata : context.findInTemplate first = some (.builtin b) := by
      rw [findInTemplate_of_none hrel hfirst, hb]
      rfl
    cases rest with
    | nil =>
        obtain rfl := Path.eq_of_segments hsegments
        rw [hb, hfirst] at hpath
        simp at hpath
    | cons next rest =>
        unfold told at hs
        rw [hsegments, Document.walk_object_cons, hfirst] at hs
        cases hs
        refine ⟨.none, ?_, isWritten_ofDocument .null "" []⟩
        unfold endOf
        rw [hsegments]
        simp only [hdata]
        rfl

end

end Template

end Courier
