import Courier.Proofs.Language.Parsing
import Courier.Proofs.Template.Fragment
import Courier.Template.Render

/-! The program of a fragment: one statement that puts out the texts and the look-ups in turn. The braces in quotes are
known before it runs, and nothing in it is refused. -/

namespace Courier.Template

open Courier.Language Courier.Language.Grammar Courier.Text

/-- The look-up of a name as an expression. -/
def lookupCall (name : List Char) : Expression :=
  .call (.name lookupName) [.positional (.constant (.newText (String.ofList name)))]

/-- The piece of a text, unless it is empty. -/
def textPiece (cs : List Char) : List Piece := if cs.isEmpty then [] else [.text (String.ofList cs)]

namespace Hole

/-- What is put out, as it is read. -/
def expression : Hole → Expression
  | quoted cs => .constant (.newText (String.ofList cs))
  | lookup name => lookupCall name

/-- What is put out, as it is once the program is ready. -/
def readyPiece : Hole → Piece
  | quoted cs => .text (String.ofList cs)
  | lookup name => .value (lookupCall name)

end Hole

namespace Fragment

def pieces (f : Fragment) : List Piece :=
  f.holes.flatMap (fun (content, o) => textPiece content ++ [.value o.expression]) ++ textPiece f.last

def readyPieces (f : Fragment) : List Piece :=
  f.holes.flatMap (fun (content, o) => textPiece content ++ [o.readyPiece]) ++ textPiece f.last

end Fragment

/-! ### Reading -/

section

variable {fuel : Nat} {opened : Open} {stops : List String} {collected : List Piece} {result : List Statement}
  {next : PlacedToken} {rest after : List PlacedToken}

theorem parses_statements_text {s : String} {line : Nat} (hnext : IsRead next.token)
    (h : Parses (statements fuel opened stops (collected ++ [.text s])) (next :: rest) result after) :
    Parses (statements (fuel + 1) opened stops collected) (⟨.text s, line⟩ :: next :: rest) result after := by
  rw [statements]
  exact parses_current.bind ((parses_advance hnext).bind h)

theorem parses_statements_ending {line : Nat} :
    Parses (statements (fuel + 1) opened stops collected) (⟨.ending, line⟩ :: rest) (flush collected)
      (⟨.ending, line⟩ :: rest) := by
  rw [statements]
  exact parses_current.bind (.pure _ _)

theorem parses_statements_output {e : Expression} {first : PlacedToken} {tokens : List PlacedToken} {line close : Nat}
    (hfirst : IsRead first.token) (hnext : IsRead next.token)
    (he : Parses (tuple fuel outputStyle) (first :: tokens) e (⟨.variableEnd, close⟩ :: next :: rest))
    (h : Parses (statements fuel opened stops (collected ++ [.value e])) (next :: rest) result after) :
    Parses (statements (fuel + 1) opened stops collected) (⟨.variableBegin, line⟩ :: first :: tokens) result after := by
  rw [statements]
  refine parses_current.bind ((parses_advance hfirst).bind (he.bind ?_))
  exact (parses_expect (t := ⟨.variableEnd, close⟩) rfl hnext).bind h

end

theorem Hole.tokens_isRead (o : Hole) : ∀ token ∈ o.tokens, IsRead token := by
  cases o <;> simp [Hole.tokens, IsRead]

theorem isRead_of_mem_ofText {cs : List Char} : ∀ token ∈ Token.ofText cs, IsRead token := by
  unfold Token.ofText
  split <;> simp [IsRead]

/-- Statements are read whatever the fuel is, as long as it exceeds the tokens by the depth of a look-up. -/
def ParsesAll (collected : List Piece) (tokens : List PlacedToken) (result : List Statement)
    (after : List PlacedToken) : Prop :=
  ∀ fuel opened stops, tokens.length + 26 < fuel → Parses (statements fuel opened stops collected) tokens result after

/-- A hole is read up to what stands behind it. -/
theorem parsesAll_of_hole (o : Hole) {tokens : List PlacedToken} {token : Token} {more : List Token}
    (h : tokens.map (·.token) = o.tokens ++ token :: more) (htoken : IsRead token) :
    ∃ rest, rest.map (·.token) = token :: more ∧ ∀ collected result after,
      ParsesAll (collected ++ [.value o.expression]) rest result after → ParsesAll collected tokens result after := by
  cases o with
  | quoted cs =>
      obtain ⟨line, _, rfl, hinner⟩ := exists_of_map_eq_cons h
      obtain ⟨inner, _, rfl, hclose⟩ := exists_of_map_eq_cons hinner
      obtain ⟨close, _, rfl, hmore⟩ := exists_of_map_eq_cons hclose
      obtain ⟨next, rest, rfl, -⟩ := exists_of_map_eq_cons hmore
      refine ⟨_, hmore, fun collected result after hall fuel opened stops hfuel => ?_⟩
      obtain ⟨fuel, rfl⟩ : ∃ n, fuel = n + 27 := ⟨fuel - 27, by omega⟩
      exact parses_statements_output trivial htoken (parses_tuple rfl (parses_string .variableEnd _ _))
        (hall _ _ _ (by simp only [List.length_cons] at hfuel ⊢; omega))
  | lookup name =>
      obtain ⟨line, _, rfl, hstart⟩ := exists_of_map_eq_cons h
      obtain ⟨start, _, rfl, hopening⟩ := exists_of_map_eq_cons hstart
      obtain ⟨opening, _, rfl, hinner⟩ := exists_of_map_eq_cons hopening
      obtain ⟨inner, _, rfl, hclosing⟩ := exists_of_map_eq_cons hinner
      obtain ⟨closing, _, rfl, hclose⟩ := exists_of_map_eq_cons hclosing
      obtain ⟨close, _, rfl, hmore⟩ := exists_of_map_eq_cons hclose
      obtain ⟨next, rest, rfl, -⟩ := exists_of_map_eq_cons hmore
      refine ⟨_, hmore, fun collected result after hall fuel opened stops hfuel => ?_⟩
      obtain ⟨fuel, rfl⟩ : ∃ n, fuel = n + 27 := ⟨fuel - 27, by omega⟩
      exact parses_statements_output trivial htoken
        (parses_tuple rfl (parses_call .variableEnd (by decide) (by decide) _ _ _ _ _))
        (hall _ _ _ (by simp only [List.length_cons] at hfuel ⊢; omega))

/-- A text is read up to what stands behind it. -/
theorem parsesAll_of_text (cs : List Char) {tokens : List PlacedToken} {token : Token} {more : List Token}
    (h : tokens.map (·.token) = Token.ofText cs ++ token :: more) (htoken : IsRead token) :
    ∃ rest, rest.map (·.token) = token :: more ∧ ∀ collected result after,
      ParsesAll (collected ++ textPiece cs) rest result after → ParsesAll collected tokens result after := by
  unfold Token.ofText at h
  unfold textPiece
  split at h
  · refine ⟨tokens, h, fun collected result after hall => ?_⟩
    rwa [if_pos ‹_›, List.append_nil] at hall
  · obtain ⟨line, _, rfl, hmore⟩ := exists_of_map_eq_cons h
    obtain ⟨next, rest, rfl, -⟩ := exists_of_map_eq_cons hmore
    refine ⟨_, hmore, fun collected result after hall fuel opened stops hfuel => ?_⟩
    rw [if_neg ‹_›] at hall
    obtain ⟨fuel, rfl⟩ : ∃ n, fuel = n + 1 := ⟨fuel - 1, by omega⟩
    exact parses_statements_text htoken (hall _ _ _ (by simp only [List.length_cons] at hfuel ⊢; omega))

namespace Fragment

/-- There is a token in front of the end of a fragment, or it is the end. -/
theorem exists_token (f : Fragment) : ∃ token more, f.tokens ++ [.ending] = token :: more ∧ IsRead token := by
  have hread : ∀ token ∈ f.tokens ++ [.ending], IsRead token := by
    intro token h
    simp only [tokens, List.mem_append, List.mem_flatMap, List.mem_singleton] at h
    rcases h with (⟨p, -, h | h⟩ | h) | rfl
    · exact isRead_of_mem_ofText token h
    · exact p.2.tokens_isRead token h
    · exact isRead_of_mem_ofText token h
    · trivial
  obtain ⟨token, more, h⟩ := List.exists_cons_of_ne_nil (l := f.tokens ++ [Token.ending]) (by simp)
  exact ⟨token, more, h, hread token (by simp [h])⟩

/-- A fragment is read as one statement, which puts out its pieces. -/
theorem parsesAll (f : Fragment) {tokens : List PlacedToken} (h : tokens.map (·.token) = f.tokens ++ [.ending])
    (collected : List Piece) : ∃ after, ParsesAll collected tokens (flush (collected ++ f.pieces)) after := by
  obtain ⟨holes, last⟩ := f
  induction holes generalizing tokens collected with
  | nil =>
      have h : tokens.map (·.token) = Token.ofText last ++ .ending :: [] := by simpa [Fragment.tokens] using h
      obtain ⟨rest, hrest, hall⟩ := parsesAll_of_text last h trivial
      obtain ⟨line, _, rfl, hnil⟩ := exists_of_map_eq_cons hrest
      obtain rfl := List.map_eq_nil_iff.1 hnil
      refine ⟨_, hall collected _ [⟨.ending, line⟩] fun fuel opened stops hfuel => ?_⟩
      obtain ⟨fuel, rfl⟩ : ∃ n, fuel = n + 1 := ⟨fuel - 1, by omega⟩
      simpa [pieces] using parses_statements_ending
  | cons p holes ih =>
      obtain ⟨content, o⟩ := p
      obtain ⟨token, more, hmore, hread⟩ := exists_token ⟨holes, last⟩
      have hfirst : ∃ t ts, o.tokens ++ token :: more = t :: ts ∧ IsRead t := by
        cases o <;> exact ⟨_, _, rfl, trivial⟩
      obtain ⟨t, ts, hts, ht⟩ := hfirst
      have h' : tokens.map (·.token) = Token.ofText content ++ (o.tokens ++ token :: more) := by
        rw [h, ← hmore]
        simp [Fragment.tokens]
      rw [hts] at h'
      obtain ⟨behindText, hbehind, htext⟩ := parsesAll_of_text content h' ht
      rw [← hts] at hbehind
      obtain ⟨behind, hrest, houtput⟩ := parsesAll_of_hole o hbehind hread
      obtain ⟨after, hafter⟩ := ih (collected ++ textPiece content ++ [.value o.expression]) (hrest.trans hmore.symm)
      refine ⟨after, htext _ _ _ (houtput _ _ _ ?_)⟩
      simpa [pieces] using hafter

theorem ofStatements_flush (pieces : List Piece) : Program.ofStatements (flush pieces) = .ok ⟨flush pieces, []⟩ := by
  unfold flush
  split <;> rfl

/-- The statements of a fragment. -/
theorem parseTemplate_written {f : Fragment} (h : f.Readable) (hlines : '\r' ∉ f.written) :
    parseTemplate (String.ofList f.written) = .ok ⟨flush f.pieces, []⟩ := by
  have htokens : (Token.readTemplate (String.ofList f.written)).map (·.token) = f.tokens ++ [.ending] := by
    unfold Token.readTemplate
    simp only [String.toList_ofList, unifyLines_of_not_mem hlines]
    exact map_readFrom h rfl (Nat.lt_succ_self _)
  obtain ⟨token, more, hcons, hread⟩ := exists_token f
  obtain ⟨after, hall⟩ := parsesAll f htokens []
  have hparse : StateT.run _ _ = _ := hall (fuelFor (Token.readTemplate (String.ofList f.written))) ⟨[], []⟩ []
    (by unfold fuelFor; omega)
  have hstart : start (statements (fuelFor (Token.readTemplate (String.ofList f.written))) ⟨[], []⟩ [] [])
      (Token.readTemplate (String.ofList f.written)) = .ok (flush f.pieces) := by
    unfold start
    rw [hparse]
    rfl
  rw [hcons] at htokens
  obtain ⟨line, rest, hrest, -⟩ := exists_of_map_eq_cons htokens
  unfold parseTemplate
  simp only [hstart]
  rw [hrest]
  cases token with
  | fault f => exact hread.elim
  | _ => exact ofStatements_flush _

end Fragment

/-! ### What is known before the program runs -/

theorem knownPiece_hole (o : Hole) :
    Constant.knownPiece (.outermost true) (.value o.expression) = o.readyPiece := by
  cases o with
  | quoted cs => rfl
  | lookup name => rfl

/-- Pieces that are ready to run: texts and look-ups. -/
inductive IsReady : Piece → Prop
  | text (s : String) : IsReady (.text s)
  | lookup (name : List Char) : IsReady (.value (lookupCall name))

theorem IsReady.readyPiece {p : Piece} (h : IsReady p) : Constant.readyPiece (.outermost true) false p = .ok p := by
  cases h with
  | text s => rfl
  | lookup name => rfl

theorem isReady_of_mem_textPiece {cs : List Char} : ∀ p ∈ textPiece cs, IsReady p := by
  unfold textPiece
  split
  · exact fun p hp => absurd hp List.not_mem_nil
  · exact fun p hp => List.mem_singleton.1 hp ▸ .text _

theorem knownPiece_textPiece (cs : List Char) :
    (textPiece cs).map (Constant.knownPiece (.outermost true)) = textPiece cs := by
  unfold textPiece
  split <;> rfl

namespace Fragment

/-- The braces in quotes are known, and the look-ups are not. -/
theorem map_knownPiece (f : Fragment) : f.pieces.map (Constant.knownPiece (.outermost true)) = f.readyPieces := by
  simp only [pieces, readyPieces, List.map_append, List.map_flatMap, knownPiece_textPiece, List.map_cons, List.map_nil,
    knownPiece_hole]

theorem isReady_of_mem (f : Fragment) : ∀ p ∈ f.readyPieces, IsReady p := by
  intro p hp
  simp only [readyPieces, List.mem_append, List.mem_flatMap, List.mem_singleton] at hp
  rcases hp with ⟨⟨content, o⟩, -, hp | rfl⟩ | hp
  · exact isReady_of_mem_textPiece p hp
  · cases o with
    | quoted cs => exact .text _
    | lookup name => exact .lookup name
  · exact isReady_of_mem_textPiece p hp

/-- The program of a fragment, ready to run. -/
def program (f : Fragment) : Program := ⟨flush f.readyPieces, []⟩

end Fragment

theorem mapM_readyPiece {ps : List Piece} (h : ∀ p ∈ ps, IsReady p) :
    ps.mapM (Constant.readyPiece (.outermost true) false) = .ok ps := by
  induction ps with
  | nil => rfl
  | cons p ps ih =>
      rw [List.mapM_cons, (h p List.mem_cons_self).readyPiece, ih fun q hq => h q (List.mem_cons_of_mem _ hq)]
      rfl

theorem Fragment.ready_flush (f : Fragment) : Program.ready ⟨flush f.pieces, []⟩ = .ok f.program := by
  have hempty : f.readyPieces.isEmpty = f.pieces.isEmpty := by
    rw [← map_knownPiece, List.isEmpty_map]
  unfold Program.ready program flush
  rw [hempty]
  cases f.pieces.isEmpty with
  | true => rfl
  | false =>
      simp only [Bool.false_eq_true, if_false, Constant.readyStatements, Constant.readyStatement, map_knownPiece,
        mapM_readyPiece f.isReady_of_mem]
      rfl

/-! ### The listing -/

/-- No line of a listing is refused, wherever it starts. -/
def Lists (l : Listing Unit) : Prop := ∀ lines, ∃ n, l.run lines = .ok ((), n)

theorem Lists.bind {l next : Listing Unit} (h : Lists l) (h' : Lists next) : Lists (l >>= fun _ => next) := by
  intro lines
  obtain ⟨between, hl⟩ := h lines
  obtain ⟨n, hnext⟩ := h' between
  exact ⟨n, by rw [StateT.run_bind, hl]; exact hnext⟩

theorem lists_skip (n : Nat) : Lists (Listing.skip n) := fun lines => ⟨lines + n, rfl⟩

theorem lists_line_lookupCall (name : List Char) : Lists (Listing.line [lookupCall name]) :=
  fun lines => ⟨lines + 1, rfl⟩

theorem lists_pieces {ps : List Piece} (h : ∀ p ∈ ps, IsReady p) (afterText : Bool) :
    Lists (Listing.pieces afterText ps) := by
  induction ps generalizing afterText with
  | nil => cases afterText <;> exact fun lines => ⟨lines, rfl⟩
  | cons p ps ih =>
      have hrest := ih fun q hq => h q (List.mem_cons_of_mem _ hq)
      cases h p List.mem_cons_self with
      | text s =>
          cases afterText with
          | true => exact hrest true
          | false => exact (lists_skip 1).bind (hrest true)
      | lookup name =>
          cases afterText with
          | true => exact (lists_line_lookupCall name).bind (hrest false)
          | false => exact (lists_line_lookupCall name).bind (hrest false)

theorem lists_statements {ps : List Piece} (h : ∀ p ∈ ps, IsReady p) (known : List String) :
    Lists (Listing.statements ⟨.root, false, known, 0⟩ (flush ps)) := by
  unfold flush
  split
  · exact fun lines => ⟨lines, rfl⟩
  · rw [Listing.statements, Listing.statements, Listing.statement]
    simp only [Bool.false_eq_true, if_false, bind_pure_unit]
    exact lists_pieces h false

/-- A program without blocks is not refused if none of its lines is. -/
theorem checkListing_of_lists {statements : List Statement}
    (h : ∀ known, Lists (Listing.statements ⟨.root, false, known, 0⟩ statements)) :
    Program.checkListing ⟨statements, []⟩ = .ok () := by
  have hhead (parameters : List String) (symbols : Symbols) (body : List Statement) :
      Lists (Listing.head 9 parameters symbols body) :=
    (lists_skip _).bind ((lists_skip _).bind (lists_skip _))
  have hall : Lists (Listing.program ⟨statements, []⟩) :=
    ((hhead _ _ _).bind ((lists_skip 1).bind (h _))).bind fun lines => ⟨lines, rfl⟩
  obtain ⟨n, hn⟩ := hall 0
  unfold Program.checkListing
  rw [hn]
  rfl

theorem Fragment.checkListing (f : Fragment) : f.program.checkListing = .ok () :=
  checkListing_of_lists (lists_statements f.isReady_of_mem)

/-! ### The whole -/

/-- The program of a template whose written form is a fragment, whatever ends its lines. -/
theorem compile_of_lines {source : String} {f : Fragment} (h : f.Readable)
    (hlines : unifyLines (expand source).toList = f.written) : compile source = .ok f.program := by
  have hreturn : '\r' ∉ f.written := hlines ▸ return_not_mem_unifyLines _
  have htokens : Token.readTemplate (expand source) = Token.readTemplate (String.ofList f.written) := by
    unfold Token.readTemplate
    rw [String.toList_ofList, unifyLines_of_not_mem hreturn, hlines]
  have hparse : parseTemplate (expand source) = .ok ⟨flush f.pieces, []⟩ := by
    rw [← Fragment.parseTemplate_written h hreturn]
    unfold parseTemplate
    rw [htokens]
  have hready := f.ready_flush
  have hlisting := f.checkListing
  unfold compile
  rw [hparse]
  simp only [bind, Except.bind, hready, hlisting]
  rfl

theorem compile_eq {source : String} {f : Fragment} (h : f.Readable) (hexpand : expand source = String.ofList f.written)
    (hlines : '\r' ∉ f.written) : compile source = .ok f.program := by
  refine compile_of_lines h ?_
  rw [hexpand, String.toList_ofList, unifyLines_of_not_mem hlines]

end Courier.Template
