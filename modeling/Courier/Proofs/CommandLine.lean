import Mathlib
import Courier.CommandLine.Run
import Courier.Proofs.Failures

/-! How the command for a call ends where the call fails. It reports the errors of the library and of the network, all
but one: that no token could be obtained is not among the errors that it expects. -/

namespace Courier.CommandLine

open Courier.Language Courier.Exchange

/-- The command that arguments ask for. -/
def commandOf (settings : Settings) (arguments : List String) : Option Command :=
  match readInvocation settings.logLevel false arguments with
  | .work invocation =>
    if !logLevels.contains (Text.upper invocation.logLevel) then none
    else match readCommand invocation.name invocation.arguments with
      | .work command => some command
      | _ => none
  | _ => none

/-- How work on a command ends, whether early or not. -/
def endOf (work : Work Ending) (network : Network) : Ending :=
  match (comesTo work network).1 with
  | .ok ending | .error ending => ending

/-- A command reports an error: it prints the wording of it, and the exit code says that there is no result. -/
structure Ending.Reports (ending : Ending) (e : Error) : Prop where
  printed : ∃ before after, ending = .refused ("❌ " ++ before ++ e.message ++ after)
  exitCode : ending.exitCode = 1

/-- An end that leaves no error of the library uncaught. -/
def Ending.IsCaught (ending : Ending) : Prop := ∀ e, ending = .raised e → e.isOwn = false

/-- The files of a call hold a source, the data of the call and its rules. -/
structure Holds (files : Files) (settings : Settings) (source config : String) (data : Option String) (e : Engine)
    (given : Value) (rules : Document) : Prop where
  source : ∃ d, load files source = pure d ∧ Engine.ofDocument d settings = .ok e
  data : loadData files data = pure given
  config : load files config = pure rules

variable {files : Files} {settings : Settings} {arguments : List String} {source config : String}
  {data : Option String} {e : Engine} {given : Value} {rules : Document} {network : Network}

theorem run_of_commandOf {command : Command} (h : commandOf settings arguments = some command) :
    (run arguments files settings network).1 = endOf (command.run files settings) network := by
  unfold commandOf at h
  split at h
  · rename_i invocation hinvocation
    split at h
    · cases h
    · rename_i hlevel
      split at h
      · rename_i c hc
        cases h
        unfold run
        rw [hinvocation]
        simp only [hlevel, hc]
        rfl
      · cases h
  · cases h

/-! ### Files -/

theorem orRaised_ok {α : Type} (a : α) : orRaised (.ok a) = pure a := rfl

theorem isCaught_refused (reason : String) : (Ending.refused reason).IsCaught := nofun

theorem isCaught_raised {f : Error} (h : f.isOwn = false) : (Ending.raised f).IsCaught := by
  rintro _ ⟨⟩
  exact h

/-- Where a file cannot be read, its name is to blame. -/
theorem fails_read (files : Files) (name : String) : Fails (fun f => f.isOwn = false) (files.read name) := by
  unfold Files.read
  dsimp only
  split
  · exact fails_ok _
  · split_ifs
    · exact fails_error rfl
    · exact fails_error rfl
    · exact fails_ok _

theorem load_of_read {name text : String} {d : Document} (h : files.read name = .ok (some text))
    (hd : Json.read text = .ok d) : load files name = pure d := by
  unfold load
  rw [h]
  simp only [orRaised_ok, pure_bind, hd]

/-- A file is read without the network, and what is wrong with it is no error of the library. -/
theorem exists_load (files : Files) (name : String) :
    (∃ d, load files name = pure d) ∨ ∃ ending, load files name = throw ending ∧ ending.IsCaught := by
  cases hfile : files.read name with
  | error f =>
      refine .inr ⟨.raised f, ?_, isCaught_raised (fails_read files name f hfile)⟩
      rw [load, hfile]
      rfl
  | ok content =>
      cases content with
      | none =>
          refine .inr ⟨_, ?_, isCaught_refused ("❌ File not found: " ++ plainName name)⟩
          rw [load, hfile]
          rfl
      | some text =>
          cases hd : Json.read text with
          | ok d => exact .inl ⟨d, load_of_read hfile hd⟩
          | error cause =>
              unfold load
              simp only [hfile, orRaised_ok, pure_bind, hd]
              cases cause with
              | syntaxProblem what line column position => exact .inr ⟨_, rfl, isCaught_refused _⟩
              | _ => exact .inr ⟨_, rfl, isCaught_raised rfl⟩

theorem exists_loadData (files : Files) (name : Option String) :
    (∃ v, loadData files name = pure v) ∨ ∃ ending, loadData files name = throw ending ∧ ending.IsCaught := by
  cases name with
  | none => exact .inl ⟨_, rfl⟩
  | some name =>
      rcases exists_load files name with ⟨d, hd⟩ | ⟨ending, hending, hcaught⟩
      · refine .inl ⟨.ofDocument "data" [] d, ?_⟩
        simp only [loadData, hd, pure_bind]
      · refine .inr ⟨ending, ?_, hcaught⟩
        simp only [loadData, hending]
        rfl

/-! ### Calls -/

/-- A call on files that hold what it needs ends as the error of the engine does, or is printed. -/
theorem endOf_call (h : Holds files settings source config data e given rules) :
    endOf (call files settings source config data) network =
      match e.resultOf given rules .empty network with
      | .error f => ofCallError f
      | .ok output => endOf (printedValue output) (e.networkOf given rules .empty network) := by
  obtain ⟨⟨d, hd, he⟩, hdata, hconfig⟩ := h
  unfold call Engine.resultOf Engine.networkOf
  simp only [hd, hdata, hconfig, he, orRaised_ok, pure_bind]
  show endOf (match (comesTo (e.request given rules) (.empty, network)).1 with
    | .error f => pure (ofCallError f)
    | .ok output => printedValue output) (comesTo (e.request given rules) (.empty, network)).2.2 = _
  cases (comesTo (e.request given rules) (.empty, network)).1 <;> rfl

/-- Where a document is no source, its form is to blame. -/
theorem fails_ofDocument (d : Document) (settings : Settings) :
    Fails (fun f => f.isOwn = false) (Engine.ofDocument d settings) := by
  unfold Engine.ofDocument
  cases (DataSource.read d).toExcept with
  | error problems => exact fails_error rfl
  | ok source => exact fails_ok _

/-- On other files it ends before the engine is there. -/
theorem isCaught_of_not_holds (h : ∀ e given rules, ¬Holds files settings source config data e given rules) :
    (endOf (call files settings source config data) network).IsCaught := by
  unfold call
  rcases exists_load files source with ⟨d, hd⟩ | ⟨ending, hending, hcaught⟩
  · simp only [hd, pure_bind]
    cases he : Engine.ofDocument d settings with
    | error f =>
        exact isCaught_raised (fails_ofDocument d settings f he)
    | ok e =>
        simp only [orRaised_ok, pure_bind]
        rcases exists_loadData files data with ⟨given, hdata⟩ | ⟨ending, hending, hcaught⟩
        · rcases exists_load files config with ⟨rules, hconfig⟩ | ⟨ending, hending, hcaught⟩
          · exact absurd ⟨⟨d, hd, he⟩, hdata, hconfig⟩ (h e given rules)
          · simp only [hdata, hending, pure_bind]
            exact hcaught
        · rw [hending]
          exact hcaught
  · rw [hending]
    exact hcaught

/-- What is printed is no error of the library. -/
theorem isCaught_printedValue (v : Value) : (endOf (printedValue v) network).IsCaught := by
  unfold printedValue
  generalize ((do (← v.withTexts).toDocument) : Except Fault Document) = r
  cases r with
  | error cause => exact isCaught_raised rfl
  | ok d => exact nofun

theorem ofCallError_of_isTransport {f : Error} (h : f.isTransport) :
    ofCallError f = .refused ("❌ Network error: " ++ f.message) := by
  unfold ofCallError
  split
  · cases h
  · rw [if_pos h]

/-- The errors of the library and of the network are reported, but for that of a token. -/
theorem reports_ofCallError {f : Error} (h : f.isOwn ∨ f.isTransport) (htoken : f.lacksToken = false) :
    (ofCallError f).Reports f := by
  rcases h with hown | htransport
  · cases f with
    | refused response => exact ⟨⟨"", ": " ++ response.body, by simp [ofCallError, String.append_assoc]⟩, rfl⟩
    | malformedUrl url => exact ⟨⟨"Error: ", "", by simp [ofCallError, ofKnownError, Error.isTransport]⟩, rfl⟩
    | unknownEndpoint name => exact ⟨⟨"Error: ", "", by simp [ofCallError, ofKnownError, Error.isTransport]⟩, rfl⟩
    | noToken status url => cases htoken
    | _ => cases hown
  · rw [ofCallError_of_isTransport htransport]
    exact ⟨⟨"Network error: ", "", by simp⟩, rfl⟩

theorem ofCallError_of_lacksToken {f : Error} (h : f.lacksToken) : ofCallError f = .raised f := by
  cases f <;> first | rfl | cases h

/-- An error that is raised is the one of the call. -/
theorem eq_of_ofCallError_raised {f g : Error} (h : ofCallError f = .raised g) : f = g := by
  unfold ofCallError ofKnownError at h
  split at h
  · cases h
  · split at h
    · cases h
    · split at h <;> cases h
      rfl

/-- How a call ends where the engine ends with an error of the library or of the network. -/
theorem endOf_call_of_error {f : Error} (h : Holds files settings source config data e given rules)
    (hresult : e.resultOf given rules .empty network = .error f) (hkind : f.isOwn ∨ f.isTransport) :
    if f.lacksToken then endOf (call files settings source config data) network = .raised f
    else (endOf (call files settings source config data) network).Reports f := by
  rw [endOf_call h, hresult]
  split
  · rename_i htoken
    exact ofCallError_of_lacksToken htoken
  · rename_i htoken
    exact reports_ofCallError hkind (by simpa using htoken)

/-- An error of the library that is left uncaught is that of a token. -/
theorem exists_of_endOf_call {f : Error} (h : endOf (call files settings source config data) network = .raised f)
    (hown : f.isOwn) :
    ∃ e given rules c status, Holds files settings source config data e given rules ∧
      e.resultOf given rules .empty network = .error f ∧ e.tokenCredentials? = some c ∧ f = .noToken status c.url := by
  have huncaught {ending : Ending} (hcaught : ending.IsCaught) (hending : ending = .raised f) : False := by
    rw [hcaught f hending] at hown
    cases hown
  by_cases hholds : ∃ e given rules, Holds files settings source config data e given rules
  · obtain ⟨e, given, rules, hholds⟩ := hholds
    have hend := (endOf_call hholds).symm.trans h
    cases hresult : e.resultOf given rules .empty network with
    | ok output =>
        rw [hresult] at hend
        exact (huncaught (isCaught_printedValue output) hend).elim
    | error g =>
        rw [hresult] at hend
        obtain rfl := eq_of_ofCallError_raised hend
        have hraises := e.raises_request given rules (.empty, network) g _ (Prod.ext hresult rfl)
        rcases hraises with hother | ⟨c, status, hc, heq⟩
        · obtain ⟨before, after, hreport⟩ := (reports_ofCallError (.inl hown) hother).printed
          cases hreport.symm.trans hend
        · exact ⟨e, given, rules, c, status, hholds, hresult, hc, heq⟩
  · refine (huncaught (isCaught_of_not_holds fun e given rules h => ?_) h).elim
    exact hholds ⟨e, given, rules, h⟩

/-- The command for a call, where the engine ends with an error of the library or of the network: the error is reported,
unless it is that there is no token. That one is the only error of the library that the command leaves uncaught, and it
does so only where the source asks for tokens. -/
theorem run_call (h : commandOf settings arguments = some (.call source config data)) (network : Network) :
    (∀ e given rules f, Holds files settings source config data e given rules →
      e.resultOf given rules .empty network = .error f → f.isOwn ∨ f.isTransport →
      if f.lacksToken then (run arguments files settings network).1 = .raised f
      else (run arguments files settings network).1.Reports f) ∧
    ∀ f, (run arguments files settings network).1 = .raised f → f.isOwn →
      ∃ e given rules c status, Holds files settings source config data e given rules ∧
        e.resultOf given rules .empty network = .error f ∧ e.tokenCredentials? = some c ∧ f = .noToken status c.url := by
  rw [run_of_commandOf h]
  exact ⟨fun e given rules f => endOf_call_of_error, fun f => exists_of_endOf_call⟩

/-- An endpoint that the source does not have. -/
theorem run_call_unknown :
    commandOf .standard ["call", "s", "c"] = some (.call "s" "c" none) ∧
      (run ["call", "s", "c"] [("s", "\x7b\x7d"), ("c", "\x7b\"endpoint\":\"e\"\x7d")] .standard ⟨[], []⟩).1.Reports
        (.unknownEndpoint "e") := by
  have hcall : isOption "call" = false := by decide +kernel
  have hs : isOption "s" = false := by decide +kernel
  have hc : isOption "c" = false := by decide +kernel
  have hinvocation : readInvocation "INFO" false ["call", "s", "c"] = .work ⟨"INFO", .call, ["s", "c"]⟩ := by
    simp [readInvocation, hcall, ofCommand, CommandName.words]
  have hcommand : readCommand .call ["s", "c"] = .work (.call "s" "c" none) := by
    simp [readCommand, takeOptions, hs, hc]
  have hlevel : logLevels.contains (Text.upper "INFO") = true := by decide +kernel
  have hasked : commandOf .standard ["call", "s", "c"] = some (.call "s" "c" none) := by
    have hstandard : Settings.standard.logLevel = "INFO" := rfl
    rw [commandOf, hstandard, hinvocation]
    simp only [hlevel, hcommand]
    rfl
  have hsourceText : Files.read [("s", "\x7b\x7d"), ("c", "\x7b\"endpoint\":\"e\"\x7d")] "s" =
      .ok (some "\x7b\x7d") := by cbv
  have hconfigText : Files.read [("s", "\x7b\x7d"), ("c", "\x7b\"endpoint\":\"e\"\x7d")] "c" =
      .ok (some "\x7b\"endpoint\":\"e\"\x7d") := by cbv
  have hsource : load [("s", "\x7b\x7d"), ("c", "\x7b\"endpoint\":\"e\"\x7d")] "s" = pure (.object []) :=
    load_of_read hsourceText (by cbv)
  have hconfig : load [("s", "\x7b\x7d"), ("c", "\x7b\"endpoint\":\"e\"\x7d")] "c" =
      pure (.object [("endpoint", .text "e")]) :=
    load_of_read hconfigText (by cbv)
  have hresult : Engine.resultOf ⟨⟨[], none, none⟩, .standard⟩ (.ofDocument "data" [] (.object []))
      (.object [("endpoint", .text "e")]) .empty ⟨[], []⟩ = .error (.unknownEndpoint "e") := by rfl
  exact ⟨hasked, (run_call hasked ⟨[], []⟩).1 _ _ _ _ ⟨⟨_, hsource, rfl⟩, rfl, hconfig⟩ hresult (.inl rfl)⟩

end Courier.CommandLine
