import Mathlib.Data.List.Forall2
import RollPad.Host.Step
import RollPad.Session

/-!
Colours on the console. Two runs of a session that ask for different colours go side by side:
handlers for the console may differ in their colours, handlers for files in nothing, and the hosts
are the same but for these handlers and the text on the console (`Host.SameButColors`). A record
reaches both hosts the same, for a handler passes on what it has found (`Handler.snd_handle`), so
every operation keeps them alike and gives the same answer. The main statement is
`colors_change_console_only`.
-/

namespace RollPad

open Log

/-! ### The same but for colours -/

/-- Two handlers that are the same, or show different colours on the console. -/
inductive Log.Handler.SameButColor (f : Handler) : Handler → Prop where
  | same : SameButColor f f
  | onConsole (hsink : f.sink = .console) (colored : Bool) : SameButColor f { f with colored }

/-- Two hosts that are the same but for the text on the console and the colours that handlers show
there. -/
structure Host.SameButColors (h h' : Host) : Prop where
  around : h'.around = h.around
  environment : h'.environment = h.environment
  files : h'.files = h.files
  settings : h'.settings = h.settings
  generation : h'.generation = h.generation
  rootLevel : h'.rootLevel = h.rootLevel
  calls : h'.calls = h.calls
  handlers : List.Forall₂ Handler.SameButColor h.handlers h'.handlers

/-- The same answer, on hosts that are the same but for colours. -/
structure SameReply {α : Type} (p q : α × Host) : Prop where
  answer : q.1 = p.1
  host : p.2.SameButColors q.2

/-- Two steps that are the same, or set up the log with different colours. -/
inductive HostStep.SameButColor : HostStep → HostStep → Prop where
  | same (s : HostStep) : SameButColor s s
  | setUpLog (request : LogRequest) (colored : Bool) :
      SameButColor (.setUpLog request) (.setUpLog { request with colored })

theorem SameReply.exists_eq {α : Type} {p q : α × Host} (a : SameReply p q) :
    ∃ answer h h', p = (answer, h) ∧ q = (answer, h') ∧ h.SameButColors h' :=
  ⟨p.1, p.2, q.2, rfl, Prod.ext a.answer rfl, a.host⟩

namespace Host

theorem SameButColors.refl (h : Host) : h.SameButColors h where
  around := rfl
  environment := rfl
  files := rfl
  settings := rfl
  generation := rfl
  rootLevel := rfl
  calls := rfl
  handlers := List.forall₂_same.2 fun _ _ => .same

/-- A handler for the console changes nothing else, whether it writes, fails or passes. -/
theorem exists_deliver_eq {f : Handler} (hsink : f.sink = .console) (r : Record) (h : Host) :
    ∃ console, deliver r h f = { h with console } := by
  unfold deliver
  cases f.outcome r with
  | passed => exact ⟨h.console, rfl⟩
  | line text =>
    refine ⟨h.console ++ text, ?_⟩
    rw [hsink]
    rfl
  | failed => exact ⟨h.console ++ h.around.report f r, rfl⟩

namespace SameButColors

variable {h h' : Host}

/-! ### Writing to the log -/

theorem write (hsame : h.SameButColors h') (text : String) (sink : Sink) :
    (h.write text sink).SameButColors (h'.write text sink) := by
  cases sink with
  | console => exact { hsame with }
  | file name => exact { hsame with files := congrArg (·.append name text) hsame.files }

theorem deliver (hsame : h.SameButColors h') {f f' : Handler} (hf : f.SameButColor f')
    (r : Record) : (Host.deliver r h f).SameButColors (Host.deliver r h' f') := by
  cases hf with
  | same =>
    unfold Host.deliver
    cases f.outcome r with
    | passed => exact hsame
    | line text => exact hsame.write text f.sink
    | failed =>
      dsimp only
      rw [hsame.around]
      exact hsame.write _ .console
  | onConsole hsink colored =>
    have hsink' : Handler.sink { f with colored } = .console := hsink
    obtain ⟨console, hdeliver⟩ := exists_deliver_eq hsink r h
    obtain ⟨console', hdeliver'⟩ := exists_deliver_eq hsink' r h'
    rw [hdeliver, hdeliver']
    exact { hsame with }

/-- All handlers are given the same record, for each of them has passed it on as it was. -/
theorem deliverAll {handlers handlers' : List Handler}
    (hhandlers : List.Forall₂ Handler.SameButColor handlers handlers')
    (hsame : h.SameButColors h') (r : Record) :
    (Host.deliverAll handlers r h).SameButColors (Host.deliverAll handlers' r h') := by
  induction hhandlers generalizing h h' with
  | nil => exact hsame
  | cons hf _ ih =>
    rw [deliverAll_cons, deliverAll_cons]
    exact ih (hsame.deliver hf r)

/-- The last resort has no colours, and takes the place of handlers in both hosts or in none. -/
theorem receivers (hsame : h.SameButColors h') :
    List.Forall₂ Handler.SameButColor h.receivers h'.receivers := by
  have hempty : h'.handlers.isEmpty = h.handlers.isEmpty := by
    rw [Bool.eq_iff_iff, List.isEmpty_iff_length_eq_zero, List.isEmpty_iff_length_eq_zero,
      hsame.handlers.length_eq]
  rw [Host.receivers, Host.receivers, hempty, hsame.around]
  split
  · exact List.forall₂_same.2 fun _ _ => .same
  · exact hsame.handlers

theorem emit (hsame : h.SameButColors h') (r : Record) :
    (h.emit r).SameButColors (h'.emit r) := by
  have hstamp : h'.stamp = h.stamp := by rw [Host.stamp, Host.stamp, hsame.around, hsame.calls]
  have henabled : h'.isEnabled r = h.isEnabled r := by
    rw [isEnabled, isEnabled, hsame.rootLevel]
  have hcalled : Host.SameButColors { h with calls := h.calls + 1 }
      { h' with calls := h'.calls + 1 } :=
    { hsame with calls := congrArg (· + 1) hsame.calls }
  rw [Host.emit, Host.emit, henabled, hstamp]
  split
  · exact hcalled.deliverAll hsame.receivers _
  · exact hcalled

theorem emitAll (hsame : h.SameButColors h') (rs : List Record) :
    (h.emitAll rs).SameButColors (h'.emitAll rs) := by
  induction rs generalizing h h' with
  | nil => exact hsame
  | cons r rs ih => exact ih (hsame.emit r)

/-! ### Settings -/

theorem withEnvironment (hsame : h.SameButColors h') (environment : NameTable) :
    Host.SameButColors { h with environment } { h' with environment } :=
  { hsame with environment := rfl }

theorem loadBindings (hsame : h.SameButColors h') (name : String) :
    SameReply (h.loadBindings name) (h'.loadBindings name) := by
  have hload : h'.load name = h.load name := by
    rw [load, load, hsame.around, hsame.environment, fileContent?_congr hsame.around hsame.files]
  rw [Host.loadBindings, Host.loadBindings, hload]
  exact ⟨rfl, (hsame.emitAll _).withEnvironment _⟩

theorem loadFile (hsame : h.SameButColors h') (name shown : String) (line : Nat) :
    SameReply (h.loadFile name shown line) (h'.loadFile name shown line) := by
  obtain ⟨answer, k, k', hload, hload', hloaded⟩ := (hsame.loadBindings name).exists_eq
  rw [Host.loadFile, Host.loadFile, hload, hload']
  cases answer with
  | error e => exact ⟨rfl, hloaded⟩
  | ok done => exact ⟨rfl, hloaded.emit _⟩

theorem loadChosen (hsame : h.SameButColors h') (file : Option String) :
    SameReply (h.loadChosen file) (h'.loadChosen file) := by
  rw [Host.loadChosen, Host.loadChosen, hasFile_congr hsame.around hsame.files,
    absoluteName_congr hsame.around]
  cases file.filter (· ≠ "") with
  | some name => exact hsame.loadFile name name _
  | none =>
    dsimp only
    split
    · exact hsame.loadFile _ _ _
    · exact ⟨rfl, hsame⟩

theorem readSettings (hsame : h.SameButColors h') (file : Option String) :
    SameReply (h.readSettings file) (h'.readSettings file) := by
  obtain ⟨answer, k, k', hload, hload', hloaded⟩ := (hsame.loadChosen file).exists_eq
  rw [Host.readSettings, Host.readSettings, hload, hload']
  cases answer with
  | error e => exact ⟨rfl, hloaded⟩
  | ok done =>
    dsimp only
    rw [hloaded.environment]
    exact ⟨rfl, hloaded.emitAll _⟩

theorem useSettings (hsame : h.SameButColors h') : SameReply h.useSettings h'.useSettings := by
  rw [Host.useSettings, Host.useSettings, hsame.settings]
  cases h.settings with
  | some settings => exact ⟨rfl, hsame⟩
  | none =>
    obtain ⟨answer, k, k', hread, hread', hafter⟩ := (hsame.readSettings none).exists_eq
    rw [hread, hread']
    cases answer with
    | error e => exact ⟨rfl, hafter⟩
    | ok settings =>
      exact ⟨rfl, { hafter with settings := rfl, generation := congrArg (· + 1) hafter.generation }⟩

theorem setVariable (hsame : h.SameButColors h') (name : String) (value : Option String)
    (drop : Bool) : SameReply (h.setVariable name value drop) (h'.setVariable name value drop) := by
  rw [Host.setVariable, Host.setVariable, hsame.environment]
  cases value.bind (VariableError.of? name) with
  | some e => exact ⟨rfl, hsame⟩
  | none =>
    cases drop with
    | false => exact ⟨rfl, hsame.withEnvironment _⟩
    | true => exact ⟨rfl, { hsame.withEnvironment _ with settings := rfl }⟩

/-! ### Texts -/

theorem limitsFor (hsame : h.SameButColors h') (request : LimitRequest) :
    SameReply (h.limitsFor request) (h'.limitsFor request) := by
  rw [Host.limitsFor, Host.limitsFor]
  cases request.complete? with
  | some limits => exact ⟨rfl, hsame⟩
  | none =>
    obtain ⟨answer, k, k', huse, huse', hafter⟩ := hsame.useSettings.exists_eq
    rw [huse, huse']
    cases answer <;> exact ⟨rfl, hafter⟩

theorem readTerms (hsame : h.SameButColors h') (text : Option String) (request : LimitRequest) :
    SameReply (h.readTerms text request) (h'.readTerms text request) := by
  rw [Host.readTerms, Host.readTerms]
  cases text.filter (!Text.isBlankText ·) with
  | none => exact ⟨rfl, hsame⟩
  | some text =>
    obtain ⟨answer, k, k', hlimits, hlimits', hafter⟩ := (hsame.limitsFor request).exists_eq
    dsimp only
    rw [hlimits, hlimits']
    cases answer <;> exact ⟨rfl, hafter⟩

theorem parse (hsame : h.SameButColors h') (text : Option String) (request : LimitRequest) :
    SameReply (h.parse text request) (h'.parse text request) := by
  obtain ⟨answer, k, k', hread, hread', hafter⟩ := (hsame.readTerms text request).exists_eq
  rw [Host.parse, Host.parse, hread, hread']
  rcases answer with e | e | terms
  · exact ⟨rfl, hafter⟩
  · exact ⟨rfl, hafter.emit _⟩
  · exact ⟨rfl, hafter⟩

theorem rollText (hsame : h.SameButColors h') (text : Option String) (source : Source) :
    ∃ answer source' k k', RollPad.rollText text source h = (answer, source', k) ∧
      RollPad.rollText text source h' = (answer, source', k') ∧ k.SameButColors k' := by
  obtain ⟨answer, k, k', hread, hread', hafter⟩ := (hsame.readTerms text {}).exists_eq
  rw [RollPad.rollText, RollPad.rollText, hread, hread']
  rcases answer with e | e | terms
  · exact ⟨_, _, k, k', rfl, rfl, hafter⟩
  · exact ⟨_, _, k, k', rfl, rfl, hafter⟩
  · dsimp only
    rcases rollTerms terms source with ⟨e | rolls, source'⟩
    · exact ⟨_, _, k, k', rfl, rfl, hafter⟩
    · exact ⟨_, _, _, _, rfl, rfl, hafter.emit _⟩

/-! ### Set-ups -/

theorem addHandler (hsame : h.SameButColors h') {f f' : Handler} (hf : f.SameButColor f') :
    (h.addHandler f).SameButColors (h'.addHandler f') := by
  have hhandlers : List.Forall₂ Handler.SameButColor (h.handlers ++ [f]) (h'.handlers ++ [f']) :=
    List.rel_append hsame.handlers (.cons hf .nil)
  exact { hsame with handlers := hhandlers }

theorem openLog (hsame : h.SameButColors h') (name : String) (pattern : Pattern) :
    SameReply (h.openLog name pattern) (h'.openLog name pattern) := by
  rw [Host.openLog, Host.openLog, logPlace_congr hsame.around hsame.files,
    absoluteName_congr hsame.around]
  split
  · exact ⟨rfl, hsame⟩
  · cases h.logPlace name with
    | file file =>
      have hopen : Host.SameButColors { h with files := h.files.append file "" }
          { h' with files := h'.files.append file "" } :=
        { hsame with files := congrArg (·.append file "") hsame.files }
      exact ⟨rfl, hopen.addHandler .same⟩
    | _ => exact ⟨rfl, hsame⟩

/-- Only the handler for the console is told of the colours. -/
theorem setUpHandlers (hsame : h.SameButColors h') (request : LogRequest) (colored : Bool)
    (level : Int) (file : Option String) :
    SameReply (h.setUpHandlers request level file)
      (h'.setUpHandlers { request with colored } level file) := by
  unfold Host.setUpHandlers
  dsimp only
  cases Pattern.ofString? (request.pattern.getD Pattern.standard) with
  | none => exact ⟨rfl, hsame⟩
  | some pattern =>
    have hconsole := hsame.addHandler
      (.onConsole (f := ⟨.console, level, pattern, request.colored⟩) rfl colored)
    cases file with
    | none => exact ⟨rfl, hconsole⟩
    | some name => exact hconsole.openLog name pattern

theorem setUpLog (hsame : h.SameButColors h') (request : LogRequest) (colored : Bool) :
    SameReply (h.setUpLog request) (h'.setUpLog { request with colored }) := by
  have hrestart : ∀ level, (h.restartLog level).SameButColors (h'.restartLog level) := by
    intro level
    exact { hsame with rootLevel := rfl, handlers := .nil }
  unfold Host.setUpLog
  dsimp only
  cases levelOfName request.level with
  | error thing =>
    dsimp only
    split
    · exact ⟨rfl, hrestart debug⟩
    · exact ⟨rfl, hsame⟩
  | ok level => exact (hrestart _).setUpHandlers request colored level _

theorem start (hsame : h.SameButColors h') : SameReply h.start h'.start := by
  obtain ⟨answer, k, k', huse, huse', hafter⟩ := hsame.useSettings.exists_eq
  rw [Host.start, Host.start, huse, huse']
  cases answer with
  | error e => exact ⟨rfl, hafter⟩
  | ok settings =>
    obtain ⟨done, l, l', hset, hset', hend⟩ := (hafter.setUpLog
      { level := settings.logLevel, file := settings.logFile } true).exists_eq
    dsimp only
    rw [hset, hset']
    cases done <;> exact ⟨rfl, hend⟩

/-! ### Files and messages from outside -/

theorem writeFile (hsame : h.SameButColors h') (name content : String) :
    (h.writeFile name content).SameButColors (h'.writeFile name content) := by
  rw [Host.writeFile, Host.writeFile, place_congr hsame.around hsame.files]
  cases h.place name with
  | file file => exact { hsame with files := congrArg (·.insert file content) hsame.files }
  | _ => exact hsame

theorem deleteFile (hsame : h.SameButColors h') (name : String) :
    (h.deleteFile name).SameButColors (h'.deleteFile name) := by
  rw [Host.deleteFile, Host.deleteFile, place_congr hsame.around hsame.files]
  cases h.place name with
  | file file => exact { hsame with files := congrArg (·.erase file) hsame.files }
  | _ => exact hsame

theorem logMessage (hsame : h.SameButColors h') (level : Int) (logger message : String)
    (origin : Origin) : SameReply (h.logMessage level logger message origin)
      (h'.logMessage level logger message origin) := by
  rw [Host.logMessage, Host.logMessage, hsame.rootLevel]
  split
  · exact ⟨rfl, hsame.emit _⟩
  · split <;> exact ⟨rfl, hsame⟩

end SameButColors

/-! ### Sessions -/

theorem sameReply_replyOf {ε α : Type} (error : ε → HostError) (reply : α → HostReply)
    {p q : Except ε α × Host} (a : SameReply p q) :
    SameReply (replyOf error reply p) (replyOf error reply q) := by
  obtain ⟨answer, k, k', rfl, rfl, hsame⟩ := a.exists_eq
  cases answer <;> exact ⟨rfl, hsame⟩

/-- One step gives the same answer and keeps the hosts the same but for colours. -/
theorem SameButColors.step {h h' : Host} (hsame : h.SameButColors h') {s s' : HostStep}
    (hs : s.SameButColor s') : SameReply (Host.step s h) (Host.step s' h') := by
  cases hs with
  | setUpLog request colored => exact sameReply_replyOf _ _ (hsame.setUpLog request colored)
  | same =>
    cases s with
    | setVariable name value drop =>
      exact sameReply_replyOf _ _ (hsame.setVariable name value drop)
    | writeFile name content => exact ⟨rfl, hsame.writeFile name content⟩
    | deleteFile name => exact ⟨rfl, hsame.deleteFile name⟩
    | readSettings file => exact sameReply_replyOf _ _ (hsame.readSettings file)
    | useSettings =>
      obtain ⟨answer, k, k', huse, huse', hafter⟩ := hsame.useSettings.exists_eq
      rw [Host.step, Host.step, huse, huse']
      cases answer with
      | error e => exact ⟨rfl, hafter⟩
      | ok settings =>
        exact ⟨congrArg (Except.ok ∘ HostReply.inUse settings) hafter.generation, hafter⟩
    | dropSettings => exact ⟨rfl, { hsame with settings := rfl }⟩
    | parse text request => exact sameReply_replyOf _ _ (hsame.parse text request)
    | roll text source =>
      obtain ⟨answer, source', k, k', hroll, hroll', hafter⟩ := hsame.rollText text source
      rw [Host.step, Host.step, hroll, hroll']
      cases answer <;> exact ⟨rfl, hafter⟩
    | log level logger message origin =>
      rw [Host.step, Host.step]
      exact sameReply_replyOf _ _ (hsame.logMessage level logger message origin)
    | setUpLog request => exact sameReply_replyOf _ _ (hsame.setUpLog request request.colored)
    | start => exact sameReply_replyOf _ _ hsame.start
    | _ =>
      -- the variables are told
      have hown : h'.ownVariables = h.ownVariables := by
        rw [ownVariables, ownVariables, hsame.environment]
      exact ⟨congrArg (Except.ok ∘ HostReply.variables) hown, hsame⟩

/-- Two runs of a session stay the same but for colours, step by step. -/
theorem SameButColors.trace {steps steps' : List HostStep}
    (hsteps : List.Forall₂ HostStep.SameButColor steps steps') {h h' : Host}
    (hsame : h.SameButColors h') :
    List.Forall₂ SameReply (RollPad.trace Host.step steps h)
      (RollPad.trace Host.step steps' h') := by
  induction hsteps generalizing h h' with
  | nil => exact .nil
  | cons hs _ ih =>
    have hstep := hsame.step hs
    exact .cons hstep (ih hstep.host)

end Host

/-- Change the colours that any set-ups of a session ask for: every step gives the same answer or
fails the same way, and after every step the files, the levels, the thresholds of the handlers and
all else are the same, but for the colours of the console handlers and the text on the console. -/
theorem colors_change_console_only {steps steps' : List HostStep}
    (hsteps : List.Forall₂ HostStep.SameButColor steps steps') (h : Host) :
    List.Forall₂ SameReply (trace Host.step steps h) (trace Host.step steps' h) :=
  Host.SameButColors.trace hsteps (.refl h)

/-- A log with a file behind the console, set up twice, by a pattern that shows the level twice and
by one that does not show it. One run has colours on the console, and none in the file. -/
theorem colors_change_console_only_two_set_ups :
    let session : Bool → List HostStep := fun colored =>
      [.setUpLog { level := "warn", file := some "roll.log", colored,
                   pattern := some "%(levelname)s %(levelname)-6s %(message)s" },
        .log error "app" "hot",
        .parse (some "d6") {},
        .setUpLog { file := some "roll.log", pattern := some "%(message)s", colored },
        .log info "app" "done"]
    let final : Bool → Host := fun colored => stateAfter Host.step (session colored) {}
    List.Forall₂ SameReply (trace Host.step (session true) {})
        (trace Host.step (session false) {}) ∧
      (final true).console = "\x1b[31mERROR\x1b[0m \x1b[31mERROR\x1b[0m hot\ndone\n" ∧
      (final false).console = "ERROR ERROR  hot\ndone\n" ∧
      (final true).files.get? "/roll.log" = some ("ERROR ERROR  hot\n" ++
        "DEBUG DEBUG  Rejected notation 'd6': Invalid dice notation: " ++
        "could not understand 'd6'. Example: '3d6 2d8'.\ndone\n") := by
  intro session final
  have hsame : List.Forall₂ HostStep.SameButColor (session true) (session false) :=
    .cons (.setUpLog _ false) <| .cons (.same _) <| .cons (.same _) <|
      .cons (.setUpLog _ false) <| .cons (.same _) .nil
  refine ⟨colors_change_console_only hsame {}, by decide +kernel, by decide +kernel, ?_⟩
  decide +kernel

end RollPad
