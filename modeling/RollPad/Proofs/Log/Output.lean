import RollPad.Proofs.Log.SetUp
import RollPad.Settings.Binding

/-!
The output of the log over a session. A session's set-ups are listed with the hosts that they find
(`Host.setUps`); the last of them that has dropped the handlers before it decides which handlers
there are (`Host.SetUpBy`). A step writes the lines of its records, each once to the console and to
the file at most, and set-ups write nothing (`Host.SetUpBy.contentAt_step`); so files only grow
(`Host.extends_stateAfter`). The main statement gathers this (`log_written_once`).
-/

namespace RollPad

open Log

/-! ### The set-ups of a session -/

namespace Host

/-- The set-ups of a session in order. -/
def setUps : List HostStep → Host → List SetUp
  | [], _ => []
  | s :: rest, h => (s.setUp? h).toList ++ setUps rest (step s h).2

theorem setUps_concat (steps : List HostStep) (s : HostStep) (h : Host) :
    setUps (steps ++ [s]) h = setUps steps h ++ (s.setUp? (stateAfter step steps h)).toList := by
  induction steps generalizing h with
  | nil => exact List.append_nil _
  | cons t rest ih =>
    rw [List.cons_append, setUps, ih, setUps, List.append_assoc]
    rfl

end Host

/-- The log file of the last of some set-ups, if that has succeeded with one. -/
def lastFile (us : List SetUp) : Option String :=
  us.getLast?.bind SetUp.file?

theorem lastFile_filter_concat (p : SetUp → Bool) (us : List SetUp) (u : SetUp) :
    lastFile ((us ++ [u]).filter p) = if p u then u.file? else lastFile (us.filter p) := by
  rw [List.filter_append, List.filter_singleton]
  cases p u with
  | true => rw [lastFile, cond_true, List.getLast?_concat]; rfl
  | false => rw [cond_false, List.append_nil]; rfl

/-- The file that is written now is the one that was last set up with success: what has failed
since has not dropped the handlers. -/
theorem lastFile_succeeds {us : List SetUp} {name : String}
    (hfile : lastFile (us.filter SetUp.restarts) = some name) :
    lastFile (us.filter SetUp.succeeds) = some name := by
  induction us using List.reverseRecOn with
  | nil => cases hfile
  | append_singleton us u ih =>
    rw [lastFile_filter_concat] at hfile ⊢
    cases hdrops : u.restarts with
    | false =>
      rw [hdrops, if_neg Bool.false_ne_true] at hfile
      rw [(SetUp.result_of_not_restarts hdrops).1, if_neg Bool.false_ne_true]
      exact ih hfile
    | true =>
      rw [hdrops, if_pos rfl] at hfile
      cases hworks : u.succeeds with
      | false =>
        rw [SetUp.file?_of_not_succeeds hworks] at hfile
        cases hfile
      | true => exact hfile

/-! ### The handlers that set-ups leave -/

namespace Host

theorem Logs.handlers_eq {h h' : Host} {rs : List Record} (a : Logs h rs h') :
    h'.handlers = h.handlers :=
  a.sameButLog_logPart.handlers

/-- A log with the handlers that these set-ups leave. -/
def SetUpBy (h : Host) (us : List SetUp) : Prop :=
  Arranged h.handlers (lastFile (us.filter SetUp.restarts))

theorem SetUpBy.records {h h' : Host} {us : List SetUp} {rs : List Record} (hby : h.SetUpBy us)
    (a : Logs h rs h') : h'.SetUpBy us := by
  rw [SetUpBy, a.handlers_eq]
  exact hby

theorem SetUpBy.setUp {u : SetUp} {us : List SetUp} (hby : u.host.SetUpBy us) :
    u.result.2.SetUpBy (us ++ [u]) := by
  rw [SetUpBy, lastFile_filter_concat]
  cases hdrops : u.restarts with
  | true =>
    rw [if_pos rfl]
    exact SetUp.arranged_result hdrops
  | false =>
    rw [if_neg Bool.false_ne_true, (SetUp.result_of_not_restarts hdrops).2]
    exact hby

theorem SetUpBy.step {h : Host} {us : List SetUp} (hby : h.SetUpBy us) {s : HostStep}
    (hkeeps : s.keepsFiles = true) : (step s h).2.SetUpBy (us ++ (s.setUp? h).toList) := by
  cases logEffect hkeeps h with
  | records hnone hlogs =>
    rw [hnone, Option.toList_none, List.append_nil]
    exact hby.records hlogs
  | setUp hsome hlogs hresult =>
    rw [hsome, Option.toList_some, hresult]
    exact (hby.records hlogs).setUp

theorem setUpBy_stateAfter {h : Host} (hhandlers : h.handlers = []) {steps : List HostStep}
    (hkeeps : ∀ s ∈ steps, s.keepsFiles = true) :
    (stateAfter Host.step steps h).SetUpBy (setUps steps h) := by
  induction steps using List.reverseRecOn with
  | nil =>
    rw [SetUpBy, stateAfter, List.foldl_nil, hhandlers]
    exact .none
  | append_singleton steps s ih =>
    obtain ⟨hsteps, hs⟩ := List.forall_mem_append.1 hkeeps
    rw [stateAfter_concat, setUps_concat]
    exact (ih hsteps).step (hs s List.mem_cons_self)

/-- Only the file that was last set up with success is written. -/
theorem SetUpBy.lastFile_of_lineAt {h : Host} {us : List SetUp} (hby : h.SetUpBy us) {r : Record}
    {name : String} (hline : h.lineAt (.file name) r ≠ "") :
    lastFile (us.filter SetUp.succeeds) = some name := by
  refine lastFile_succeeds (((arranged_receivers hby).file_mem_sinks name).1 ?_)
  by_contra hsink
  rw [lineAt, lineOf_of_not_mem hsink, ite_self] at hline
  exact hline rfl

/-! ### What steps write -/

/-- A step writes the lines of its records and the reports on them, by the handlers there are before
it. -/
theorem SetUpBy.contentAt_step {h : Host} {us : List SetUp} (hby : h.SetUpBy us) {s : HostStep}
    (hkeeps : s.keepsFiles = true) (sink : Sink) : (Host.step s h).2.contentAt sink =
      h.contentAt sink ++ String.join ((h.stamped (s.made h)).map (h.outputAt sink)) := by
  cases logEffect hkeeps h with
  | records _ hlogs => exact hlogs.contentAt_eq hby sink
  | @setUp u _ hlogs hresult =>
    rw [hresult, u.contentAt_result]
    exact hlogs.contentAt_eq hby sink

/-- Reports are for the console alone. -/
theorem outputAt_file (h : Host) (name : String) :
    h.outputAt (.file name) = h.lineAt (.file name) := by
  funext r
  rw [outputAt, if_neg Sink.noConfusion, String.append_empty]

/-- Where every handler can show a record there is nothing to report. -/
theorem reportsAt_eq_empty {h : Host} {r : Record}
    (hshown : ∀ f ∈ h.receivers, f.outcome r ≠ .failed) : h.reportsAt r = "" := by
  have hnone : h.receivers.map (h.reportOf r) = h.receivers.map fun _ => "" := by
    refine List.map_congr_left fun f hf => ?_
    rw [reportOf]
    split
    · next hfailed => exact absurd hfailed (hshown f hf)
    · rfl
  rw [reportsAt, hnone]
  split
  · induction h.receivers with
    | nil => rfl
    | cons f rest ih => rw [List.map_cons, String.join_cons, ih, String.append_empty]
  · rfl

theorem extends_step {s : HostStep} (hkeeps : s.keepsFiles = true) (h : Host) :
    h.files.Extends (Host.step s h).2.files := by
  cases logEffect hkeeps h with
  | records _ hlogs => exact hlogs.extends
  | @setUp u _ hlogs hresult =>
    rw [hresult]
    exact hlogs.extends.trans u.extends_result

theorem extends_stateAfter {steps : List HostStep} (hkeeps : ∀ s ∈ steps, s.keepsFiles = true)
    (h : Host) : h.files.Extends (stateAfter Host.step steps h).files := by
  induction steps generalizing h with
  | nil => exact .refl _
  | cons s rest ih =>
    obtain ⟨hs, hrest⟩ := List.forall_mem_cons.1 hkeeps
    exact (extends_step hs h).trans (ih hrest _)

end Host

/-- In a session that begins without handlers and leaves files to the log: there is no handler, one
for the console, or one for the console and then one for a file; there is one for a file exactly
when the last set-up that has dropped the handlers before it has succeeded with that file. Every
step adds to the console and to each file the lines of the records that it makes, each record once
at most and by the handlers there are before the step, and to no file but that of the last set-up
that had succeeded; the console gets besides a report of each handler that cannot show a record, and
where all can there is none. What a file holds at any time stays at its beginning. -/
theorem log_written_once {start : Host} (hhandlers : start.handlers = []) {steps : List HostStep}
    (hkeeps : ∀ s ∈ steps, s.keepsFiles = true) :
    let h := stateAfter Host.step steps start
    let sinks := h.handlers.map Handler.sink
    (sinks = [] ∨ sinks = [.console] ∨ ∃ name, sinks = [.console, .file name]) ∧
      (∀ name, .file name ∈ sinks ↔
        lastFile ((Host.setUps steps start).filter SetUp.restarts) = some name) ∧
      (∀ earlier s later, steps = earlier ++ s :: later →
        let g := stateAfter Host.step earlier start
        let made := g.stamped (s.made g)
        (∀ name, (Host.step s g).2.contentAt (.file name) =
            g.contentAt (.file name) ++ String.join (made.map (g.lineAt (.file name)))) ∧
          (Host.step s g).2.console =
            g.console ++ String.join (made.map fun r => g.lineAt .console r ++ g.reportsAt r) ∧
          (∀ r, (∀ f ∈ g.receivers, f.outcome r ≠ .failed) → g.reportsAt r = "") ∧
          ∀ r name, g.lineAt (.file name) r ≠ "" →
            lastFile ((Host.setUps earlier start).filter SetUp.succeeds) = some name) ∧
      ∀ earlier later, steps = earlier ++ later →
        (stateAfter Host.step earlier start).files.Extends h.files := by
  intro h sinks
  have hby := Host.setUpBy_stateAfter hhandlers hkeeps
  refine ⟨hby.sinks, hby.file_mem_sinks, ?_, ?_⟩
  · intro earlier s later hsplit g made
    rw [hsplit] at hkeeps
    obtain ⟨hearlier, hrest⟩ := List.forall_mem_append.1 hkeeps
    have hg := Host.setUpBy_stateAfter hhandlers hearlier
    have hwritten := hg.contentAt_step (hrest s List.mem_cons_self)
    refine ⟨fun name => ?_, hwritten .console, fun r => Host.reportsAt_eq_empty,
      fun r name => hg.lastFile_of_lineAt⟩
    rw [hwritten, Host.outputAt_file]
  · intro earlier later hsplit
    rw [hsplit] at hkeeps
    have hfiles := Host.extends_stateAfter (List.forall_mem_append.1 hkeeps).2
      (stateAfter Host.step earlier start)
    rw [← stateAfter_append, ← hsplit] at hfiles
    exact hfiles

/-- A start whose settings name another log file: what it reads is told to the old file, and what
comes after it to the new one. -/
theorem log_written_once_next_file :
    let start : Host :=
      { around := { directory := ["home"], directories := [["var"]], loader := EnvFile.loader }
        files := ⟨[("/home/.env", "DICE_LOG_FILE=/var/b.log\n=\n")]⟩ }
    let earlier : List HostStep :=
      [.setUpLog { file := some "a.log", pattern := some "%(message)s" }]
    let steps := earlier ++ .start :: [.log debug "x" "hi"]
    let g := stateAfter Host.step earlier start
    let h := stateAfter Host.step steps start
    start.handlers = [] ∧ (∀ s ∈ steps, s.keepsFiles = true) ∧
      .file "/var/b.log" ∈ h.handlers.map Handler.sink ∧
      (Host.step .start g).2.contentAt (.file "/home/a.log") =
        "python-dotenv could not parse statement starting at line 2\n" ++
          "Loaded configuration from /home/.env\n" ∧
      g.files.Extends h.files := by
  intro start earlier steps g h
  have hkeeps : ∀ s ∈ steps, s.keepsFiles = true := by
    simp [steps, earlier, HostStep.keepsFiles]
  have hmain := @log_written_once start rfl steps hkeeps
  have hstart := (hmain.2.2.1 earlier .start [.log debug "x" "hi"] rfl).1 "/home/a.log"
  refine ⟨rfl, hkeeps, (hmain.2.1 "/var/b.log").2 (by decide +kernel), ?_,
    hmain.2.2.2 earlier _ rfl⟩
  rw [hstart]
  decide +kernel

/-- A set-up without a file whose level is none leaves the handler for the file of the set-up before
it. Where a pattern cannot show a record, both handlers report that on the console. -/
theorem file_handler_kept_by_failed_set_up :
    let first : HostStep := .setUpLog { file := some "a.log", pattern := some "%(message)s" }
    let second : HostStep := .setUpLog { level := "BASIC_FORMAT" }
    let g := (Host.step first {}).2
    let unfit : HostStep := .setUpLog { file := some "a.log", pattern := some "%(nope)s" }
    (g.handlers.map Handler.sink = [.console, .file "/a.log"] ∧
        (Host.step second g).1 = .error (.setUp (.notALevel .basicPattern)) ∧
        (Host.step second g).2.handlers.map Handler.sink = [.console, .file "/a.log"] ∧
        lastFile (Host.setUps [first, second] {}) = none) ∧
      (Host.step unfit {}).1 = .ok .done ∧
        ((Host.step unfit {}).2.emit (.ofMessage info "x" "hi" .outside isWritable_info)).console =
          "--- Logging error ---\n--- Logging error ---\n" := by
  decide +kernel

end RollPad
