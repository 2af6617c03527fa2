import RollPad.Proofs.Log.SetUp

/-!
A log file beside the console. The same set-up is carried out twice, with its log file and without
it. The file changes the root level and adds a handler; the handler for the console is the same
(`LogRequest.Fits.setUpLog_eq`, `LogRequest.Fits.setUpLog_console_eq`). Every level that has a name
is `DEBUG` or above, except that of `NOTSET` (`Log.debug_le_of_levelOfName`), so the root level of a
log with a file holds back nothing that the console alone would show, except records below `DEBUG`
under `NOTSET`. The main statement is `console_beside_file`.
-/

namespace RollPad

open Log

namespace Log

/-! ### Levels -/

theorem debug_le_of_mem_levelsByName :
    ∀ entry ∈ levelsByName, entry.1 ≠ "NOTSET" → debug ≤ entry.2 := by
  decide

/-- A name chooses a level of `DEBUG` or above, unless it is `NOTSET`. -/
theorem debug_le_of_levelOfName {name : String} {level : Int} (h : levelOfName name = .ok level)
    (hname : Text.upper name ≠ "NOTSET") : debug ≤ level := by
  unfold levelOfName at h
  dsimp only at h
  split at h
  · cases h
  · cases h
    cases hlookup : levelsByName.lookup (Text.upper name) with
    | none => decide
    | some level =>
      obtain ⟨before, after, hsplit, -⟩ := List.lookup_eq_some_iff.1 hlookup
      have hmem : (Text.upper name, level) ∈ levelsByName := by
        rw [hsplit]
        exact List.mem_append_right _ List.mem_cons_self
      exact debug_le_of_mem_levelsByName _ hmem hname

/-! ### Showing -/

/-- A record that does not reach the threshold of a handler is passed over. -/
theorem Handler.outcome_of_lt {f : Handler} {r : Record} (hlt : r.level < f.threshold) :
    f.outcome r = .passed := by
  rw [outcome, handle, if_neg (Int.not_le.2 hlt)]

/-- A handler without colours writes the line that its pattern gives. -/
theorem Handler.outcome_of_le {f : Handler} (hplain : f.colored = false) {r : Record}
    (hle : f.threshold ≤ r.level) {line : String} (hline : f.pattern.format r = some line) :
    f.outcome r = .line (line ++ "\n") := by
  rw [outcome, handle, if_pos hle, hplain, if_neg Bool.false_ne_true, shown, hline]

/-- A pattern can be carried out for all records of a list. -/
def Pattern.Shows (p : Pattern) (rs : List Record) : Prop :=
  ∀ r ∈ rs, (p.format r).isSome = true

instance (p : Pattern) (rs : List Record) : Decidable (p.Shows rs) :=
  inferInstanceAs (Decidable (∀ r ∈ rs, (p.format r).isSome = true))

end Log

/-- The texts of the elements that satisfy `p`, where the others have none. -/
theorem join_map_filter {α : Type} (p : α → Prop) [DecidablePred p] (f : α → String) (l : List α) :
    String.join (l.map fun a => if p a then f a else "") = String.join ((l.filter p).map f) := by
  induction l with
  | nil => rfl
  | cons a l ih =>
    rw [List.map_cons, String.join_cons, ih]
    by_cases ha : p a
    · rw [if_pos ha, List.filter_cons_of_pos (by simpa using ha), List.map_cons, String.join_cons]
    · rw [if_neg ha, List.filter_cons_of_neg (by simpa using ha), String.empty_append]

/-! ### A log with a console, with and without a file -/

namespace Host

/-- A host with nothing but a console for its log. -/
def onConsole (h : Host) (console : Handler) : Host :=
  { h with rootLevel := console.threshold, handlers := [console] }

/-- The handler for a file behind a console. It takes all from `DEBUG` on, and shows it by the
pattern of the console. -/
def fileBehind (console : Handler) (file : String) : Handler :=
  ⟨.file file, debug, console.pattern, false⟩

/-- A host with a file behind the console of its log. -/
def besideFile (h : Host) (console : Handler) (file : String) : Host :=
  { h with
    rootLevel := debug
    handlers := [console, fileBehind console file]
    files := h.files.append file "" }

variable {h : Host} {console : Handler} {file : String} {r : Record} {line : String}

theorem isEnabled_iff : h.isEnabled r = true ↔ 0 < r.level ∧ h.rootLevel ≤ r.level := by
  rw [isEnabled, Bool.and_eq_true, decide_eq_true_eq, decide_eq_true_eq]

/-- What a handler for the console writes there for a record. -/
def showOn (h : Host) (console : Handler) (r : Record) : String :=
  (console.outcome r).text ++ h.reportOf r console

theorem lineOf_singleton {f : Handler} {sink : Sink} (hf : f.sink = sink) (r : Record) :
    lineOf [f] sink r = (f.outcome r).text := by
  simp [lineOf, hf]

theorem outcome_fileBehind (hle : debug ≤ r.level) (hline : console.pattern.format r = some line) :
    (fileBehind console file).outcome r = .line (line ++ "\n") :=
  Handler.outcome_of_le rfl hle hline

theorem showOn_of_lt (hlt : r.level < console.threshold) : h.showOn console r = "" := by
  rw [showOn, reportOf, Handler.outcome_of_lt hlt]
  rfl

/-- The root level is the threshold of the console and so holds back nothing else. -/
theorem outputAt_onConsole (hsink : console.sink = .console) (r : Record) :
    (h.onConsole console).outputAt .console r =
      if 0 < r.level then h.showOn console r else "" := by
  have hline : lineOf (h.onConsole console).receivers .console r = (console.outcome r).text :=
    lineOf_singleton hsink r
  have hreports : (h.onConsole console).receivers.map ((h.onConsole console).reportOf r) =
      [h.reportOf r console] := rfl
  simp only [outputAt, lineAt, reportsAt, hline, hreports, isEnabled_iff, if_true]
  rcases Int.lt_or_le r.level console.threshold with hlt | hle
  · have hoff : ¬(0 < r.level ∧ (h.onConsole console).rootLevel ≤ r.level) :=
      fun hon => absurd hon.right (Int.not_le.2 hlt)
    rw [if_neg hoff, if_neg hoff, showOn_of_lt hlt, ite_self, String.append_empty]
  · have hon : (0 < r.level ∧ (h.onConsole console).rootLevel ≤ r.level) ↔ 0 < r.level :=
      and_iff_left hle
    simp only [hon]
    split <;> simp [showOn]

/-- Behind the console stands a file, and the root level is `DEBUG`: records below it are held back,
and of all others the console shows what it shows without the file, if the file can show them. -/
theorem outputAt_besideFile_console (hsink : console.sink = .console)
    (hshows : debug ≤ r.level → (console.pattern.format r).isSome = true) :
    (h.besideFile console file).outputAt .console r =
      if debug ≤ r.level then (h.onConsole console).outputAt .console r else "" := by
  have henabled : (h.besideFile console file).isEnabled r = true ↔
      0 < r.level ∧ debug ≤ r.level := isEnabled_iff
  rw [outputAt_onConsole hsink]
  simp only [outputAt, lineAt, reportsAt, henabled, if_true]
  by_cases hle : debug ≤ r.level
  · obtain ⟨line, hline⟩ := Option.isSome_iff_exists.1 (hshows hle)
    have hfile : (h.besideFile console file).reportOf r (fileBehind console file) = "" := by
      rw [reportOf, outcome_fileBehind hle hline]
    have hfirst : lineOf (h.besideFile console file).receivers .console r =
        (console.outcome r).text := (lineOf_cons_of_eq hsink _ r).trans (lineOf_singleton hsink r)
    have hreports : (h.besideFile console file).receivers.map
        ((h.besideFile console file).reportOf r) = [h.reportOf r console, ""] :=
      congrArg (fun report => [h.reportOf r console, report]) hfile
    simp only [hfirst, hreports, hle, and_true, if_true]
    split <;> simp [showOn]
  · rw [if_neg fun hon => hle hon.right, if_neg fun hon => hle hon.right, if_neg hle,
      String.append_empty]

/-- The file takes every record from `DEBUG` on, whatever the console shows. -/
theorem outputAt_besideFile_file (hsink : console.sink = .console) (hle : debug ≤ r.level)
    (hline : console.pattern.format r = some line) :
    (h.besideFile console file).outputAt (.file file) r = line ++ "\n" := by
  have hpositive : 0 < r.level := Int.lt_of_lt_of_le (by decide) hle
  have henabled : (h.besideFile console file).isEnabled r = true := isEnabled_iff.2 ⟨hpositive, hle⟩
  have hother : console.sink ≠ .file file := by
    rw [hsink]
    exact Sink.noConfusion
  have hfirst : lineOf (h.besideFile console file).receivers (.file file) r = line ++ "\n" := by
    refine (lineOf_cons_of_ne hother _ r).trans ((lineOf_singleton rfl r).trans ?_)
    rw [outcome_fileBehind hle hline]
    rfl
  rw [outputAt, lineAt, if_pos henabled, hfirst, if_neg Sink.noConfusion, String.append_empty]

theorem outputAt_besideFile_of_lt (hlt : r.level < debug) (sink : Sink) :
    (h.besideFile console file).outputAt sink r = "" := by
  have hoff : ¬(h.besideFile console file).isEnabled r = true :=
    fun hon => absurd (isEnabled_iff.1 hon).right (Int.not_le.2 hlt)
  rw [outputAt, lineAt, reportsAt, if_neg hoff, if_neg hoff, ite_self, String.append_empty]

/-! ### Records one after another -/

/-- Records as they are made, of the level `DEBUG` or above. -/
def stampedFromDebug (h : Host) (rs : List Record) : List Record :=
  (h.stamped rs).filter (debug ≤ ·.level)

theorem console_onConsole (hsink : console.sink = .console) (rs : List Record) :
    ((h.onConsole console).emitAll rs).console =
      h.console ++ String.join ((h.stamped rs).map ((h.onConsole console).outputAt .console)) :=
  contentAt_emitAll (.console hsink) rs .console

/-- The console beside a file shows what the console alone shows of the records from `DEBUG` on. -/
theorem console_besideFile (hsink : console.sink = .console) {rs : List Record}
    (hshows : console.pattern.Shows (h.stampedFromDebug rs)) :
    ((h.besideFile console file).emitAll rs).console = h.console ++
      String.join ((h.stampedFromDebug rs).map ((h.onConsole console).outputAt .console)) := by
  have hbeside : ((h.besideFile console file).emitAll rs).console = h.console ++
      String.join ((h.stamped rs).map ((h.besideFile console file).outputAt .console)) :=
    contentAt_emitAll (.file hsink rfl) rs .console
  rw [hbeside, stampedFromDebug, ← join_map_filter]
  congr 2
  refine List.map_congr_left fun r hr => outputAt_besideFile_console hsink fun hle => ?_
  exact hshows r (List.mem_filter.2 ⟨hr, decide_eq_true hle⟩)

/-- Nothing below the threshold of the console needs to be left out. -/
theorem join_fromDebug (hsink : console.sink = .console) (hle : debug ≤ console.threshold)
    (rs : List Record) :
    String.join ((h.stampedFromDebug rs).map ((h.onConsole console).outputAt .console)) =
      String.join ((h.stamped rs).map ((h.onConsole console).outputAt .console)) := by
  rw [stampedFromDebug, ← join_map_filter]
  congr 2
  funext r
  split
  · rfl
  · next hlow =>
    have hlt : r.level < console.threshold := Int.lt_of_lt_of_le (Int.not_le.1 hlow) hle
    rw [outputAt_onConsole hsink, showOn_of_lt hlt, ite_self]

/-- The file gets a line for every record from `DEBUG` on. -/
theorem exists_lines_besideFile (hsink : console.sink = .console) {rs : List Record}
    (hshows : console.pattern.Shows (h.stampedFromDebug rs)) :
    ∃ lines : List String,
      (h.stampedFromDebug rs).map console.pattern.format = lines.map some ∧
      ((h.besideFile console file).emitAll rs).contentAt (.file file) =
        (h.besideFile console file).contentAt (.file file) ++
          String.join (lines.map (· ++ "\n")) := by
  let lineOf (r : Record) : String := (console.pattern.format r).getD ""
  have hlines : ∀ r ∈ h.stampedFromDebug rs, console.pattern.format r = some (lineOf r) := by
    intro r hr
    obtain ⟨line, hline⟩ := Option.isSome_iff_exists.1 (hshows r hr)
    simp only [lineOf, hline, Option.getD_some]
  have hwritten : (h.stamped rs).map ((h.besideFile console file).outputAt (.file file)) =
      (h.stamped rs).map fun r => if debug ≤ r.level then lineOf r ++ "\n" else "" := by
    refine List.map_congr_left fun r hr => ?_
    split
    · next hle =>
      exact outputAt_besideFile_file hsink hle
        (hlines r (List.mem_filter.2 ⟨hr, decide_eq_true hle⟩))
    · next hlow => exact outputAt_besideFile_of_lt (Int.not_le.1 hlow) _
  refine ⟨(h.stampedFromDebug rs).map lineOf, ?_, ?_⟩
  · rw [List.map_map]
    exact List.map_congr_left hlines
  · refine (contentAt_emitAll (.file hsink rfl) rs (.file file)).trans ?_
    have hstamped : (h.besideFile console file).stamped rs = h.stamped rs := rfl
    rw [hstamped, hwritten, join_map_filter, List.map_map]
    rfl

end Host

/-! ### Setting up with and without a file -/

theorem Host.openLog_of_file {h : Host} {name file : String} (hzero : '\x00' ∉ name.toList)
    (hplace : h.logPlace name = .file file) (pattern : Pattern) : h.openLog name pattern =
      (.ok (), { h with
        files := h.files.append file ""
        handlers := h.handlers ++ [⟨.file file, debug, pattern, false⟩] }) := by
  rw [openLog, if_neg (by simpa using hzero), hplace]
  rfl

/-- A set-up with a log file finds what it asks for: its level has a name, its pattern is accepted,
and its file is in reach. -/
structure LogRequest.Fits (request : LogRequest) (h : Host) (level : Int) (pattern : Pattern)
    (file : String) : Prop where
  level : levelOfName request.level = .ok level
  pattern : Pattern.ofString? (request.pattern.getD Pattern.standard) = some pattern
  file : ∃ name, request.file = some name ∧ name ≠ "" ∧ '\x00' ∉ name.toList ∧
    h.logPlace name = .file file

namespace LogRequest.Fits

variable {request : LogRequest} {h : Host} {level : Int} {pattern : Pattern} {file : String}

theorem setUpLog_console_eq (hfits : request.Fits h level pattern file) :
    h.setUpLog { request with file := none } =
      (.ok (), h.onConsole ⟨.console, level, pattern, request.colored⟩) := by
  rw [Host.setUpLog]
  dsimp only
  rw [hfits.level]
  dsimp only [Option.filter_none]
  rw [Host.setUpHandlers]
  dsimp only
  rw [hfits.pattern]
  rfl

theorem setUpLog_eq (hfits : request.Fits h level pattern file) :
    h.setUpLog request =
      (.ok (), h.besideFile ⟨.console, level, pattern, request.colored⟩ file) := by
  obtain ⟨name, hname, hnonempty, hzero, hplace⟩ := hfits.file
  have hfile : request.file.filter (· ≠ "") = some name := by simp [hname, hnonempty]
  rw [Host.setUpLog, hfits.level, hfile]
  dsimp only
  rw [Host.setUpHandlers]
  dsimp only
  rw [hfits.pattern]
  -- The place of the file does not hang on the log.
  refine Host.openLog_of_file hzero ?_ pattern
  refine Eq.trans (Host.logPlace_congr (h := h) ?_ ?_ name) hplace <;> rfl

end LogRequest.Fits

/-- The same set-up with its log file and without it, and any records after it, such that the
pattern can show those from `DEBUG` on. Whatever the level, the console beside the file shows of all
records what the console alone shows of those from `DEBUG` on, and if the level is not that of
`NOTSET`, what the console alone shows of all. The file gets the line of every record from `DEBUG`
on, once and in order, whatever the console shows. -/
theorem console_beside_file {h : Host} {request : LogRequest} {level : Int} {pattern : Pattern}
    {file : String} (hfits : request.Fits h level pattern file) :
    ∃ alone beside : Host,
      h.setUpLog { request with file := none } = (.ok (), alone) ∧
      h.setUpLog request = (.ok (), beside) ∧
      ∀ rs : List Record, pattern.Shows (h.stampedFromDebug rs) →
        (alone.emitAll rs).console =
          h.console ++ String.join ((h.stamped rs).map (alone.outputAt .console)) ∧
        (beside.emitAll rs).console =
          h.console ++ String.join ((h.stampedFromDebug rs).map (alone.outputAt .console)) ∧
        (Text.upper request.level ≠ "NOTSET" →
          (beside.emitAll rs).console = (alone.emitAll rs).console) ∧
        ∃ lines : List String,
          (h.stampedFromDebug rs).map pattern.format = lines.map some ∧
          (beside.emitAll rs).contentAt (.file file) =
            h.contentAt (.file file) ++ String.join (lines.map (· ++ "\n")) := by
  let console : Handler := ⟨.console, level, pattern, request.colored⟩
  have hsink : console.sink = .console := rfl
  refine ⟨h.onConsole console, h.besideFile console file, hfits.setUpLog_console_eq,
    hfits.setUpLog_eq, fun rs hshows => ⟨?_, ?_, ?_, ?_⟩⟩
  · exact Host.console_onConsole hsink rs
  · exact Host.console_besideFile hsink hshows
  · intro hname
    have hle : debug ≤ console.threshold := debug_le_of_levelOfName hfits.level hname
    rw [Host.console_besideFile hsink hshows, Host.join_fromDebug hsink hle,
      Host.console_onConsole hsink]
  · -- The set-up opens the file and writes nothing to it.
    have hopened := SetUp.contentAt_result ⟨h, request⟩ (.file file)
    rw [SetUp.result, hfits.setUpLog_eq] at hopened
    rw [← hopened]
    exact Host.exists_lines_besideFile hsink hshows

/-- A console that shows warnings in colour, set up beside a file that was there before. Records
with and without a name for their level reach the file, the console as well, or neither. -/
theorem console_beside_file_warnings :
    let h : Host := { files := ⟨[("/d.log", "old\n")]⟩, console := "before\n" }
    let pattern : Pattern := ⟨"%(levelname)s %(msecs)03d %(message)s"⟩
    let request : LogRequest :=
      { level := "warn", file := some "./d.log", pattern := some pattern.source }
    let rs : List Record :=
      [.ofMessage debug "x" "fine" .outside isWritable_debug, .ofMessage 35 "y.z" "custom",
        .ofMessage 5 "" "low", .ofMessage 12 "x" "more",
        .ofMessage error "x" "hot" .outside isWritable_error]
    let beside := (h.setUpLog request).2.emitAll rs
    let alone := (h.setUpLog { request with file := none }).2.emitAll rs
    request.Fits h warning pattern "/d.log" ∧ pattern.Shows (h.stampedFromDebug rs) ∧
      Text.upper request.level ≠ "NOTSET" ∧
      beside.console = alone.console ∧
      alone.console = "before\nLevel 35\x1b[0m 000 custom\n\x1b[31mERROR\x1b[0m 000 hot\n" ∧
      beside.contentAt (.file "/d.log") =
        "old\nDEBUG 000 fine\nLevel 35 000 custom\nLevel 12 000 more\nERROR 000 hot\n" := by
  intro h pattern request rs beside alone
  have hfits : request.Fits h warning pattern "/d.log" :=
    { level := by decide +kernel
      pattern := by decide +kernel
      file := ⟨"./d.log", rfl, by decide, by decide, by decide +kernel⟩ }
  have hshows : pattern.Shows (h.stampedFromDebug rs) := by decide +kernel
  have hname : Text.upper request.level ≠ "NOTSET" := by decide +kernel
  obtain ⟨k, l, halone, hbeside, hrecords⟩ := console_beside_file hfits
  obtain ⟨-, -, hconsole, lines, hlines, hfile⟩ := hrecords rs hshows
  have hk : alone = k.emitAll rs := congrArg (fun p => p.2.emitAll rs) halone
  have hl : beside = l.emitAll rs := congrArg (fun p => p.2.emitAll rs) hbeside
  have hformats : (h.stampedFromDebug rs).map pattern.format =
      ["DEBUG 000 fine", "Level 35 000 custom", "Level 12 000 more", "ERROR 000 hot"].map some := by
    decide +kernel
  rw [hformats] at hlines
  obtain rfl := List.map_injective_iff.2 (Option.some_injective String) hlines
  refine ⟨hfits, hshows, hname, ?_, by decide +kernel, ?_⟩
  · rw [hk, hl]
    exact hconsole hname
  · rw [hl, hfile]
    decide +kernel

/-- Under `NOTSET` a record below `DEBUG` is shown on the console alone, and not beside a file. A
name that is no level makes a set-up fail; with a file, that drops the console there was. A pattern
that cannot be carried out is reported by every handler. -/
theorem console_changed_by_file :
    let pattern := some "%(message)s"
    let low : Record := .ofMessage 5 "x" "low"
    let alone := ({} : Host).setUpLog { level := "NOTSET", pattern, colored := false }
    let beside := ({} : Host).setUpLog
      { level := "NOTSET", file := some "d.log", pattern, colored := false }
    let before := (({} : Host).setUpLog { pattern, colored := false }).2
    let kept : Record := .ofMessage info "x" "kept" .outside isWritable_info
    let without := before.setUpLog { level := "BASIC_FORMAT" }
    let dropped := before.setUpLog { level := "BASIC_FORMAT", file := some "d.log" }
    let nope := some "%(nope)s"
    let once := ({} : Host).setUpLog { pattern := nope }
    let twice := ({} : Host).setUpLog { file := some "d.log", pattern := nope }
    (alone.1 = .ok () ∧ beside.1 = .ok () ∧
        (alone.2.emit low).console = "low\n" ∧ (beside.2.emit low).console = "") ∧
      (without.1 = .error (.notALevel .basicPattern) ∧
        dropped.1 = .error (.notALevel .basicPattern) ∧
        (without.2.emit kept).console = "kept\n" ∧ (dropped.2.emit kept).console = "") ∧
      once.1 = .ok () ∧ twice.1 = .ok () ∧
        (once.2.emit kept).console = "--- Logging error ---\n" ∧
        (twice.2.emit kept).console = "--- Logging error ---\n--- Logging error ---\n" := by
  decide +kernel

end RollPad
