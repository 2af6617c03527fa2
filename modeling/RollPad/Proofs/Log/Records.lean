import RollPad.Proofs.Settings.InUse

/-!
The records that a step makes (`HostStep.made`), in order, as they follow from what the step finds:
a load of settings tells of lines at fault, of the load and of values it cannot use, a text of its
refusal or its rolls. Besides them a step changes nothing that the log works on, until it sets the
log up (`Host.logEffect`).
-/

namespace RollPad

open Log

namespace Host

/-! ### The part of a host that the log works on -/

/-- A host without its variables and settings. -/
def logPart (h : Host) : Host :=
  { h with environment := {}, settings := none, generation := 0 }

theorem logPart_write (h : Host) (text : String) (sink : Sink) :
    (h.write text sink).logPart = h.logPart.write text sink := by
  cases sink <;> rfl

theorem logPart_deliver (r : Record) (h : Host) (handler : Handler) :
    (deliver r h handler).logPart = deliver r h.logPart handler := by
  unfold deliver
  cases handler.outcome r with
  | passed => rfl
  | line text => exact logPart_write h text _
  | failed => exact logPart_write h _ _

theorem logPart_deliverAll (r : Record) (handlers : List Handler) (h : Host) :
    (deliverAll handlers r h).logPart = deliverAll handlers r h.logPart := by
  induction handlers generalizing h with
  | nil => rfl
  | cons handler rest ih => rw [deliverAll_cons, ih, logPart_deliver, deliverAll_cons]

theorem logPart_emit (h : Host) (r : Record) : (h.emit r).logPart = h.logPart.emit r := by
  have hdeliver :=
    logPart_deliverAll (r.stamped h.stamp) h.receivers { h with calls := h.calls + 1 }
  exact (apply_ite logPart _ _ _).trans (if_congr Iff.rfl hdeliver rfl)

theorem logPart_emitAll (h : Host) (rs : List Record) :
    (h.emitAll rs).logPart = h.logPart.emitAll rs := by
  induction rs generalizing h with
  | nil => rfl
  | cons r rs ih => exact (ih _).trans (congrArg (emitAll · rs) (logPart_emit h r))

/-- From `h` to `h'` records are made and nothing else happens to the log; variables and settings
may change. -/
def Logs (h : Host) (rs : List Record) (h' : Host) : Prop :=
  h'.logPart = h.logPart.emitAll rs

theorem Logs.refl (h : Host) : Logs h [] h :=
  rfl

theorem Logs.trans {h h' h'' : Host} {rs ss : List Record} (a : Logs h rs h') (b : Logs h' ss h'') :
    Logs h (rs ++ ss) h'' := by
  rw [Logs, b, a, emitAll, emitAll, emitAll, List.foldl_append]

theorem logs_emitAll (h : Host) (rs : List Record) : Logs h rs (h.emitAll rs) :=
  logPart_emitAll h rs

theorem logs_emit (h : Host) (r : Record) : Logs h [r] (h.emit r) :=
  logPart_emit h r

theorem Logs.withEnvironment {h h' : Host} {rs : List Record} (a : Logs h rs h')
    (environment : NameTable) : Logs h rs { h' with environment } :=
  a

/-! ### The records of a load -/

/-- The records of the load of a file. Only a load that succeeds is told of as such. -/
def loadRecords (h : Host) (name shown : String) (line : Nat) : List Record :=
  (h.load name).records ++ if (h.loadBindings name).1.isOk then [loadRecord shown line] else []

/-- The records of the load of the file that is named, or else of the default file. -/
def chosenRecords (h : Host) (file : Option String) : List Record :=
  match file.filter (· ≠ "") with
  | some name => h.loadRecords name name (loadLine true)
  | none =>
    if h.hasFile defaultFile then
      h.loadRecords defaultFile (h.absoluteName defaultFile) (loadLine false)
    else []

/-- The records of reading settings afresh. Values are looked at once the load has succeeded. -/
def readRecords (h : Host) (file : Option String) : List Record :=
  h.chosenRecords file ++
    match h.loadChosen file with
    | (.error _, _) => []
    | (.ok _, h) => (Settings.ofEnvironment h.environment).2.map complaintRecord

/-- The records of using settings. -/
def useRecords (h : Host) : List Record :=
  if h.settings.isSome then [] else h.readRecords none

theorem logs_loadBindings (h : Host) (name : String) :
    Logs h (h.load name).records (h.loadBindings name).2 :=
  (logs_emitAll h _).withEnvironment _

theorem logs_loadFile (h : Host) (name shown : String) (line : Nat) :
    Logs h (h.loadRecords name shown line) (h.loadFile name shown line).2 := by
  have hload := h.logs_loadBindings name
  rw [loadRecords, loadFile]
  rcases hl : h.loadBindings name with ⟨e | _, h'⟩ <;> rw [hl] at hload
  · exact hload.trans (.refl h')
  · exact hload.trans (logs_emit h' _)

theorem logs_loadChosen (h : Host) (file : Option String) :
    Logs h (h.chosenRecords file) (h.loadChosen file).2 := by
  rw [chosenRecords, loadChosen]
  cases file.filter (· ≠ "") with
  | some name => exact h.logs_loadFile _ _ _
  | none =>
    dsimp only
    split
    · exact h.logs_loadFile _ _ _
    · exact .refl h

theorem logs_readSettings (h : Host) (file : Option String) :
    Logs h (h.readRecords file) (h.readSettings file).2 := by
  have hload := h.logs_loadChosen file
  rw [readRecords, readSettings]
  rcases hl : h.loadChosen file with ⟨e | _, h'⟩ <;> rw [hl] at hload
  · exact hload.trans (.refl h')
  · exact hload.trans (logs_emitAll h' _)

theorem logs_useSettings (h : Host) : Logs h h.useRecords h.useSettings.2 := by
  have hread := h.logs_readSettings none
  rw [useRecords, useSettings]
  cases h.settings with
  | some settings => exact .refl h
  | none =>
    rcases hr : h.readSettings none with ⟨e | settings, h'⟩ <;> rw [hr] at hread <;> exact hread

/-! ### The records of a text -/

/-- The records of reading a text: those of the settings that it asks for. -/
def termRecords (h : Host) (text : Option String) (request : LimitRequest) : List Record :=
  if request.asks text then h.useRecords else []

/-- The records of parsing a text; a refusal comes last. -/
def parseRecords (h : Host) (text : Option String) (request : LimitRequest) : List Record :=
  h.termRecords text request ++
    match (h.readTerms text request).1 with
    | .ok (.error e) => [refusalRecord text e]
    | _ => []

/-- The records of rolling a text; a report comes last. -/
def rollRecords (h : Host) (text : Option String) (source : Source) : List Record :=
  h.termRecords text {} ++
    match (h.readTerms text).1 with
    | .ok (.ok terms) =>
      match (rollTerms terms source).1 with
      | .ok rolls => [reportRecord terms (grandTotal rolls)]
      | .error _ => []
    | _ => []

theorem logs_readTerms (h : Host) (text : Option String) (request : LimitRequest) :
    Logs h (h.termRecords text request) (h.readTerms text request).2 := by
  rw [termRecords, LimitRequest.asks, readTerms]
  cases text.filter (!Text.isBlankText ·) with
  | none => exact .refl h
  | some text =>
    dsimp only
    rw [Option.isSome_some, Bool.true_and, limitsFor]
    cases request.complete? with
    | some limits => exact .refl h
    | none =>
      have huse := h.logs_useSettings
      rcases hu : h.useSettings with ⟨e | settings, h'⟩ <;> rw [hu] at huse <;> exact huse

theorem logs_parse (h : Host) (text : Option String) (request : LimitRequest) :
    Logs h (h.parseRecords text request) (h.parse text request).2 := by
  have hread := h.logs_readTerms text request
  rw [parseRecords, parse]
  rcases hr : h.readTerms text request with ⟨e | e | terms, h'⟩ <;> rw [hr] at hread
  · exact hread.trans (.refl h')
  · exact hread.trans (logs_emit h' _)
  · exact hread.trans (.refl h')

theorem logs_rollText (h : Host) (text : Option String) (source : Source) :
    Logs h (h.rollRecords text source) (rollText text source h).2.2 := by
  have hread := h.logs_readTerms text {}
  rw [rollRecords, rollText]
  rcases hr : h.readTerms text with ⟨e | e | terms, h'⟩ <;> rw [hr] at hread
  · exact hread.trans (.refl h')
  · exact hread.trans (.refl h')
  · dsimp only
    rcases rollTerms terms source with ⟨e | rolls, source'⟩
    · exact hread.trans (.refl h')
    · exact hread.trans (logs_emit h' _)

/-! ### Messages from outside -/

/-- The record of a message from outside; there is none if its level cannot be written out. -/
def messageRecords (level : Int) (logger message : String) (origin : Origin) : List Record :=
  if writable : Text.IsWritable level then [.ofMessage level logger message origin writable]
  else []

theorem logs_logMessage (h : Host) (level : Int) (logger message : String) (origin : Origin) :
    Logs h (messageRecords level logger message origin)
      (h.logMessage level logger message origin).2 := by
  rw [messageRecords, logMessage]
  split
  · exact h.logs_emit _
  · split <;> exact .refl h

end Host

/-! ### Set-ups -/

/-- A set-up of the log, with the host that it finds. -/
structure SetUp where
  host : Host
  request : LogRequest

/-- The answer of a set-up, and the host that it leaves. -/
def SetUp.result (u : SetUp) : Except LogError Unit × Host :=
  u.host.setUpLog u.request

namespace HostStep

/-- The set-up that a step comes to. The program sets its log up once it has its settings, and not
at all if they cannot be read. -/
def setUp? : HostStep → Host → Option SetUp
  | .setUpLog request, h => some ⟨h, request⟩
  | .start, h =>
    match h.useSettings with
    | (.error _, _) => none
    | (.ok settings, h) => some ⟨h, { level := settings.logLevel, file := settings.logFile }⟩
  | _, _ => none

/-- Does a step leave all files to the log? -/
def keepsFiles : HostStep → Bool
  | .writeFile .. => false
  | .deleteFile _ => false
  | _ => true

/-- The records that a step makes, before it sets the log up. -/
def made : HostStep → Host → List Record
  | .readSettings file, h => h.readRecords file
  | .useSettings, h => h.useRecords
  | .parse text request, h => h.parseRecords text request
  | .roll text source, h => h.rollRecords text source
  | .log level logger message origin, _ => Host.messageRecords level logger message origin
  | .start, h => h.useRecords
  | _, _ => []

/-- What a step does for the log: it makes its records, and then sets the log up if it comes to
that. -/
inductive LogEffect (s : HostStep) (h : Host) : Prop where
  | records (hnone : s.setUp? h = none) (hlogs : Host.Logs h (s.made h) (Host.step s h).2)
  | setUp {u : SetUp} (hsome : s.setUp? h = some u) (hlogs : Host.Logs h (s.made h) u.host)
      (hresult : (Host.step s h).2 = u.result.2)

end HostStep

namespace Host

theorem logEffect_start (h : Host) : HostStep.LogEffect .start h := by
  have huse := h.logs_useSettings
  rcases hu : h.useSettings with ⟨e | settings, h'⟩ <;> rw [hu] at huse
  · refine .records (by rw [HostStep.setUp?, hu]) ?_
    rw [step, snd_replyOf, start, hu]
    exact huse
  · refine .setUp (u := ⟨h', _⟩) (by rw [HostStep.setUp?, hu]) huse ?_
    rw [step, snd_replyOf, start, hu, SetUp.result]
    dsimp only
    rcases h'.setUpLog _ with ⟨e | _, h''⟩ <;> rfl

theorem logEffect {s : HostStep} (hkeeps : s.keepsFiles = true) (h : Host) : s.LogEffect h := by
  cases s with
  | setVariable name value drop =>
    refine .records rfl ?_
    rw [step, snd_replyOf, setVariable]
    cases value.bind (VariableError.of? name) with
    | some e => exact .refl h
    | none => cases drop <;> exact .refl h
  | writeFile name content => cases hkeeps
  | deleteFile name => cases hkeeps
  | readSettings file =>
    refine .records rfl ?_
    rw [step, snd_replyOf]
    exact h.logs_readSettings file
  | useSettings =>
    have huse := h.logs_useSettings
    refine .records rfl ?_
    rw [step]
    rcases hu : h.useSettings with ⟨e | settings, h'⟩ <;> rw [hu] at huse <;> exact huse
  | parse text request =>
    refine .records rfl ?_
    rw [step, snd_replyOf]
    exact h.logs_parse text request
  | roll text source =>
    have hroll := h.logs_rollText text source
    refine .records rfl ?_
    rw [step]
    rcases hr : rollText text source h with ⟨e | report, source', h'⟩ <;> rw [hr] at hroll <;>
      exact hroll
  | log level logger message origin =>
    refine .records rfl ?_
    rw [step, snd_replyOf]
    exact h.logs_logMessage level logger message origin
  | setUpLog request => exact .setUp rfl (.refl h) (snd_replyOf _ _ _)
  | start => exact h.logEffect_start
  | _ => exact .records rfl (.refl h)

end Host

end RollPad
