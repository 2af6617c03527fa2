import RollPad.Keypad.Session
import RollPad.Proofs.Log.Records
import RollPad.Proofs.Notation.Concatenation
import RollPad.Proofs.Settings.Limits
import RollPad.Proofs.Text.Lines
import RollPad.Settings.Binding

/-!
The log line by line. What users type or load gets into the log in three ways: quoted, as a number,
or as a word of the text that is read. None of them breaks a line, so neither a refusal nor a record
of parsing, rolling or submitting a text is longer than one (`Host.tells_parseRecords`,
`Host.tells_rollRecords`, `Keypad.tells_submitRecords`). The one text that is shown as it stands is
the path of the file of settings. The main statement is `one_line_whatever_is_typed`.
-/

namespace RollPad

open Log Text

/-! ### Refusals -/

theorem oneLine_of_numeral? {n : Int} {s : String} (h : numeral? n = some s) : OneLine s := by
  unfold numeral? at h
  split at h
  · rw [← Option.some.inj h]
    exact oneLine_intRepr n
  · cases h

/-- A message is one line if the word at fault is. -/
theorem Refusal.oneLine_message {r : Refusal} (h : ∀ token ∈ r.cause.token?, OneLine token) :
    OneLine r.message := by
  have hmessage : r.cause.message? = some r.message := (Option.some_get r.told).symm
  obtain ⟨reason, hreason, hall⟩ := Option.map_eq_some_iff.1 hmessage
  have hopening : OneLine NotationError.opening := by decide
  rw [← hall, oneLine_append]
  refine ⟨hopening, ?_⟩
  unfold NotationError.reason? at hreason
  cases hcause : r.cause with
  | tooManyInTotal limit =>
    rw [hcause] at hreason
    obtain ⟨number, hnumber, rfl⟩ := Option.map_eq_some_iff.1 hreason
    simp only [oneLine_append, oneLine_of_numeral? hnumber]
    decide
  | tooManyDice token limit | tooManySides token limit =>
    rw [hcause] at h hreason
    have htoken := h token rfl
    obtain ⟨number, hnumber, rfl⟩ := Option.map_eq_some_iff.1 hreason
    simp only [oneLine_append, oneLine_of_numeral? hnumber, htoken]
    decide
  | empty =>
    rw [hcause] at hreason
    cases hreason
    decide
  | tooLong part token =>
    rw [hcause] at h hreason
    have htoken := h token rfl
    cases part <;> cases hreason <;> simp only [oneLine_append, htoken] <;> decide
  | notATerm token | noDice token | noSides token =>
    rw [hcause] at h hreason
    have htoken := h token rfl
    cases hreason
    simp only [oneLine_append, htoken]
    decide

/-- The word at fault is a word of the text, so it is one line. -/
theorem oneLine_token?_of_readTerms {limits : Limits} {e : NotationError} {text : String}
    (h : readTerms limits text = .error e) : ∀ token ∈ e.token?, OneLine token := by
  intro token htoken
  obtain rfl | ⟨hblank, word, hmem, hfault⟩ | rfl := fault_of_readTerms h
  · cases htoken
  · rw [hfault.token?_eq] at htoken
    cases htoken
    rw [tokens_eq_words hblank] at hmem
    exact oneLine_of_mem_words hmem
  · cases htoken

/-- Whatever a text is, its refusal is one line. -/
theorem Host.oneLine_message_of_readTerms {h : Host} {text : Option String}
    {request : LimitRequest} {r : Refusal}
    (hread : (h.readTerms text request).1 = .ok (.error r)) : OneLine r.message := by
  unfold readTerms at hread
  split at hread
  · cases hread
    decide
  · split at hread
    · cases hread
    · exact Refusal.oneLine_message (oneLine_token?_of_readTerms (answerOf_eq_refusal_iff.1 hread))

/-! ### Lines of the standard pattern -/

namespace Log

/-- A directive that shows a field as it is. -/
def Directive.ofField (name : String) : Directive :=
  ⟨some name.toList, [], [], none, 's'⟩

theorem Directive.place_ofField (name s : String) :
    (ofField name).place (.text s) = some s.toList := by
  have hplace : (ofField name).place (.text s) =
      some ((s.toList.take s.length).leftpad 0 ' ') := rfl
  have hwhole : s.toList.take s.length = s.toList := List.take_of_length_le String.length_toList.le
  rw [hplace, hwhole]
  simp [List.leftpad]

namespace Pattern

variable (timed : Bool) (r : Record) (first : Bool)

theorem fill_char (c : Char) (ps : List Piece) :
    fill timed r first (.char c :: ps) = (fill timed r first ps).map (c :: ·) := by
  rw [fill]

theorem fill_ofField (name : String) {field : Field} {s : String}
    (hfield : Field.ofName? name = some field) (hvalue : field.value r = .text s)
    (ps : List Piece) :
    fill timed r first (.directive (.ofField name) :: ps) =
      (fill timed r false ps).map (s.toList ++ ·) := by
  have hshown : shown? timed r (.ofField name) = some (.text s) := by
    simp [shown?, Directive.ofField, hfield, hvalue]
  have hnamed : (Directive.ofField name).field.isNone = false := rfl
  rw [fill, hshown, hnamed]
  simp only [Bool.false_and, Bool.false_eq_true, if_false, Option.bind_eq_bind, Option.bind_some,
    Directive.place_ofField]
  cases fill timed r false ps <;> rfl

/-- What the standard pattern shows of a record, and with what in between. -/
theorem format_standard : (⟨standard⟩ : Pattern).format r =
    some (r.stamp.time.text ++ " - " ++ r.levelText ++ " - " ++ r.shownLogger ++ " - " ++
      r.message) := by
  have hpieces : pieces? standard.toList = some
      [.directive (.ofField "asctime"), .char ' ', .char '-', .char ' ',
        .directive (.ofField "levelname"), .char ' ', .char '-', .char ' ',
        .directive (.ofField "name"), .char ' ', .char '-', .char ' ',
        .directive (.ofField "message")] := by
    decide +kernel
  have htime := fill_ofField (asksTime ⟨standard⟩) r true "asctime" rfl rfl
  have hlevel := fill_ofField (asksTime ⟨standard⟩) r false "levelname" rfl rfl
  have hlogger := fill_ofField (asksTime ⟨standard⟩) r false "name" rfl rfl
  have hmessage := fill_ofField (asksTime ⟨standard⟩) r false "message" rfl rfl
  rw [format, hpieces]
  simp only [Option.bind_eq_bind, Option.bind_some, htime, hlevel, hlogger, hmessage, fill_char]
  rw [fill]
  simp [← String.toList_inj]

end Pattern

/-- A record is one line: its message is, and so is, whenever the record is made, what a handler
with the standard pattern writes for it, up to the line feed at the end. -/
structure Record.IsOneLine (r : Record) : Prop where
  message : OneLine r.message
  written : ∀ (stamp : Stamp) (f : Handler), f.pattern = ⟨Pattern.standard⟩ →
    f.outcome (r.stamped stamp) = .passed ∨
      ∃ body, OneLine body ∧ f.outcome (r.stamped stamp) = .line (body ++ "\n")

theorem oneLine_levelName (level : Int) : OneLine (levelName level) := by
  unfold levelName
  split_ifs
  case neg =>
    simp only [oneLine_append, oneLine_intRepr]
    decide
  all_goals decide

theorem oneLine_colorOf (level : String) : OneLine (colorOf level) := by
  unfold colorOf
  split <;> decide

/-- The standard pattern shows the time, the level, the logger and the message; no moment, no name
of a level and no colour breaks a line. -/
theorem Record.isOneLine {r : Record} (hname : r.levelText = levelName r.level)
    (hlogger : OneLine r.shownLogger) (hmessage : OneLine r.message) : r.IsOneLine := by
  refine ⟨hmessage, fun stamp f hf => ?_⟩
  have htime : OneLine stamp.time.text := oneLine_of_plain stamp.time.plain
  have hlevel : OneLine r.levelText := hname ▸ oneLine_levelName r.level
  have hparts : OneLine " - " ∧ OneLine colorReset := by decide
  have hcolored : OneLine r.inColor.levelText := by
    simp only [inColor, oneLine_append]
    exact ⟨⟨oneLine_colorOf _, hlevel⟩, hparts.2⟩
  have hbody : ∀ level, OneLine level → OneLine (stamp.time.text ++ " - " ++ level ++ " - " ++
      r.shownLogger ++ " - " ++ r.message) := by
    intro level hlevel
    simp only [oneLine_append]
    simp only [hparts, htime, hlevel, hlogger, hmessage, and_true]
  unfold Handler.outcome Handler.handle Handler.shown
  rw [hf, Pattern.format_standard, Pattern.format_standard]
  split_ifs
  · exact .inr ⟨_, hbody _ hcolored, rfl⟩
  · exact .inr ⟨_, hbody _ hlevel, rfl⟩
  · exact .inl rfl

end Log

/-! ### Records of loaders -/

/-- Whatever a loader is given, its own records are one line. -/
def Loader.TellsLines (loader : Loader) : Prop :=
  ∀ environment name content, ∀ r ∈ (loader environment name content).records, r.IsOneLine

namespace EnvFile

theorem isOneLine_switchedOffRecord : switchedOffRecord.IsOneLine := by
  have hlogger : OneLine logger := by decide
  have hmessage : OneLine switchedOffRecord.message := by decide
  exact Record.isOneLine rfl hlogger hmessage

theorem isOneLine_faultRecord (line : Nat) : (faultRecord line).IsOneLine := by
  have hlogger : OneLine logger := by decide
  refine Record.isOneLine rfl hlogger ?_
  simp only [faultRecord, oneLine_append, oneLine_natRepr]
  decide

/-- The loader tells of lines by their numbers, not by what is in them. -/
theorem tellsLines_loader : loader.TellsLines := by
  intro environment name content r hr
  unfold loader at hr
  split_ifs at hr
  · rw [List.mem_singleton.1 hr]
    exact isOneLine_switchedOffRecord
  · cases hr
  · obtain ⟨line, -, rfl⟩ := List.mem_map.1 hr
    exact isOneLine_faultRecord line

end EnvFile

/-! ### Records of texts -/

namespace Host

/-- The record of a load of the default file. -/
def loadedRecord (h : Host) : Record :=
  loadRecord (h.absoluteName defaultFile) (loadLine false)

/-- Only a path with a line break in it makes a record longer than a line. -/
def Tells (h : Host) (r : Record) : Prop :=
  r.IsOneLine ∨ r = h.loadedRecord ∧ ¬OneLine (h.absoluteName defaultFile)

/-- A complaint quotes the value that it is about. -/
theorem isOneLine_of_mem_records {v : LimitVariable} (hv : OneLine v.name) {raw? : Option String}
    {r : Record} (hr : r ∈ v.records raw?) : r.IsOneLine := by
  have hlogger : OneLine settingsLogger := by decide
  have hnotAnInteger : ∀ raw, (complaintRecord (.notAnInteger v raw)).IsOneLine := by
    intro raw
    refine Record.isOneLine rfl hlogger ?_
    simp only [complaintRecord, Complaint.message, oneLine_append, oneLine_quote, oneLine_natRepr,
      hv]
    decide
  have hnotPositive : ∀ n, (complaintRecord (.notPositive v n)).IsOneLine := by
    intro n
    refine Record.isOneLine rfl hlogger ?_
    simp only [complaintRecord, Complaint.message, oneLine_append, oneLine_intRepr, oneLine_natRepr,
      hv]
    decide
  obtain ⟨c, hc, rfl⟩ := List.mem_map.1 hr
  rw [Option.mem_toList] at hc
  unfold LimitVariable.ofRaw at hc
  split at hc
  · cases hc
  · split at hc
    · cases hc
    · split at hc
      · cases hc
        exact hnotAnInteger _
      · split at hc
        · cases hc
          exact hnotPositive _
        · cases hc

theorem isOneLine_of_complaint {environment : NameTable} {r : Record}
    (hr : r ∈ (Settings.ofEnvironment environment).2.map complaintRecord) : r.IsOneLine := by
  have hcount : OneLine countVariable.name := by decide
  have hsides : OneLine sidesVariable.name := by decide
  have htotal : OneLine totalVariable.name := by decide
  rw [Settings.records_ofEnvironment, List.mem_append, List.mem_append] at hr
  rcases hr with (hr | hr) | hr
  · exact isOneLine_of_mem_records hcount hr
  · exact isOneLine_of_mem_records hsides hr
  · exact isOneLine_of_mem_records htotal hr

theorem tells_loadedRecord (h : Host) : h.Tells h.loadedRecord := by
  by_cases hpath : OneLine (h.absoluteName defaultFile)
  · have hlogger : OneLine settingsLogger := by decide
    refine .inl (Record.isOneLine rfl hlogger ?_)
    simp only [loadedRecord, loadRecord, oneLine_append, hpath]
    decide
  · exact .inr ⟨rfl, hpath⟩

theorem oneLine_shownText (text : Option String) : OneLine (shownText text) := by
  cases text with
  | none => decide
  | some text => exact oneLine_quote text

/-- The notation of terms is made of digits, the letter `d` and spaces. -/
theorem oneLine_formatTerms (terms : List Term) : OneLine (formatTerms terms) := by
  have hspace : OneLine " " := by decide
  refine oneLine_intercalate hspace fun s hs => ?_
  obtain ⟨t, -, rfl⟩ := List.mem_map.1 hs
  simp only [Term.text, oneLine_append, oneLine_natRepr]
  decide

/-! ### What operations tell -/

section Operations

variable {h : Host} (hloader : h.around.loader.TellsLines)

include hloader

theorem tells_useRecords : ∀ r ∈ h.useRecords, h.Tells r := by
  have hchosen : ∀ r ∈ h.chosenRecords none, h.Tells r := by
    intro r hr
    simp only [chosenRecords, Option.filter_none] at hr
    split_ifs at hr
    · rcases List.mem_append.1 hr with hbinding | hload
      · exact .inl (hloader _ _ _ r hbinding)
      · split_ifs at hload
        · rw [List.mem_singleton.1 hload]
          exact h.tells_loadedRecord
        · cases hload
    · cases hr
  intro r hr
  unfold useRecords at hr
  split_ifs at hr
  · cases hr
  · rcases List.mem_append.1 hr with hload | hvalue
    · exact hchosen r hload
    · split at hvalue
      · cases hvalue
      · exact .inl (isOneLine_of_complaint hvalue)

theorem tells_termRecords (text : Option String) (request : LimitRequest) :
    ∀ r ∈ h.termRecords text request, h.Tells r := by
  intro r hr
  unfold termRecords at hr
  split_ifs at hr
  · exact tells_useRecords hloader r hr
  · cases hr

theorem tells_parseRecords (text : Option String) (request : LimitRequest) :
    ∀ r ∈ h.parseRecords text request, h.Tells r := by
  intro r hr
  rcases List.mem_append.1 hr with hread | hrefused
  · exact tells_termRecords hloader text request r hread
  · split at hrefused
    · next e hfail =>
      rw [List.mem_singleton.1 hrefused]
      have hlogger : OneLine notationLogger := by decide
      refine .inl (Record.isOneLine rfl hlogger ?_)
      simp only [refusalRecord, oneLine_append, oneLine_shownText,
        Host.oneLine_message_of_readTerms hfail]
      decide
    · cases hrefused

theorem tells_rollRecords (text : Option String) (source : Source) :
    ∀ r ∈ h.rollRecords text source, h.Tells r := by
  intro r hr
  rcases List.mem_append.1 hr with hread | hrolled
  · exact tells_termRecords hloader text {} r hread
  · split at hrolled
    · split at hrolled
      · rw [List.mem_singleton.1 hrolled]
        have hlogger : OneLine reportLogger := by decide
        refine .inl (Record.isOneLine rfl hlogger ?_)
        simp only [reportRecord, oneLine_append, oneLine_formatTerms, oneLine_intRepr]
        decide
      · cases hrolled
    · cases hrolled

end Operations

end Host

/-! ### Submits -/

namespace Keypad

/-- The records of submitting what is in the buffer; that of a roll comes last. -/
def submitRecords (k : Keypad) (h : Host) : List Record :=
  h.parseRecords k.buffer.text {} ++
    match (h.parse k.buffer.text).1 with
    | .ok (.ok terms) =>
      match (rollTerms terms k.source).1 with
      | .ok rolls => [submitRecord k.buffer.text (grandTotal rolls)]
      | .error _ => []
    | _ => []

theorem logs_submit (k : Keypad) (h : Host) :
    Host.Logs h (k.submitRecords h) (k.submit h).2.2 := by
  have hparse := h.logs_parse k.buffer.text {}
  rw [submitRecords, submit]
  rcases hp : h.parse k.buffer.text with ⟨e | e | terms, h'⟩ <;> rw [hp] at hparse
  · exact hparse.trans (.refl h')
  · exact hparse.trans (.refl h')
  · dsimp only
    rcases rollTerms terms k.source with ⟨e | rolls, source⟩
    · exact hparse.trans (.refl h')
    · exact hparse.trans (Host.logs_emit h' _)

theorem tells_submitRecords (k : Keypad) {h : Host} (hloader : h.around.loader.TellsLines) :
    ∀ r ∈ k.submitRecords h, h.Tells r := by
  intro r hr
  rcases List.mem_append.1 hr with hparse | hrolled
  · exact Host.tells_parseRecords hloader _ _ r hparse
  · split at hrolled
    · split at hrolled
      · rw [List.mem_singleton.1 hrolled]
        have hlogger : OneLine submitLogger := by decide
        refine .inl (Record.isOneLine rfl hlogger ?_)
        simp only [submitRecord, oneLine_append, oneLine_quote, oneLine_intRepr]
        decide
      · cases hrolled
    · cases hrolled

end Keypad

/-- From `h` to `h'` the log is given these records and nothing else, each of which is one line but
for the path of the file of settings. -/
def Host.LogsLines (h : Host) (rs : List Record) (h' : Host) : Prop :=
  Host.Logs h rs h' ∧ ∀ r ∈ rs, h.Tells r

/-- Whatever the text, the limits, the variables and the files are, the message of a refusal is one
line, and so is every record of parsing, submitting and rolling a text, unless it is that of loading
a file of settings whose path breaks lines itself; the records of the loader of such files are one
line each. -/
theorem one_line_whatever_is_typed {h : Host} (hloader : h.around.loader.TellsLines)
    (text : Option String) (request : LimitRequest) (k : Keypad) (source : Source) :
    (∀ e, (h.parse text request).1 = .ok (.error e) → OneLine e.message) ∧
      h.LogsLines (h.parseRecords text request) (h.parse text request).2 ∧
      h.LogsLines (k.submitRecords h) (k.submit h).2.2 ∧
      h.LogsLines (h.rollRecords text source) (rollText text source h).2.2 := by
  refine ⟨?_, ⟨h.logs_parse text request, Host.tells_parseRecords hloader text request⟩,
    ⟨k.logs_submit h, k.tells_submitRecords hloader⟩,
    h.logs_rollText text source, Host.tells_rollRecords hloader text source⟩
  intro e hrefused
  rw [Host.fst_parse] at hrefused
  exact Host.oneLine_message_of_readTerms hrefused

/-- Line breaks in a variable, in a line of the file of settings that is at fault, and between the
words of a text that is refused. -/
theorem one_line_whatever_is_typed_line_breaks :
    let h : Host :=
      { around := { loader := EnvFile.loader }
        environment := ⟨[("DICE_MAX_COUNT", "1\n2")]⟩
        files := ⟨[("/.env", "A='\u2028\n")]⟩ }
    let text := "2d6\u2028\n3x\x1e"
    h.around.loader.TellsLines ∧
      (h.parseRecords text {}).map Record.message =
        ["python-dotenv could not parse statement starting at line 1",
          "Loaded configuration from /.env",
          "Ignoring DICE_MAX_COUNT='1\\n2': not an integer, using 1000",
          "Rejected notation '2d6\\u2028\\n3x\\x1e': Invalid dice notation: " ++
            "could not understand '3x'. Example: '3d6 2d8'."] ∧
      OneLine (Refusal.mk (.notATerm "3x") rfl).message ∧
      ∀ r ∈ h.parseRecords text {}, OneLine r.message := by
  intro h text
  have hrefused : (h.parse text).1 = .ok (.error ⟨.notATerm "3x", rfl⟩) := by decide +kernel
  have hpath : OneLine (h.absoluteName Host.defaultFile) := by decide +kernel
  have hloader : h.around.loader.TellsLines := EnvFile.tellsLines_loader
  obtain ⟨hmessage, ⟨-, htells⟩, -⟩ :=
    one_line_whatever_is_typed hloader text {} { source := .system [] } (.system [])
  refine ⟨hloader, by decide +kernel, hmessage _ hrefused, fun r hr => ?_⟩
  rcases htells r hr with hline | ⟨-, hbreak⟩
  · exact hline.message
  · exact absurd hpath hbreak

end RollPad
