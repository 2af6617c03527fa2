import RollPad.Host.Step
import RollPad.Proofs.Notation.Grammar
import RollPad.Session
import RollPad.Settings.Binding

/-!
The settings in use over a session. A step drops them, uses them or leaves them alone
(`Host.inUse_step`), and a use reads settings afresh only if there are none. So what is in use was
read at the first use since the last drop at which it could be read, whatever has changed after it
(`Host.settings_stateAfter`), and it stays the outcome of that one reading
(`Host.inUse_stateAfter`). The main statement gathers what a session sees of this
(`settings_read_at_first_use`).
-/

namespace RollPad

/-! ### What steps do to the settings in use -/

/-- Does a request for the terms of a text ask for settings? -/
def LimitRequest.asks (request : LimitRequest) (text : Option String) : Bool :=
  (text.filter (!Text.isBlankText ·)).isSome && request.complete?.isNone

namespace HostStep

/-- Does a step drop the settings in use? A variable that cannot be set drops nothing. -/
def drops : HostStep → Bool
  | dropSettings => true
  | setVariable name value drop => drop && (value.bind (VariableError.of? name)).isNone
  | _ => false

/-- Does a step use the settings? -/
def uses : HostStep → Bool
  | useSettings => true
  | parse text request => request.asks text
  | roll text _ => LimitRequest.asks {} text
  | start => true
  | _ => false

end HostStep

namespace Host

/-- The settings in use, and how often settings have been taken into use. -/
def inUse (h : Host) : Option Settings × Nat :=
  (h.settings, h.generation)

/-- What is in use after a use. -/
def inUseAfterUse (h : Host) : Option Settings × Nat :=
  match h.settings with
  | some _ => h.inUse
  | none =>
    match (h.readSettings none).1 with
    | .ok settings => (some settings, h.generation + 1)
    | .error _ => h.inUse

theorem SameButLog.inUse_eq {h h' : Host} (a : SameButLog h h') : h'.inUse = h.inUse :=
  Prod.ext a.settings a.generation

/-! ### Using settings -/

/-- Reading settings takes nothing into use. -/
theorem inUse_readSettings (h : Host) (file : Option String) :
    (h.readSettings file).2.inUse = h.inUse :=
  Prod.ext (h.sameButLoad_readSettings file).settings (h.sameButLoad_readSettings file).generation

theorem inUseAfterUse_of_settings {h : Host} {settings : Settings}
    (hs : h.settings = some settings) : h.inUseAfterUse = h.inUse := by
  rw [inUseAfterUse, hs]

theorem inUse_useSettings (h : Host) : h.useSettings.2.inUse = h.inUseAfterUse := by
  have hread := h.inUse_readSettings none
  rw [useSettings, inUseAfterUse]
  cases h.settings with
  | some settings => rfl
  | none =>
    rcases hr : h.readSettings none with ⟨e | settings, h'⟩ <;> rw [hr] at hread
    · exact hread
    · exact Prod.ext rfl (congrArg (·.2 + 1) hread)

theorem inUse_limitsFor (h : Host) (request : LimitRequest) : (h.limitsFor request).2.inUse =
    if request.complete?.isNone then h.inUseAfterUse else h.inUse := by
  rw [limitsFor]
  cases request.complete? with
  | some limits => rfl
  | none =>
    rw [← inUse_useSettings]
    rcases h.useSettings with ⟨e | settings, h'⟩ <;> rfl

theorem inUse_readTerms (h : Host) (text : Option String) (request : LimitRequest) :
    (h.readTerms text request).2.inUse =
      if request.asks text then h.inUseAfterUse else h.inUse := by
  have hlimits := h.inUse_limitsFor request
  rw [readTerms, LimitRequest.asks]
  cases text.filter (!Text.isBlankText ·) with
  | none => rfl
  | some text =>
    rw [Option.isSome_some, Bool.true_and, ← hlimits]
    rcases h.limitsFor request with ⟨e | limits, h'⟩ <;> rfl

theorem inUse_parse (h : Host) (text : Option String) (request : LimitRequest) :
    (h.parse text request).2.inUse = (h.readTerms text request).2.inUse := by
  rw [parse]
  split
  · next hr => rw [hr, (sameButLog_emit _ _).inUse_eq]
  · rfl

theorem inUse_rollText (h : Host) (text : Option String) (source : Source) :
    (rollText text source h).2.2.inUse = (h.readTerms text).2.inUse := by
  rw [rollText]
  rcases h.readTerms text with ⟨e | cause | terms, h'⟩
  · rfl
  · rfl
  · dsimp only
    rcases rollTerms terms source with ⟨e | rolls, source'⟩
    · rfl
    · exact (sameButLog_emit h' _).inUse_eq

/-! ### Setting up the log leaves them alone -/

theorem inUse_openLog (h : Host) (name : String) (pattern : Log.Pattern) :
    (h.openLog name pattern).2.inUse = h.inUse := by
  rw [openLog]
  split
  · rfl
  · split <;> rfl

theorem inUse_setUpHandlers (h : Host) (request : LogRequest) (level : Int)
    (file : Option String) : (h.setUpHandlers request level file).2.inUse = h.inUse := by
  rw [setUpHandlers]
  split
  · rfl
  · split
    · rfl
    · exact inUse_openLog _ _ _

theorem inUse_setUpLog (h : Host) (request : LogRequest) :
    (h.setUpLog request).2.inUse = h.inUse := by
  rw [setUpLog]
  split
  · split <;> rfl
  · exact inUse_setUpHandlers _ request _ _

theorem inUse_start (h : Host) : h.start.2.inUse = h.inUseAfterUse := by
  rw [start, ← inUse_useSettings]
  rcases h.useSettings with ⟨e | settings, h'⟩
  · rfl
  · have hlog := h'.inUse_setUpLog { level := settings.logLevel, file := settings.logFile }
    dsimp only
    rcases hl : h'.setUpLog _ with ⟨e | _, h''⟩ <;> rw [hl] at hlog <;> exact hlog

/-! ### One step -/

theorem inUse_writeFile (h : Host) (name content : String) :
    (h.writeFile name content).inUse = h.inUse := by
  rw [writeFile]
  split <;> rfl

theorem inUse_deleteFile (h : Host) (name : String) : (h.deleteFile name).inUse = h.inUse := by
  rw [deleteFile]
  split <;> rfl

theorem inUse_logMessage (h : Host) (level : Int) (logger message : String)
    (origin : Log.Origin) : (h.logMessage level logger message origin).2.inUse = h.inUse := by
  obtain ⟨writable, hemit⟩ | hsame := h.snd_logMessage level logger message origin
  · rw [hemit]
    exact (sameButLog_emit h _).inUse_eq
  · rw [hsame]

theorem snd_replyOf {ε α : Type} (error : ε → HostError) (reply : α → HostReply)
    (x : Except ε α × Host) : (replyOf error reply x).2 = x.2 := by
  rcases x with ⟨e | a, h⟩ <;> rfl

theorem fst_replyOf {ε α : Type} (error : ε → HostError) (reply : α → HostReply)
    (x : Except ε α × Host) :
    (replyOf error reply x).1 = (x.1.map reply).mapError error := by
  rcases x with ⟨e | a, h⟩ <;> rfl

/-- What is in use after a step. -/
theorem inUse_step (s : HostStep) (h : Host) : (step s h).2.inUse =
    if s.drops then (none, h.generation) else if s.uses then h.inUseAfterUse else h.inUse := by
  cases s with
  | setVariable name value drop =>
    rw [HostStep.drops, step, snd_replyOf, setVariable]
    cases value.bind (VariableError.of? name) with
    | some e => simp [HostStep.uses]
    | none => cases drop <;> rfl
  | readSettings file =>
    rw [step, snd_replyOf, inUse_readSettings]
    rfl
  | useSettings =>
    refine Eq.trans ?_ h.inUse_useSettings
    rw [step]
    rcases h.useSettings with ⟨e | settings, h'⟩ <;> rfl
  | parse text request =>
    rw [step, snd_replyOf, inUse_parse, inUse_readTerms]
    rfl
  | roll text source =>
    have hroll := (h.inUse_rollText text source).trans (h.inUse_readTerms text {})
    rw [step]
    rcases hr : rollText text source h with ⟨e | report, source', h'⟩ <;> rw [hr] at hroll <;>
      exact hroll
  | writeFile name content => exact h.inUse_writeFile name content
  | deleteFile name => exact h.inUse_deleteFile name
  | log level logger message origin =>
    rw [step, snd_replyOf, inUse_logMessage]
    rfl
  | setUpLog request =>
    rw [step, snd_replyOf, inUse_setUpLog]
    rfl
  | start =>
    rw [step, snd_replyOf, inUse_start]
    rfl
  | _ => rfl

/-- A step that drops nothing keeps the settings in use, or uses the first there are. -/
theorem settings_step {s : HostStep} (hkeeps : s.drops = false) (h : Host) :
    (step s h).2.settings =
      h.settings.or (if s.uses then (h.readSettings none).1.toOption else none) := by
  have hstep := congrArg Prod.fst (inUse_step s h)
  rw [hkeeps, if_neg Bool.false_ne_true] at hstep
  refine hstep.trans ?_
  cases hs : h.settings with
  | some settings => rw [inUseAfterUse_of_settings hs, ite_self, inUse, hs, Option.some_or]
  | none =>
    rw [Option.none_or, inUseAfterUse, inUse, hs]
    split
    · rcases (h.readSettings none).1 with e | settings <;> rfl
    · rfl

theorem inUse_step_of_settings {s : HostStep} (hkeeps : s.drops = false) {h : Host}
    {settings : Settings} (hs : h.settings = some settings) : (step s h).2.inUse = h.inUse := by
  rw [inUse_step, hkeeps, if_neg Bool.false_ne_true, inUseAfterUse_of_settings hs, ite_self]

/-- Settings in use stay, by the same reading, until they are dropped. -/
theorem inUse_stateAfter {steps : List HostStep} (hkeeps : ∀ s ∈ steps, s.drops = false) {h : Host}
    {settings : Settings} (hs : h.settings = some settings) :
    (stateAfter step steps h).inUse = h.inUse := by
  induction steps generalizing h with
  | nil => rfl
  | cons s rest ih =>
    obtain ⟨hstep, hrest⟩ := List.forall_mem_cons.1 hkeeps
    have hkept := inUse_step_of_settings hstep hs
    exact (ih hrest ((congrArg Prod.fst hkept).trans hs)).trans hkept

/-! ### Over a session -/

/-- The settings that are read at the first use at which they can be read, where none are in use. -/
def firstRead (h : Host) : List HostStep → Option Settings
  | [] => none
  | s :: rest =>
    (if s.uses then (h.readSettings none).1.toOption else none).or ((step s h).2.firstRead rest)

/-- A session in two parts: up to the last step that dropped the settings in use, and since then. -/
structure SinceDrop (steps earlier since : List HostStep) : Prop where
  split : steps = earlier ++ since
  drops : ∀ s ∈ earlier.getLast?, s.drops = true
  keeps : ∀ s ∈ since, s.drops = false

theorem firstRead_concat (h : Host) (steps : List HostStep) (s : HostStep) :
    h.firstRead (steps ++ [s]) = (h.firstRead steps).or
      (if s.uses then ((stateAfter step steps h).readSettings none).1.toOption else none) := by
  induction steps generalizing h with
  | nil => exact Option.or_none
  | cons t rest ih =>
    rw [List.cons_append, firstRead, ih, firstRead, Option.or_assoc]
    rfl

/-- What is in use was read at the first use at which it could be read. -/
theorem settings_stateAfter {h : Host} (hnone : h.settings = none) {steps : List HostStep}
    (hkeeps : ∀ s ∈ steps, s.drops = false) :
    (stateAfter step steps h).settings = h.firstRead steps := by
  induction steps using List.reverseRecOn with
  | nil => exact hnone
  | append_singleton steps s ih =>
    obtain ⟨hsteps, hs⟩ := List.forall_mem_append.1 hkeeps
    rw [stateAfter_concat, settings_step (hs s List.mem_cons_self), ih hsteps, firstRead_concat]

theorem exists_sinceDrop (steps : List HostStep) :
    ∃ earlier since, SinceDrop steps earlier since := by
  induction steps using List.reverseRecOn with
  | nil => exact ⟨[], [], rfl, by simp, by simp⟩
  | append_singleton steps s ih =>
    obtain ⟨earlier, since, rfl, hdrops, hkeeps⟩ := ih
    cases hs : s.drops with
    | true => exact ⟨earlier ++ since ++ [s], [], by simp, by simpa using hs, by simp⟩
    | false =>
      refine ⟨earlier, since ++ [s], by simp, hdrops, ?_⟩
      exact List.forall_mem_append.2 ⟨hkeeps, by simpa using hs⟩

/-- Right after the last drop nothing is in use. -/
theorem SinceDrop.settings_earlier {steps earlier since : List HostStep}
    (hsplit : SinceDrop steps earlier since) {start : Host} (hstart : start.settings = none) :
    (stateAfter step earlier start).settings = none := by
  obtain rfl | ⟨before, s, rfl⟩ := List.eq_nil_or_concat' earlier
  · exact hstart
  · have hs : s.drops = true := hsplit.drops s (by simp)
    rw [stateAfter_concat]
    refine (congrArg Prod.fst (inUse_step s _)).trans ?_
    rw [hs, if_pos rfl]

/-! ### What a use finds -/

theorem useSettings_of_settings {h : Host} {settings : Settings} (hs : h.settings = some settings) :
    h.useSettings = (.ok settings, h) := by
  rw [useSettings, hs]

theorem settings_of_useSettings {h h' : Host} {settings : Settings}
    (hu : h.useSettings = (.ok settings, h')) : h'.settings = some settings := by
  rw [useSettings] at hu
  cases hs : h.settings with
  | some settings' =>
    rw [hs] at hu
    cases hu
    exact hs
  | none =>
    rw [hs] at hu
    rcases hr : h.readSettings none with ⟨e | settings', h''⟩ <;> rw [hr] at hu <;> cases hu
    rfl

theorem toOption_useSettings (h : Host) :
    h.useSettings.1.toOption = h.settings.or (h.readSettings none).1.toOption := by
  rw [useSettings]
  cases h.settings with
  | some settings => rfl
  | none => rcases h.readSettings none with ⟨e | settings, h'⟩ <;> rfl

/-- A use finds what the first use has read since the last drop. -/
theorem SinceDrop.toOption_useSettings {steps earlier since : List HostStep}
    (hsplit : SinceDrop steps earlier since) {start : Host} (hstart : start.settings = none)
    {s : HostStep} (huses : s.uses = true) :
    (stateAfter step steps start).useSettings.1.toOption =
      (stateAfter step earlier start).firstRead (since ++ [s]) := by
  obtain rfl := hsplit.split
  have hsettings := settings_stateAfter (hsplit.settings_earlier hstart) hsplit.keeps
  rw [Host.toOption_useSettings, firstRead_concat, if_pos huses, ← hsettings, stateAfter_append]

theorem fst_parse_of_asks {request : LimitRequest} {text : String}
    (hasks : request.asks (some text) = true) (h : Host) :
    (h.parse (some text) request).1 = h.useSettings.1.mapError .settings >>= fun settings =>
      answerOf (RollPad.readTerms (request.fill settings.limits) text) := by
  obtain ⟨htext, hmissing⟩ := Bool.and_eq_true_iff.1 hasks
  obtain ⟨text', htext'⟩ := Option.isSome_iff_exists.1 htext
  have hlimits : request.complete? = none := Option.isNone_iff_eq_none.1 hmissing
  obtain rfl := Option.some.inj (Option.eq_some_of_filter_eq_some htext')
  rw [fst_parse, Host.readTerms, htext']
  dsimp only
  rw [limitsFor, hlimits]
  rcases h.useSettings with ⟨e | settings, h'⟩ <;> rfl

/-- A text that is read within limits does not fail for want of settings. -/
theorem mapError_answerOf_ne (x : Except NotationError (List Term)) (e : SettingsError) :
    ((answerOf x).map HostReply.ofParse).mapError HostError.failed ≠
      .error (.failed (.settings e)) := by
  cases hanswer : answerOf x with
  | ok found =>
    intro h
    cases h
  | error cause =>
    obtain ⟨rfl, -⟩ := answerOf_eq_error_iff.1 hanswer
    intro h
    cases h

theorem snd_readTerms_of_not_asks {request : LimitRequest} {text : Option String}
    (hasks : request.asks text = false) (h : Host) : (h.readTerms text request).2 = h := by
  rw [LimitRequest.asks] at hasks
  rw [Host.readTerms]
  cases htext : text.filter (!Text.isBlankText ·) with
  | none => rfl
  | some text =>
    rw [htext, Option.isSome_some, Bool.true_and, Option.isNone_eq_false_iff] at hasks
    obtain ⟨limits, hlimits⟩ := Option.isSome_iff_exists.1 hasks
    rw [limitsFor, hlimits]

/-- A request that asks for no settings makes at most a record of its refusal. -/
theorem snd_parse_of_not_asks {request : LimitRequest} {text : Option String}
    (hasks : request.asks text = false) (h : Host) :
    ∃ rs, (∀ r ∈ rs, r.logger = notationLogger) ∧ (h.parse text request).2 = h.emitAll rs := by
  have hsame := snd_readTerms_of_not_asks hasks h
  rw [parse]
  split
  · next e h' hr =>
    rw [hr] at hsame
    refine ⟨[refusalRecord text e], List.forall_mem_singleton.2 rfl, ?_⟩
    rw [← hsame]
    rfl
  · exact ⟨[], by simp, hsame⟩

/-- Uses with no drop in between find the same settings, by the same reading. -/
theorem useSettings_again {h : Host} {reply : HostReply} {between : List HostStep}
    (hkeeps : ∀ s ∈ between, s.drops = false) (hreply : (step .useSettings h).1 = .ok reply) :
    (step .useSettings (stateAfter step (.useSettings :: between) h)).1 = .ok reply := by
  rcases hu : h.useSettings with ⟨e | settings, h'⟩
  · rw [step, hu] at hreply
    cases hreply
  · have hsettings := settings_of_useSettings hu
    have hafter : (step .useSettings h).2 = h' := by rw [step, hu]
    have hkept := inUse_stateAfter hkeeps hsettings
    have hlater : (stateAfter step between h').settings = some settings :=
      (congrArg Prod.fst hkept).trans hsettings
    have hsame : (stateAfter step between h').generation = h'.generation := congrArg Prod.snd hkept
    rw [← hreply, stateAfter, List.foldl_cons, hafter, ← stateAfter, step, step, hu,
      useSettings_of_settings hlater]
    exact congrArg (fun n => Except.ok (HostReply.inUse settings n)) hsame

end Host

/-- In a session that begins without settings in use: uses with no drop in between find the same
settings, by the same reading; a text that asks for settings is read within the limits given and
those that the first use since the last drop has read, and for want of settings it is not read
exactly if no use could read them; a text that asks for none changes nothing but the log, which
tells of no settings; and settings that are read directly are not taken into use. -/
theorem settings_read_at_first_use {start : Host} (hstart : start.settings = none)
    (steps : List HostStep) :
    let h := stateAfter Host.step steps start
    (∀ (between : List HostStep) (reply : HostReply), (∀ s ∈ between, s.drops = false) →
        (Host.step .useSettings h).1 = .ok reply →
        (Host.step .useSettings (stateAfter Host.step (.useSettings :: between) h)).1 = .ok reply) ∧
      (∃ earlier since, Host.SinceDrop steps earlier since) ∧
      (∀ earlier since, Host.SinceDrop steps earlier since →
        ∀ (text : String) (request : LimitRequest), request.asks (some text) = true →
          let s : HostStep := .parse (some text) request
          let read := (stateAfter Host.step earlier start).firstRead (since ++ [s])
          (∀ settings, read = some settings → (Host.step s h).1 =
              ((answerOf (readTerms (request.fill settings.limits) text)).map .ofParse).mapError
                .failed) ∧
            (read = none ↔ ∃ e, (Host.step s h).1 = .error (.failed (.settings e)))) ∧
      (∀ (text : Option String) (request : LimitRequest), request.asks text = false →
        let after := (Host.step (.parse text request) h).2
        Host.SameButLog h after ∧
          ∃ rs, (∀ r ∈ rs, r.logger = Host.notationLogger) ∧ after = h.emitAll rs) ∧
      ∀ file, (Host.step (.readSettings file) h).2.inUse = h.inUse := by
  intro h
  refine ⟨fun between reply hkeeps => Host.useSettings_again hkeeps,
    Host.exists_sinceDrop steps, ?_, ?_, ?_⟩
  · intro earlier since hsplit text request hasks s read
    have hread : h.useSettings.1.toOption = read := hsplit.toOption_useSettings hstart hasks
    have hanswer := Host.fst_parse_of_asks hasks h
    rw [← hread, Host.step, Host.fst_replyOf, hanswer]
    rcases h.useSettings with ⟨e | settings, h'⟩
    · refine ⟨fun settings hs => ?_, iff_of_true rfl ⟨e, rfl⟩⟩
      cases hs
    · have hfailed := Host.mapError_answerOf_ne (readTerms (request.fill settings.limits) text)
      refine ⟨fun settings' hs => ?_, iff_of_false (Option.some_ne_none settings) ?_⟩
      · rw [← Option.some.inj hs]
        rfl
      · exact not_exists.2 hfailed
  · intro text request hasks after
    have hparse : after = (h.parse text request).2 := Host.snd_replyOf _ _ _
    obtain ⟨rs, hrs, hemit⟩ := Host.snd_parse_of_not_asks hasks h
    rw [hparse, hemit]
    exact ⟨Host.sameButLog_emitAll h rs, rs, hrs, rfl⟩
  · intro file
    rw [Host.step, Host.snd_replyOf, Host.inUse_readSettings]

/-- A limit that is raised, and a file that is removed, after the first use. -/
theorem settings_read_at_first_use_later_change :
    let start : Host := { around := { loader := EnvFile.loader } }
    let earlier : List HostStep := [.setVariable "DICE_MAX_COUNT" (some "9") false, .useSettings,
      .setVariable "DICE_MAX_COUNT" (some "5") true]
    let since : List HostStep := [.writeFile ".env" "DICE_MAX_SIDES=20\n", .useSettings,
      .setVariable "DICE_MAX_COUNT" (some "7") false, .deleteFile ".env"]
    let h := stateAfter Host.step (earlier ++ since) start
    let s : HostStep := .parse (some "6d6") { maxSides := some 100 }
    start.settings = none ∧ Host.SinceDrop (earlier ++ since) earlier since ∧
      (stateAfter Host.step earlier start).firstRead (since ++ [s]) =
        some ⟨⟨5, 20, 10000⟩, "INFO", none, by decide +kernel⟩ ∧
      (Host.step s h).1 = ((answerOf (readTerms ⟨5, 100, 10000⟩ "6d6")).map .ofParse).mapError
        .failed := by
  intro start earlier since h s
  have hsplit : Host.SinceDrop (earlier ++ since) earlier since :=
    ⟨rfl, by decide +kernel, by decide +kernel⟩
  have hread : (stateAfter Host.step earlier start).firstRead (since ++ [s]) =
      some ⟨⟨5, 20, 10000⟩, "INFO", none, by decide +kernel⟩ := by decide +kernel
  have hstart : start.settings = none := rfl
  have hparse := (settings_read_at_first_use hstart (earlier ++ since)).2.2.1 earlier since hsplit
    "6d6" { maxSides := some 100 } (by decide +kernel)
  have hanswer := hparse.1 _ hread
  exact ⟨hstart, hsplit, hread, hanswer⟩

/-- A first use that can read no settings takes none into use, so that a limit that is raised after
it counts. -/
theorem not_read_at_first_use :
    let start : Host := { around := { loader := EnvFile.loader } }
    let before : List HostStep := [.setVariable "DICE_MAX_COUNT" (some "5") false,
      .writeFile ".env" "'A=B'=1\n"]
    let between : List HostStep := [.deleteFile ".env",
      .setVariable "DICE_MAX_COUNT" (some "7") false]
    let h := stateAfter Host.step before start
    (Host.step .useSettings h).1 = .error (.failed (.settings (.binding .equalsSign))) ∧
      (Settings.ofEnvironment h.environment).1.limits.maxCount = 5 ∧
      readTerms ⟨5, 1000000, 10000⟩ "6d6" = .error (.tooManyDice "6d6" 5) ∧
      (Host.step (.parse (some "6d6") {}) (stateAfter Host.step (.useSettings :: between) h)).1 =
        .ok (.parsed [⟨6, 6, by decide, by decide⟩]) := by
  decide +kernel

end RollPad
