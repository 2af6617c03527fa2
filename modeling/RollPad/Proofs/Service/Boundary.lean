import RollPad.Proofs.Keypad.Failure
import RollPad.Proofs.Service.Agreement
import RollPad.Session

/-!
Failing calls. A tool is to answer whatever text or keys it is given: a text that cannot be read is
refused, which the rolling tool reports and the keypad shows. `Fails` lists the calls that break off
instead. With draws from zero up to one these are all (`serve_failed_iff`): settings that cannot be
read, a variable that cannot be set, and a text with more sides than a double can hold where the
limits allow it. The limits are whatever the environment says, so such a text can come
(`not_rolled_or_refused`).
-/

namespace RollPad

namespace Desk

/-- The desk after keys without modifiers. -/
def pressed (d : Desk) (keys : List String) : Desk :=
  (d.pressKeys keys).2

/-- Why a call fails. -/
inductive Fails (d : Desk) : ServiceStep → Failure → Prop
  | rollText {text : String} {cause : Failure} (h : BreaksOff d.host text cause) :
    Fails d (.rollText (some text)) cause
  | loadFormula {text : String} {cause : Failure} (h : BreaksOff d.host text cause) :
    Fails d (.loadFormula text true) cause
  /-- The text that is in the buffer when `Enter` is pressed cannot be rolled. -/
  | pressKeys {before after : List String} {cause : Failure}
    (hbefore : (d.pressKeys before).1.isOk = true)
    (h : BreaksOff (d.pressed before).host (d.pressed before).keypad.buffer.text cause) :
    Fails d (.pressKeys (before ++ "Enter" :: after) false false) cause
  | setVariable {name value : String} {drop : Bool} {e : VariableError}
    (h : VariableError.of? name value = some e) :
    Fails d (.setVariable name (some value) drop) (.environment e)

end Desk

theorem SameAnswer.failed_iff {text : String} {reported : Except RollError Report}
    {loaded : Except Failure (Option Outcome)} (h : SameAnswer text reported loaded)
    {cause : Failure} : reported = .error (.failed cause) ↔ loaded = .error cause := by
  cases h <;> simp

/-! ### The listed causes -/

namespace Desk

variable {d : Desk} {cause : Failure}

theorem fails_rollText_iff {text : Option String} :
    d.Fails (.rollText text) cause ↔ ∃ t, text = some t ∧ BreaksOff d.host t cause := by
  constructor
  · intro h
    cases h with
    | rollText h => exact ⟨_, rfl, h⟩
  · rintro ⟨t, rfl, h⟩
    exact .rollText h

theorem fails_loadFormula_iff {text : String} {roll : Bool} :
    d.Fails (.loadFormula text roll) cause ↔ roll = true ∧ BreaksOff d.host text cause := by
  constructor
  · intro h
    cases h with
    | loadFormula h => exact ⟨rfl, h⟩
  · rintro ⟨rfl, h⟩
    exact .loadFormula h

theorem fails_setVariable_iff {name : String} {value : Option String} {drop : Bool} :
    d.Fails (.setVariable name value drop) cause ↔
      ∃ e, value.bind (VariableError.of? name) = some e ∧ cause = .environment e := by
  constructor
  · intro h
    cases h with
    | setVariable h => exact ⟨_, h, rfl⟩
  · rintro ⟨e, h, rfl⟩
    obtain ⟨value, rfl, h⟩ := Option.bind_eq_some_iff.1 h
    exact .setVariable h

theorem not_fails_inspect : ¬d.Fails .inspect cause := by
  intro h
  cases h

end Desk

/-! ### Calls -/

namespace Desk

theorem fst_replyOf_eq_error_iff {ε ε' α : Type} {error : ε → ε'} {reply : α → ServiceReply}
    {x : Except ε α × Desk} {e' : ε'} :
    (replyOf error reply x).1 = .error e' ↔ ∃ e, x.1 = .error e ∧ error e = e' := by
  rcases x with ⟨_ | _, d⟩ <;> simp [replyOf]

theorem snd_replyOf {ε ε' α : Type} (error : ε → ε') (reply : α → ServiceReply)
    (x : Except ε α × Desk) : (replyOf error reply x).2 = x.2 := by
  rcases x with ⟨_ | _, d⟩ <;> rfl

theorem fst_viewAfter_eq_error_iff {α : Type} {x : Except Failure α × Keypad × Host}
    {e : Failure} : (viewAfter x).1 = .error e ↔ x.1 = .error e := by
  rcases x with ⟨_ | _, k, h⟩ <;> simp [viewAfter]

theorem isOk_viewAfter {α : Type} (x : Except Failure α × Keypad × Host) :
    (viewAfter x).1.isOk = x.1.isOk := by
  rcases x with ⟨_ | _, k, h⟩ <;> rfl

theorem snd_viewAfter {α : Type} (x : Except Failure α × Keypad × Host) :
    (viewAfter x).2 = ⟨x.2.1, x.2.2⟩ := by
  rcases x with ⟨_ | _, k, h⟩ <;> rfl

theorem rollText_failed_iff {d : Desk} (hdraws : d.keypad.source.UnitDraws) {text : String}
    {cause : Failure} :
    (d.rollText (some text)).1 = .error (.failed cause) ↔ BreaksOff d.host text cause := by
  rw [← Keypad.load_eq_error_iff hdraws, ← (sameAnswer_load text d.keypad d.host).1.failed_iff,
    rollText]

theorem isOk_pressKeys (d : Desk) (keys : List String) (altKey ctrlKey : Bool) :
    (d.pressKeys keys altKey ctrlKey).1.isOk =
      (d.keypad.pressAll (keys.map fun key => { key, altKey, ctrlKey }) d.host).1.isOk :=
  isOk_viewAfter _

theorem snd_pressKeys (d : Desk) (keys : List String) (altKey ctrlKey : Bool) :
    (d.pressKeys keys altKey ctrlKey).2 =
      ⟨(d.keypad.pressAll (keys.map fun key => { key, altKey, ctrlKey }) d.host).2.1,
        (d.keypad.pressAll (keys.map fun key => { key, altKey, ctrlKey }) d.host).2.2⟩ :=
  snd_viewAfter _

theorem pressed_eq (d : Desk) (keys : List String) :
    d.pressed keys = ⟨(d.keypad.pressAll (keys.map ({ key := · })) d.host).2.1,
      (d.keypad.pressAll (keys.map ({ key := · })) d.host).2.2⟩ :=
  d.snd_pressKeys keys false false

theorem unitDraws_pressKeys {d : Desk} (hdraws : d.keypad.source.UnitDraws) (keys : List String)
    (altKey ctrlKey : Bool) : (d.pressKeys keys altKey ctrlKey).2.keypad.source.UnitDraws := by
  rw [snd_pressKeys]
  exact Keypad.unitDraws_pressAll hdraws _ d.host

/-- Keys fail where one does after those before it. -/
theorem fst_pressKeys_eq_error_iff {d : Desk} {keys : List String} {altKey ctrlKey : Bool}
    {cause : Failure} :
    (d.pressKeys keys altKey ctrlKey).1 = .error cause ↔
      ∃ before key after, keys = before ++ key :: after ∧
        (d.pressKeys before altKey ctrlKey).1.isOk = true ∧
        ((d.pressKeys before altKey ctrlKey).2.keypad.press { key, altKey, ctrlKey }
          (d.pressKeys before altKey ctrlKey).2.host).1 = .error cause := by
  rw [pressKeys, fst_viewAfter_eq_error_iff, Keypad.fst_pressAll_eq_error_iff]
  constructor
  · rintro ⟨before, p, after, hkeys, hbefore, hp⟩
    obtain ⟨before, rest, rfl, rfl, hrest⟩ := List.map_eq_append_iff.1 hkeys
    obtain ⟨key, after, rfl, rfl, rfl⟩ := List.map_eq_cons_iff.1 hrest
    refine ⟨before, key, after, rfl, by rwa [isOk_pressKeys], ?_⟩
    rwa [snd_pressKeys]
  · rintro ⟨before, key, after, rfl, hbefore, hp⟩
    rw [isOk_pressKeys] at hbefore
    rw [snd_pressKeys] at hp
    exact ⟨_, _, _, by rw [List.map_append, List.map_cons], hbefore, hp⟩

theorem pressKeys_failed_iff {d : Desk} (hdraws : d.keypad.source.UnitDraws) {keys : List String}
    {altKey ctrlKey : Bool} {cause : Failure} :
    (d.pressKeys keys altKey ctrlKey).1 = .error cause ↔
      Fails d (.pressKeys keys altKey ctrlKey) cause := by
  rw [fst_pressKeys_eq_error_iff]
  constructor
  · rintro ⟨before, key, after, rfl, hbefore, hp⟩
    obtain ⟨hsubmits, hsubmit⟩ := Keypad.fst_press_eq_error_iff.1 hp
    obtain ⟨rfl, rfl, rfl⟩ := KeyPress.command?_eq_submit_iff.1 hsubmits
    exact .pressKeys hbefore (((Keypad.submitted _ _).eq_error_iff
      (unitDraws_pressKeys hdraws before false false)).1 hsubmit)
  · intro hfails
    cases hfails with
    | @pressKeys before after _ hbefore hcause =>
      have hsubmits := KeyPress.command?_eq_submit_iff.2 ⟨rfl, rfl, rfl⟩
      exact ⟨before, "Enter", after, rfl, hbefore, Keypad.fst_press_eq_error_iff.2
        ⟨hsubmits, ((Keypad.submitted _ _).eq_error_iff
          (unitDraws_pressKeys hdraws before false false)).2 hcause⟩⟩

theorem rollText_none (d : Desk) : (d.rollText none).1 = .error (.refused .empty) :=
  rfl

theorem setVariable_failed_iff {d : Desk} {name : String} {value : Option String} {drop : Bool}
    {cause : Failure} :
    (serve (.setVariable name value drop) d).1 = .error (.failed cause) ↔
      ∃ e, value.bind (VariableError.of? name) = some e ∧ cause = .environment e := by
  rw [serve, Host.setVariable]
  cases value.bind (VariableError.of? name) with
  | none => simp
  | some e => simp [eq_comm]

/-- A call fails for the causes listed, and for no other. -/
theorem serve_failed_iff {d : Desk} (hdraws : d.keypad.source.UnitDraws) {s : ServiceStep}
    {cause : Failure} : (serve s d).1 = .error (.failed cause) ↔ Fails d s cause := by
  cases s with
  | rollText text =>
    rw [serve, fst_replyOf_eq_error_iff, fails_rollText_iff]
    cases text with
    | none => simp [rollText_none]
    | some text => simp [rollText_failed_iff hdraws]
  | pressKeys keys altKey ctrlKey =>
    rw [serve, fst_replyOf_eq_error_iff, ← pressKeys_failed_iff hdraws]
    simp
  | inspect => simp [serve, not_fails_inspect]
  | loadFormula text roll =>
    rw [serve, fst_replyOf_eq_error_iff, fails_loadFormula_iff, loadFormula]
    cases roll with
    | false => simp [Keypad.load, viewAfter]
    | true => simp [fst_viewAfter_eq_error_iff, Keypad.load_eq_error_iff hdraws]
  | setVariable name value drop => rw [setVariable_failed_iff, fails_setVariable_iff]

theorem unitDraws_rollText {text : Option String} {s : Source} (hs : s.UnitDraws) (h : Host) :
    (RollPad.rollText text s h).2.1.UnitDraws := by
  unfold RollPad.rollText
  rcases h.readTerms text with ⟨e | cause | terms, h'⟩
  · exact hs
  · exact hs
  · dsimp only
    rcases hroll : rollTerms terms s with ⟨e | rolls, s'⟩
    · exact unitDraws_of_rollTerms hroll hs
    · exact unitDraws_of_rollTerms hroll hs

theorem unitDraws_serve (s : ServiceStep) (d : Desk) (hdraws : d.keypad.source.UnitDraws) :
    (serve s d).2.keypad.source.UnitDraws := by
  cases s with
  | rollText text =>
    rw [serve, snd_replyOf]
    exact unitDraws_rollText hdraws d.host
  | pressKeys keys altKey ctrlKey =>
    rw [serve, snd_replyOf]
    exact unitDraws_pressKeys hdraws keys altKey ctrlKey
  | inspect => exact hdraws
  | loadFormula text roll =>
    rw [serve, snd_replyOf, loadFormula, snd_viewAfter]
    cases roll with
    | false => exact hdraws
    | true =>
      rw [(d.keypad.load_true text d.host).1]
      exact (Keypad.submitted _ d.host).unitDraws hdraws
  | setVariable name value drop =>
    rw [serve]
    split <;> exact hdraws

/-! ### Refusals -/

theorem serve_refused_iff {d : Desk} {s : ServiceStep} {cause : Refusal} :
    (serve s d).1 = .error (.refused cause) ↔
      ∃ text, s = .rollText text ∧ (d.host.readTerms text).1 = .ok (.error cause) := by
  cases s with
  | rollText text =>
    rw [serve, fst_replyOf_eq_error_iff, rollText]
    simp [fst_rollText_eq_refused_iff]
  | pressKeys keys altKey ctrlKey => simp [serve, fst_replyOf_eq_error_iff]
  | inspect => simp [serve]
  | loadFormula text roll => simp [serve, fst_replyOf_eq_error_iff]
  | setVariable name value drop =>
    rw [serve]
    split <;> simp

theorem fst_viewAfter_of_isOk {α : Type} {x : Except Failure α × Keypad × Host}
    (hx : x.1.isOk = true) : (viewAfter x).1 = .ok (view ⟨x.2.1, x.2.2⟩) := by
  rcases x with ⟨_ | _, k, h⟩
  · cases hx
  · rfl

theorem fst_replyOf_of_ok {ε ε' α : Type} {error : ε → ε'} {reply : α → ServiceReply}
    {x : Except ε α × Desk} {y : α} (hx : x.1 = .ok y) :
    (replyOf error reply x).1 = .ok (reply y) := by
  rcases x with ⟨_ | _, d⟩
  · cases hx
  · rw [Except.ok.inj hx, replyOf]

/-- A refused text that is loaded becomes the outcome on display. -/
theorem loadFormula_of_refused {d : Desk} {text : String} {cause : Refusal}
    (hread : (d.host.readTerms (some text)).1 = .ok (.error cause)) :
    ∃ view, (serve (.loadFormula text true) d).1 = .ok (.view view) ∧
      view.outcome = some ⟨text, .refused cause⟩ := by
  have hload := d.keypad.load_true text d.host
  obtain ⟨hok, houtcome⟩ := ((d.keypad.loading (some text)).submitted d.host).of_refused hread
  refine ⟨_, fst_replyOf_of_ok (fst_viewAfter_of_isOk (hload.2.trans hok)), ?_⟩
  rw [hload.1]
  exact houtcome

/-- A refused text that is in the buffer when `Enter` is pressed becomes the outcome on display. -/
theorem pressKeys_of_refused {d : Desk} {keys : List String} {cause : Refusal}
    (hkeys : (d.pressKeys keys).1.isOk = true)
    (hread : ((d.pressed keys).host.readTerms (some (d.pressed keys).keypad.buffer.text)).1 =
      .ok (.error cause)) :
    ∃ view, (serve (.pressKeys (keys ++ ["Enter"]) false false) d).1 = .ok (.view view) ∧
      view.outcome = some ⟨(d.pressed keys).keypad.buffer.text, .refused cause⟩ := by
  obtain ⟨hok, houtcome⟩ := ((d.pressed keys).keypad.submitted (d.pressed keys).host).of_refused
    hread
  obtain ⟨henter, hdesk⟩ := Keypad.pressAll_enter hok
  rw [isOk_pressKeys] at hkeys
  have hall : d.keypad.pressAll ((keys ++ ["Enter"]).map ({ key := · })) d.host =
      (d.pressed keys).keypad.pressAll [{ key := "Enter" }] (d.pressed keys).host := by
    rw [List.map_append, pressed_eq]
    exact Keypad.pressAll_append_of_ok hkeys _
  rw [serve, pressKeys, hall]
  refine ⟨_, fst_replyOf_of_ok (fst_viewAfter_of_isOk henter), ?_⟩
  rw [hdesk]
  exact houtcome

end Desk

/-- Limits below the largest double let no tool fail. -/
theorem Desk.not_fails {d : Desk} {settings : Settings} (hs : d.host.settings = some settings)
    (hsides : settings.limits.maxSides < Magnitude.overflow) {s : ServiceStep} {cause : Failure}
    (htool : ∀ name value drop, s ≠ .setVariable name value drop) : ¬d.Fails s cause := by
  intro hfails
  cases hfails with
  | rollText h => exact not_breaksOff hs hsides h
  | loadFormula h => exact not_breaksOff hs hsides h
  | pressKeys _ h =>
    rw [pressed_eq] at h
    exact not_breaksOff (Keypad.settings_pressAll hs _) hsides h
  | setVariable => exact htool _ _ _ rfl

/-- Whatever calls have come before, a call fails for the causes listed and no others. Refusals are
errors of the rolling tool alone, and say that the notation is at fault; at the keypad a refused
text that is loaded, or is in the buffer when `Enter` is pressed, becomes the outcome on display.
With settings in use, no tool fails as long as they allow no more sides than a double can hold, and
some text makes one fail if they allow more. -/
theorem calls_fail_iff {start : Desk} (hdraws : start.keypad.source.UnitDraws)
    (calls : List ServiceStep) :
    let d := stateAfter Desk.serve calls start
    (∀ s cause, (Desk.serve s d).1 = .error (.failed cause) ↔ d.Fails s cause) ∧
      (∀ s cause, (Desk.serve s d).1 = .error (.refused cause) →
        (∃ text, s = .rollText text) ∧
          ∃ reason, (RollError.refused cause).message = "Invalid dice notation: " ++ reason) ∧
      (∀ text cause, (Desk.serve (.rollText (some text)) d).1 = .error (.refused cause) →
        ∃ view, (Desk.serve (.loadFormula text true) d).1 = .ok (.view view) ∧
          view.outcome = some ⟨text, .refused cause⟩) ∧
      (∀ keys, (d.pressKeys keys).1.isOk = true → ∀ text cause,
        (d.pressed keys).keypad.buffer.text = text →
        (Desk.serve (.rollText (some text)) (d.pressed keys)).1 = .error (.refused cause) →
        ∃ view, (Desk.serve (.pressKeys (keys ++ ["Enter"]) false false) d).1 = .ok (.view view) ∧
          view.outcome = some ⟨text, .refused cause⟩) ∧
      ∀ settings, d.host.settings = some settings →
        (settings.limits.maxSides < Magnitude.overflow →
          ∀ s, (∀ name value drop, s ≠ .setVariable name value drop) →
            ∀ cause, (Desk.serve s d).1 ≠ .error (.failed cause)) ∧
        (1 ≤ settings.limits.maxCount → 1 ≤ settings.limits.maxTotal →
          Magnitude.overflow ≤ settings.limits.maxSides →
            ∃ text, (Desk.serve (.rollText (some text)) d).1 =
              .error (.failed (.die .sidesTooLarge))) := by
  intro d
  have hd : d.keypad.source.UnitDraws := stateAfter_induction Desk.unitDraws_serve calls hdraws
  refine ⟨fun s cause => Desk.serve_failed_iff hd, fun s cause h => ?_, fun text cause h => ?_,
    fun keys hkeys text cause htext h => ?_, fun settings hs =>
    ⟨fun hsides s htool cause h => ?_, fun hcount htotal hsides => ?_⟩⟩
  · obtain ⟨text, rfl, -⟩ := Desk.serve_refused_iff.1 h
    exact ⟨⟨text, rfl⟩, cause.exists_message_eq⟩
  · obtain ⟨_, ⟨⟩, hread⟩ := Desk.serve_refused_iff.1 h
    exact Desk.loadFormula_of_refused hread
  · obtain ⟨_, ⟨⟩, hread⟩ := Desk.serve_refused_iff.1 h
    subst htext
    exact Desk.pressKeys_of_refused hkeys hread
  · exact Desk.not_fails hs hsides htool ((Desk.serve_failed_iff hd).1 h)
  · have hbreaks := breaksOff_oversized hs hcount htotal hsides
    exact ⟨_, (Desk.serve_failed_iff hd).2 (.rollText hbreaks)⟩

theorem areWritable_overflow : Limits.AreWritable ⟨1, Magnitude.overflow, 1⟩ := by decide +kernel

/-- A die with too many sides for a double, under settings that allow it; then no sides at all. -/
theorem calls_fail_iff_oversized :
    let settings : Settings := ⟨⟨1, Magnitude.overflow, 1⟩, "INFO", none, areWritable_overflow⟩
    let start : Desk := ⟨{ source := .system [] }, { settings := some settings }⟩
    let d := stateAfter Desk.serve [.loadFormula "1d6" true] start
    start.keypad.source.UnitDraws ∧
      (∃ text, (Desk.serve (.rollText (some text)) d).1 =
        .error (.failed (.die .sidesTooLarge))) ∧
      ∃ view, (Desk.serve (.loadFormula "1d0" true) d).1 = .ok (.view view) ∧
        view.outcome = some ⟨"1d0", .refused ⟨.noSides "1d0", rfl⟩⟩ := by
  intro settings start d
  have hdraws : start.keypad.source.UnitDraws := by decide +kernel
  obtain ⟨-, -, hload, -, hlimits⟩ := calls_fail_iff hdraws [.loadFormula "1d6" true]
  have hs : d.host.settings = some settings := by decide +kernel
  have hrefused : (Desk.serve (.rollText (some "1d0")) d).1 =
      .error (.refused ⟨.noSides "1d0", rfl⟩) := by
    decide +kernel
  exact ⟨hdraws, (hlimits settings hs).2 (Int.le_refl 1) (Int.le_refl 1) (Int.le_refl _),
    hload _ _ hrefused⟩

/-- Not every text is rolled or refused. -/
theorem not_rolled_or_refused :
    ¬∀ d : Desk, d.keypad.source.UnitDraws → ∀ text,
      (∃ report, (Desk.serve (.rollText (some text)) d).1 = .ok (.report report)) ∨
        ∃ cause, (Desk.serve (.rollText (some text)) d).1 = .error (.refused cause) := by
  intro hall
  let settings : Settings := ⟨⟨1, Magnitude.overflow, 1⟩, "INFO", none, areWritable_overflow⟩
  let d : Desk := ⟨{ source := .system [] }, { settings := some settings }⟩
  have hdraws : d.keypad.source.UnitDraws := by decide +kernel
  have hbreaks : BreaksOff d.host (formatTerms [Term.oversized]) (.die .sidesTooLarge) :=
    breaksOff_oversized rfl (Int.le_refl 1) (Int.le_refl 1) (Int.le_refl _)
  have hfailed := (Desk.serve_failed_iff hdraws).2 (.rollText hbreaks)
  obtain ⟨report, h⟩ | ⟨cause, h⟩ := hall d hdraws (formatTerms [Term.oversized])
  · rw [hfailed] at h
    cases h
  · rw [hfailed] at h
    cases h

end RollPad
