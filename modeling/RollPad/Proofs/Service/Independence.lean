import RollPad.Proofs.Service.Boundary

/-!
What the keypad does not depend on. The draws decide what dice show, and nothing else: not which
text is refused, not which call fails, not how many results there are. An outline is what a view
shows but for the faces (`KeypadView.outline`). With settings in use and draws from zero up to one,
the outline of a submit is a function of the text and the limits (`Submitted.outline_eq`), so two
desks that are alike stay alike over every keypad call, and calls that only roll a text change
nothing that the keypad shows. The main statement compares two runs with other draws and other
rolls in between (`outlines_independent`).
-/

namespace RollPad

/-! ### Outlines -/

/-- What an outcome shows but for the faces: the formula and the number of faces of each result. -/
structure OutcomeOutline where
  text : String
  error : Option String
  results : List (String × Nat)
  deriving DecidableEq

/-- What a view shows but for the faces. -/
structure ViewOutline where
  buffer : Buffer
  outcome : Option OutcomeOutline
  deriving DecidableEq

/-- The outline of an outcome. -/
def Outcome.outline (o : Outcome) : OutcomeOutline :=
  ⟨o.text, o.error?, (o.rolls.map TermRoll.describe).map fun r => (r.formula, r.faces.length)⟩

/-- The outline of a view. -/
def KeypadView.outline (v : KeypadView) : ViewOutline :=
  ⟨v.buffer, v.outcome.map Outcome.outline⟩

/-- Is a step a call of one of the tools that work the keypad? -/
def ServiceStep.isKeypadCall : ServiceStep → Bool
  | pressKeys .. => true
  | inspect => true
  | loadFormula .. => true
  | rollText _ => false
  | setVariable .. => false

/-- The steps of a run change no variable. -/
def OnlyCalls (calls : List ServiceStep) : Prop :=
  ∀ name value drop, ServiceStep.setVariable name value drop ∉ calls

/-- The answers to the keypad calls of a run, in order. -/
def keypadAnswers : List ServiceStep → Desk → List (Except RollError ServiceReply)
  | [], _ => []
  | s :: rest, d =>
    if s.isKeypadCall then (Desk.serve s d).1 :: keypadAnswers rest (Desk.serve s d).2
    else keypadAnswers rest (Desk.serve s d).2

/-- Two answers to a keypad call: the same failure, or views of the same outline. -/
inductive SameOutline : Except RollError ServiceReply → Except RollError ServiceReply → Prop
  | failed (e : RollError) : SameOutline (.error e) (.error e)
  | shown {v₁ v₂ : KeypadView} (h : v₁.outline = v₂.outline) :
    SameOutline (.ok (.view v₁)) (.ok (.view v₂))

/-! ### One submit -/

/-- The outline of the outcome for a text that is read with this result, or the failure. -/
def outlineOf (text : String) :
    Except Failure (Except Refusal (List Term)) → Except Failure OutcomeOutline
  | .error e => .error e
  | .ok (.error cause) => .ok ⟨text, some cause.message, []⟩
  | .ok (.ok ts) =>
    if ∃ t ∈ ts, Magnitude.overflow ≤ t.sides then .error (.die .sidesTooLarge)
    else .ok ⟨text, none, ts.map fun t => (t.text, t.count)⟩

theorem outline_rolled {text : String} {rolls : List TermRoll} {ts : List Term}
    (hterms : rolls.map TermRoll.term = ts) (hadds : ∀ r ∈ rolls, r.Adds) :
    (Outcome.mk text (.rolled rolls)).outline =
      ⟨text, none, ts.map fun t => (t.text, t.count)⟩ := by
  subst hterms
  have hresults : (rolls.map TermRoll.describe).map (fun r => (r.formula, r.faces.length)) =
      (rolls.map TermRoll.term).map fun t => (t.text, t.count) := by
    rw [List.map_map, List.map_map]
    refine List.map_congr_left fun r hr => ?_
    simp only [Function.comp_apply, TermRoll.describe, (hadds r hr).length_faces]
  rw [Outcome.outline, ← hresults]
  rfl

/-- The outline of a submit depends on the text and on how it is read, not on the draws. -/
theorem Submitted.outline_eq {k k' : Keypad} {h : Host} {answer : Except Failure Outcome}
    (hs : Submitted k h answer k') (hdraws : k.source.UnitDraws) :
    answer.map Outcome.outline =
      outlineOf k.buffer.text (h.readTerms (some k.buffer.text)).1 := by
  cases hs with
  | unread hread => rw [hread]; rfl
  | refused hread => rw [hread]; rfl
  | failed hread hroll =>
    obtain ⟨rfl, hlarge⟩ := (fst_rollTerms_eq_error_iff hdraws).1 (congrArg Prod.fst hroll)
    rw [hread, outlineOf, if_pos hlarge]
    rfl
  | rolled hread hroll =>
    have hfits := mt (fun hlarge => (fst_rollTerms_eq_error_iff hdraws).2 ⟨rfl, hlarge⟩)
      (by rw [hroll]; nofun)
    obtain ⟨hterms, hadds, -⟩ := rollTerms_spec hroll
    rw [hread, outlineOf, if_neg hfits, ← outline_rolled hterms hadds]
    rfl

/-- A submit shows the outline of its answer, or what there was if it fails. -/
theorem Submitted.view_outline {k k' : Keypad} {h : Host} {answer : Except Failure Outcome}
    (hs : Submitted k h answer k') : (KeypadView.mk k'.buffer k'.outcome).outline =
      ⟨k.buffer, (answer.map Outcome.outline).toOption.or (k.outcome.map Outcome.outline)⟩ := by
  cases hs <;> rfl

theorem map_eq_error_iff {ε α β : Type} {f : α → β} {x : Except ε α} {e : ε} :
    x.map f = .error e ↔ x = .error e := by
  cases x <;> simp [Except.map]

/-! ### Two keypads -/

/-- Two keypads that show the same but for the faces, with draws from zero up to one. -/
structure Keypad.Alike (k₁ k₂ : Keypad) : Prop where
  outline_eq : (KeypadView.mk k₁.buffer k₁.outcome).outline =
    (KeypadView.mk k₂.buffer k₂.outcome).outline
  unitDraws_left : k₁.source.UnitDraws
  unitDraws_right : k₂.source.UnitDraws

/-- Two operations end alike: with the same failure if any, on keypads that are alike, and with the
settings in use that there were. -/
structure EndAlike {α : Type} (settings : Settings) (x₁ x₂ : Except Failure α × Keypad × Host) :
    Prop where
  failure_iff : ∀ e, x₁.1 = .error e ↔ x₂.1 = .error e
  keypads : x₁.2.1.Alike x₂.2.1
  settings_left : x₁.2.2.settings = some settings
  settings_right : x₂.2.2.settings = some settings

theorem EndAlike.congr {α β : Type} {settings : Settings}
    {x₁ x₂ : Except Failure α × Keypad × Host} {y₁ y₂ : Except Failure β × Keypad × Host}
    (hx : EndAlike settings x₁ x₂) (h₁ : y₁.2 = x₁.2) (h₂ : y₂.2 = x₂.2)
    (hfailure : ∀ e, y₁.1 = .error e ↔ y₂.1 = .error e) : EndAlike settings y₁ y₂ where
  failure_iff := hfailure
  keypads := by
    rw [h₁, h₂]
    exact hx.keypads
  settings_left := by rw [h₁, hx.settings_left]
  settings_right := by rw [h₂, hx.settings_right]

namespace Keypad

variable {k₁ k₂ : Keypad} {h₁ h₂ : Host} {settings : Settings}

theorem Alike.buffer_eq (ha : Alike k₁ k₂) : k₁.buffer = k₂.buffer :=
  congrArg ViewOutline.buffer ha.outline_eq

theorem Alike.outcome_eq (ha : Alike k₁ k₂) :
    k₁.outcome.map Outcome.outline = k₂.outcome.map Outcome.outline :=
  congrArg ViewOutline.outcome ha.outline_eq

theorem Alike.edit (ha : Alike k₁ k₂) (e : Edit) : Alike (k₁.edit e) (k₂.edit e) where
  outline_eq := by
    simp only [Keypad.edit, KeypadView.outline, ha.buffer_eq, ha.outcome_eq]
  unitDraws_left := ha.unitDraws_left
  unitDraws_right := ha.unitDraws_right

theorem Alike.clearAll (ha : Alike k₁ k₂) : Alike k₁.clearAll k₂.clearAll where
  outline_eq := rfl
  unitDraws_left := ha.unitDraws_left
  unitDraws_right := ha.unitDraws_right

theorem fst_readTerms_of_settings {h : Host} (hs : h.settings = some settings) (text : String) :
    (h.readTerms (some text)).1 = answerOf (readTerms settings.limits text) :=
  Host.fst_readTerms_of_limitsFor (congrArg Prod.fst (Host.limitsFor_of_settings hs)) text

theorem Alike.submit (ha : Alike k₁ k₂) (hs₁ : h₁.settings = some settings)
    (hs₂ : h₂.settings = some settings) :
    EndAlike settings (k₁.submit h₁) (k₂.submit h₂) := by
  have hsub₁ := k₁.submitted h₁
  have hsub₂ := k₂.submitted h₂
  have houtline : (k₁.submit h₁).1.map Outcome.outline = (k₂.submit h₂).1.map Outcome.outline := by
    rw [hsub₁.outline_eq ha.unitDraws_left, hsub₂.outline_eq ha.unitDraws_right,
      fst_readTerms_of_settings hs₁, fst_readTerms_of_settings hs₂, ha.buffer_eq]
  refine ⟨fun e => ?_, ⟨?_, ?_, ?_⟩, ?_, ?_⟩
  · rw [← map_eq_error_iff, houtline, map_eq_error_iff]
  · rw [hsub₁.view_outline, hsub₂.view_outline, houtline, ha.buffer_eq, ha.outcome_eq]
  · exact hsub₁.unitDraws ha.unitDraws_left
  · exact hsub₂.unitDraws ha.unitDraws_right
  · rw [(sameButLog_submit hs₁).settings, hs₁]
  · rw [(sameButLog_submit hs₂).settings, hs₂]

theorem Alike.press (ha : Alike k₁ k₂) (hs₁ : h₁.settings = some settings)
    (hs₂ : h₂.settings = some settings) (p : KeyPress) :
    EndAlike settings (k₁.press p h₁) (k₂.press p h₂) := by
  have hsubmit := ha.submit hs₁ hs₂
  refine ⟨fun e => ?_, ?_, settings_press hs₁ p, settings_press hs₂ p⟩
  · rw [fst_press_eq_error_iff, fst_press_eq_error_iff, hsubmit.failure_iff]
  · cases hc : p.command? with
    | none =>
      rw [Keypad.press, Keypad.press, hc]
      exact ha
    | some c =>
      rw [(press_of_command hc h₁).1, (press_of_command hc h₂).1]
      cases c with
      | submit =>
        rw [(k₁.apply_submit h₁).1, (k₂.apply_submit h₂).1]
        exact hsubmit.keypads
      | clearAll => exact ha.clearAll
      | _ => exact ha.edit _

theorem Alike.pressAll (ha : Alike k₁ k₂) (hs₁ : h₁.settings = some settings)
    (hs₂ : h₂.settings = some settings) (ps : List KeyPress) :
    EndAlike settings (k₁.pressAll ps h₁) (k₂.pressAll ps h₂) := by
  induction ps generalizing k₁ k₂ h₁ h₂ with
  | nil => exact ⟨fun _ => Iff.rfl, ha, hs₁, hs₂⟩
  | cons p ps ih =>
    have hpress := ha.press hs₁ hs₂ p
    rw [Keypad.pressAll, Keypad.pressAll]
    rcases h₁p : k₁.press p h₁ with ⟨e | c₁, k₁', h₁'⟩
    · rw [h₁p] at hpress
      have hfails := (hpress.failure_iff e).1 rfl
      rcases h₂p : k₂.press p h₂ with ⟨e' | c₂, k₂', h₂'⟩
      · rw [h₂p] at hpress hfails
        obtain rfl := Except.error.inj hfails
        exact ⟨fun _ => Iff.rfl, hpress.keypads, hpress.settings_left, hpress.settings_right⟩
      · rw [h₂p] at hfails
        cases hfails
    · rw [h₁p] at hpress
      rcases h₂p : k₂.press p h₂ with ⟨e | c₂, k₂', h₂'⟩
      · rw [h₂p] at hpress
        cases (hpress.failure_iff e).2 rfl
      · rw [h₂p] at hpress
        exact ih hpress.keypads hpress.settings_left hpress.settings_right

theorem Alike.load (ha : Alike k₁ k₂) (hs₁ : h₁.settings = some settings)
    (hs₂ : h₂.settings = some settings) (text : String) (roll : Bool) :
    EndAlike settings (k₁.load text roll h₁) (k₂.load text roll h₂) := by
  have hloaded := ha.edit (.setText text)
  cases roll with
  | false => exact ⟨fun _ => Iff.rfl, hloaded, hs₁, hs₂⟩
  | true =>
    refine (hloaded.submit hs₁ hs₂).congr (k₁.load_true text h₁).1 (k₂.load_true text h₂).1
      fun e => ?_
    rw [fst_load_eq_error_iff, fst_load_eq_error_iff]
    exact (hloaded.submit hs₁ hs₂).failure_iff e

end Keypad

/-! ### Two desks -/

/-- Two desks with the same settings in use, whose keypads are alike. -/
structure Desk.Alike (settings : Settings) (d₁ d₂ : Desk) : Prop where
  keypads : d₁.keypad.Alike d₂.keypad
  settings_left : d₁.host.settings = some settings
  settings_right : d₂.host.settings = some settings

theorem Host.settings_rollText {h : Host} {settings : Settings} (hs : h.settings = some settings)
    (text : Option String) (s : Source) :
    (RollPad.rollText text s h).2.2.settings = some settings := by
  have hread := snd_readTerms_of_settings hs text
  unfold RollPad.rollText
  rcases hr : h.readTerms text with ⟨e | cause | terms, h'⟩
  all_goals
    rw [hr] at hread
    obtain rfl : h' = h := hread
  · exact hs
  · exact hs
  · dsimp only
    rcases rollTerms terms s with ⟨e | rolls, s'⟩
    · exact hs
    · exact (sameButLog_emit h' _).settings.trans hs

namespace Desk

variable {d₁ d₂ : Desk} {settings : Settings}

theorem Alike.symm (ha : Alike settings d₁ d₂) : Alike settings d₂ d₁ :=
  ⟨⟨ha.keypads.outline_eq.symm, ha.keypads.unitDraws_right, ha.keypads.unitDraws_left⟩,
    ha.settings_right, ha.settings_left⟩

/-- A text that is rolled on one of two desks leaves them alike. -/
theorem Alike.rollText (ha : Alike settings d₁ d₂) (text : Option String) :
    Alike settings (serve (.rollText text) d₁).2 d₂ := by
  rw [serve, snd_replyOf]
  exact ⟨⟨ha.keypads.outline_eq, unitDraws_rollText ha.keypads.unitDraws_left d₁.host,
    ha.keypads.unitDraws_right⟩, Host.settings_rollText ha.settings_left text _, ha.settings_right⟩

theorem sameOutline_viewAfter {α : Type} {x₁ x₂ : Except Failure α × Keypad × Host}
    (hx : EndAlike settings x₁ x₂) :
    SameOutline (replyOf .failed .view (viewAfter x₁)).1 (replyOf .failed .view (viewAfter x₂)).1 ∧
      Alike settings (replyOf RollError.failed .view (viewAfter x₁)).2
        (replyOf RollError.failed .view (viewAfter x₂)).2 := by
  rw [snd_replyOf, snd_replyOf, snd_viewAfter, snd_viewAfter]
  refine ⟨?_, hx.keypads, hx.settings_left, hx.settings_right⟩
  rcases x₁ with ⟨e | y₁, k₁, h₁⟩
  · have hfails := (hx.failure_iff e).1 rfl
    rcases x₂ with ⟨e' | y₂, k₂, h₂⟩
    · obtain rfl := Except.error.inj hfails
      exact .failed _
    · cases hfails
  · rcases x₂ with ⟨e | y₂, k₂, h₂⟩
    · cases (hx.failure_iff e).2 rfl
    · exact .shown hx.keypads.outline_eq

/-- Desks that are alike answer a keypad call with the same outline, and stay alike. -/
theorem Alike.serve (ha : Alike settings d₁ d₂) {s : ServiceStep} (hs : s.isKeypadCall = true) :
    SameOutline (serve s d₁).1 (serve s d₂).1 ∧ Alike settings (serve s d₁).2 (serve s d₂).2 := by
  cases s with
  | pressKeys keys altKey ctrlKey =>
    exact sameOutline_viewAfter (ha.keypads.pressAll ha.settings_left ha.settings_right _)
  | inspect => exact ⟨.shown ha.keypads.outline_eq, ha⟩
  | loadFormula text roll =>
    exact sameOutline_viewAfter (ha.keypads.load ha.settings_left ha.settings_right text roll)
  | rollText text => cases hs
  | setVariable name value drop => cases hs

end Desk

/-! ### Two runs -/

theorem OnlyCalls.mono {xs ys : List ServiceStep} (h : OnlyCalls ys) (hsub : xs ⊆ ys) :
    OnlyCalls xs :=
  fun name value drop hmem => h name value drop (hsub hmem)

/-- A call that is no keypad call rolls a text. -/
theorem OnlyCalls.exists_rollText {calls : List ServiceStep} (h : OnlyCalls calls)
    {s : ServiceStep} (hmem : s ∈ calls) (hs : ¬s.isKeypadCall = true) :
    ∃ text, s = .rollText text := by
  cases s with
  | rollText text => exact ⟨text, rfl⟩
  | setVariable name value drop => exact absurd hmem (h name value drop)
  | _ => exact absurd rfl hs

theorem keypadAnswers_append (xs ys : List ServiceStep) (d : Desk) :
    keypadAnswers (xs ++ ys) d =
      keypadAnswers xs d ++ keypadAnswers ys (stateAfter Desk.serve xs d) := by
  induction xs generalizing d with
  | nil => rfl
  | cons x xs ih =>
    rw [List.cons_append, keypadAnswers, keypadAnswers, ih]
    split <;> rfl

/-- Texts that are rolled on one of two desks leave them alike and answer no keypad call. -/
theorem Desk.Alike.rollTexts {d₁ d₂ : Desk} {settings : Settings} (ha : Alike settings d₁ d₂)
    {calls : List ServiceStep} (hcalls : ∀ s ∈ calls, ∃ text, s = .rollText text) :
    Alike settings (stateAfter Desk.serve calls d₁) d₂ ∧ RollPad.keypadAnswers calls d₁ = [] := by
  induction calls generalizing d₁ with
  | nil => exact ⟨ha, rfl⟩
  | cons s rest ih =>
    obtain ⟨⟨text, rfl⟩, hrest⟩ := List.forall_mem_cons.1 hcalls
    exact ih (ha.rollText text) hrest

/-- Runs with the same keypad calls, from desks that are alike, answer them with the same outlines.
The induction is on the first run; the second catches up with it by the texts that it rolls. -/
theorem Desk.Alike.keypadAnswers {d₁ d₂ : Desk} {settings : Settings} (ha : Alike settings d₁ d₂)
    {calls₁ calls₂ : List ServiceStep} (honly₁ : OnlyCalls calls₁) (honly₂ : OnlyCalls calls₂)
    (hsame : calls₁.filter ServiceStep.isKeypadCall = calls₂.filter ServiceStep.isKeypadCall) :
    List.Forall₂ SameOutline (keypadAnswers calls₁ d₁) (keypadAnswers calls₂ d₂) := by
  induction calls₁ generalizing calls₂ d₁ d₂ with
  | nil =>
    have hnone := List.filter_eq_nil_iff.1 hsame.symm
    rw [(ha.symm.rollTexts fun s hs => honly₂.exists_rollText hs (hnone s hs)).2]
    exact .nil
  | cons s rest ih =>
    have honly := honly₁.mono (List.subset_cons_self s rest)
    by_cases hs : s.isKeypadCall = true
    · rw [List.filter_cons_of_pos hs] at hsame
      obtain ⟨before, after, rfl, hbefore, -, hafter⟩ := List.filter_eq_cons_iff.1 hsame.symm
      have hrolls := fun s hs => (honly₂.mono (List.subset_append_left before _)).exists_rollText hs
        (hbefore s hs)
      obtain ⟨halike, hnone⟩ := ha.symm.rollTexts hrolls
      obtain ⟨hanswer, hserved⟩ := halike.symm.serve hs
      rw [keypadAnswers_append, hnone, List.nil_append, RollPad.keypadAnswers, if_pos hs,
        RollPad.keypadAnswers, if_pos hs]
      exact .cons hanswer (ih hserved honly (honly₂.mono (by simp)) hafter.symm)
    · rw [List.filter_cons_of_neg hs] at hsame
      obtain ⟨text, rfl⟩ := honly₁.exists_rollText List.mem_cons_self hs
      rw [RollPad.keypadAnswers, if_neg hs]
      exact ih (ha.rollText text) honly honly₂ hsame

/-- Two runs from the same keypad and host, with settings in use and with draws from zero up to one
that need not be the same, make the same keypad calls, and any rolls of texts in between. Then these
calls fail in one run exactly if they do in the other, for the same cause, and otherwise show the
same buffer and, but for the faces of the dice, the same outcome. -/
theorem outlines_independent {k : Keypad} {h : Host} {settings : Settings} {s₁ s₂ : Source}
    {calls₁ calls₂ : List ServiceStep} (hs : h.settings = some settings) (hdraws₁ : s₁.UnitDraws)
    (hdraws₂ : s₂.UnitDraws) (honly₁ : OnlyCalls calls₁) (honly₂ : OnlyCalls calls₂)
    (hsame : calls₁.filter ServiceStep.isKeypadCall = calls₂.filter ServiceStep.isKeypadCall) :
    List.Forall₂ SameOutline (keypadAnswers calls₁ ⟨{ k with source := s₁ }, h⟩)
      (keypadAnswers calls₂ ⟨{ k with source := s₂ }, h⟩) := by
  have ha : Desk.Alike settings ⟨{ k with source := s₁ }, h⟩ ⟨{ k with source := s₂ }, h⟩ :=
    ⟨⟨rfl, hdraws₁, hdraws₂⟩, hs, hs⟩
  exact ha.keypadAnswers honly₁ honly₂ hsame

/-- Other draws and other rolls in between: dice show other faces, and the outlines are the same. -/
theorem outlines_independent_other_draws :
    let settings : Settings := ⟨⟨1000, 1000000, 10000⟩, "INFO", none, by decide +kernel⟩
    let k : Keypad := { source := .system [], buffer := .ofText "x" }
    let h : Host := { settings := some settings }
    let s₁ : Source := .system []
    let s₂ : Source := .system [Binary64.ofRatio false Binary64.unitsPerOne 2]
    let calls₁ : List ServiceStep := [.rollText (some "3d8"), .pressKeys ["Enter"] false false,
      .loadFormula "2d6 1d20" true, .inspect]
    let calls₂ : List ServiceStep := [.pressKeys ["Enter"] false false, .rollText none,
      .loadFormula "2d6 1d20" true, .rollText (some "1d6 y"), .inspect, .rollText (some "1d2")]
    s₁.UnitDraws ∧ s₂.UnitDraws ∧ OnlyCalls calls₁ ∧ OnlyCalls calls₂ ∧
      calls₁.filter ServiceStep.isKeypadCall = calls₂.filter ServiceStep.isKeypadCall ∧
      keypadAnswers calls₁ ⟨{ k with source := s₁ }, h⟩ ≠
        keypadAnswers calls₂ ⟨{ k with source := s₂ }, h⟩ ∧
      List.Forall₂ SameOutline (keypadAnswers calls₁ ⟨{ k with source := s₁ }, h⟩)
        (keypadAnswers calls₂ ⟨{ k with source := s₂ }, h⟩) := by
  intro settings k h s₁ s₂ calls₁ calls₂
  have hdraws₁ : s₁.UnitDraws := by decide +kernel
  have hdraws₂ : s₂.UnitDraws := by decide +kernel
  have honly₁ : OnlyCalls calls₁ := by simp [OnlyCalls, calls₁]
  have honly₂ : OnlyCalls calls₂ := by simp [OnlyCalls, calls₂]
  have hsame : calls₁.filter ServiceStep.isKeypadCall =
      calls₂.filter ServiceStep.isKeypadCall := rfl
  have hother : keypadAnswers calls₁ ⟨{ k with source := s₁ }, h⟩ ≠
      keypadAnswers calls₂ ⟨{ k with source := s₂ }, h⟩ := by
    decide +kernel
  exact ⟨hdraws₁, hdraws₂, honly₁, honly₂, hsame, hother,
    outlines_independent rfl hdraws₁ hdraws₂ honly₁ honly₂ hsame⟩

end RollPad
