import RollPad.Proofs.Keypad.Request
import RollPad.Service

/-!
Two ways to roll a text. A report on a text, and a keypad into which the text is loaded and rolled,
read the text and roll its terms on their own, and deal with a refusal in different ways: for a
report it is an error, for the keypad an outcome. `SameAnswer` says when their answers mean the same
nevertheless; the main statement is that they always do, and that both leave the source of draws and
the settings in use in the same state (`rollText_agrees_with_load`).
-/

namespace RollPad

/-- What a report on a text and a load that rolls it answer: the same rolls, or the same refusal,
or the same failure. -/
inductive SameAnswer (text : String) :
    Except RollError Report → Except Failure (Option Outcome) → Prop
  | rolled {report : Report} {o : Outcome} (text_eq : o.text = text) (isOk : o.isOk = true)
      (error_eq : o.error? = none) (rolls_eq : o.rolls = report.rolls)
      (total_eq : o.total = report.total)
      (descriptions_eq : o.rolls.map TermRoll.describe = report.descriptions) :
    SameAnswer text (.ok report) (.ok (some o))
  | refused {cause : Refusal} {o : Outcome} (text_eq : o.text = text)
      (error_eq : o.error? = some (RollError.refused cause).message) (rolls_eq : o.rolls = []) :
    SameAnswer text (.error (.refused cause)) (.ok (some o))
  | failed (cause : Failure) : SameAnswer text (.error (.failed cause)) (.error cause)

/-- Hosts that were the same before they wrote to the log differ in the log alone. -/
theorem Host.sameButLog_emit_emit (h : Host) (r₁ r₂ : Log.Record) :
    SameButLog (h.emit r₁) (h.emit r₂) :=
  (sameButLog_emit h r₁).symm.trans (sameButLog_emit h r₂)

/-- A report and a load both read the text, and roll its terms if it is not refused; after that they
differ in what they log. -/
theorem sameAnswer_load (text : String) (k : Keypad) (h : Host) :
    SameAnswer text (rollText (some text) k.source h).1 (k.load text true h).1 ∧
      (rollText (some text) k.source h).2.1 = (k.load text true h).2.1.source ∧
      Host.SameButLog (rollText (some text) k.source h).2.2 (k.load text true h).2.2 := by
  simp only [rollText, Keypad.load, Keypad.submit, Host.parse, if_true, Keypad.edit, Buffer.apply,
    Buffer.setText, Buffer.ofText]
  rcases h.readTerms (some text) with ⟨e | cause | terms, h'⟩
  · exact ⟨.failed e, rfl, .refl h'⟩
  · exact ⟨.refused rfl rfl rfl, rfl, Host.sameButLog_emit h' _⟩
  · dsimp only
    rcases rollTerms terms k.source with ⟨e | rolls, source⟩
    · exact ⟨.failed (.die e), rfl, .refl h'⟩
    · exact ⟨.rolled rfl rfl rfl rfl rfl rfl, rfl, Host.sameButLog_emit_emit h' _ _⟩

/-- A text is refused when it is read, before the source is asked for a draw. -/
theorem rollText_of_refused {text : Option String} {h : Host} {cause : Refusal}
    (hread : (h.readTerms text).1 = .ok (.error cause)) (s : Source) :
    rollText text s h = (.error (.refused cause), s, (h.readTerms text).2) := by
  unfold rollText
  rcases hr : h.readTerms text with ⟨e | cause' | terms, h'⟩
  · simp [hr] at hread
  · obtain rfl : cause' = cause := by simpa [hr] using hread
    rfl
  · simp [hr] at hread

theorem fst_rollText_eq_refused_iff {text : Option String} {s : Source} {h : Host}
    {cause : Refusal} :
    (rollText text s h).1 = .error (.refused cause) ↔
      (h.readTerms text).1 = .ok (.error cause) := by
  constructor
  · intro hrefused
    unfold rollText at hrefused
    rcases hr : h.readTerms text with ⟨e | cause' | terms, h'⟩
    · simp [hr] at hrefused
    · simpa [hr] using hrefused
    · rw [hr] at hrefused
      dsimp only at hrefused
      rcases hroll : rollTerms terms s with ⟨e | rolls, source⟩
      · simp [hroll] at hrefused
      · simp [hroll] at hrefused
  · intro hread
    rw [rollText_of_refused hread]

/-- The tool that rolls a text refuses it as a report does, whatever draws it has, and leaves its
keypad alone. -/
theorem Desk.serve_rollText_of_refused {text : String} {h : Host} {cause : Refusal}
    (hread : (h.readTerms (some text)).1 = .ok (.error cause)) (k : Keypad) :
    (serve (.rollText (some text)) ⟨k, h⟩).1 = .error (.refused cause) ∧
      (serve (.rollText (some text)) ⟨k, h⟩).2.keypad = k := by
  rw [serve, rollText, rollText_of_refused hread k.source]
  exact ⟨rfl, rfl⟩

/-- A report on a text and a load that rolls it, from the same draws and on the same host, tell the
same rolls, or the same refusal, or fail for the same cause. They leave the source and, but for the
log, the host in the same state. A refusal takes no draw, and the tool that rolls texts refuses the
text too, with the same message. -/
theorem rollText_agrees_with_load (text : String) (k : Keypad) (h : Host) :
    let reported := rollText (some text) k.source h
    let loaded := k.load text true h
    SameAnswer text reported.1 loaded.1 ∧ reported.2.1 = loaded.2.1.source ∧
      Host.SameButLog reported.2.2 loaded.2.2 ∧
      ∀ cause, reported.1 = .error (.refused cause) →
        reported.2.1 = k.source ∧ loaded.2.1.source = k.source ∧
          ∀ k', (Desk.serve (.rollText (some text)) ⟨k', h⟩).1 = .error (.refused cause) ∧
            (Desk.serve (.rollText (some text)) ⟨k', h⟩).2.keypad = k' := by
  intro reported loaded
  obtain ⟨hanswer, hsource, hhost⟩ := sameAnswer_load text k h
  refine ⟨hanswer, hsource, hhost, fun cause hrefused => ?_⟩
  have hread := fst_rollText_eq_refused_iff.1 hrefused
  have hkept : reported.2.1 = k.source := by
    rw [show reported = _ from rollText_of_refused hread k.source]
  exact ⟨hkept, hsource.symm.trans hkept, Desk.serve_rollText_of_refused hread⟩

/-- A refused text that begins with a term, for a keypad that has drawn before. -/
theorem rollText_agrees_with_load_refused :
    let source : Source := (Source.system []).advance 3
    let k : Keypad := { source, buffer := .ofText "1d6" }
    (rollText (some "2d6 x") k.source {}).1 = .error (.refused ⟨.notATerm "x", rfl⟩) ∧
      (k.load "2d6 x" true {}).2.1.source = k.source ∧
      (Desk.serve (.rollText (some "2d6 x")) ⟨k, {}⟩).1 =
        .error (.refused ⟨.notATerm "x", rfl⟩) := by
  intro source k
  have hrefused : (rollText (some "2d6 x") k.source {}).1 =
      .error (.refused ⟨.notATerm "x", rfl⟩) := by
    decide +kernel
  obtain ⟨-, -, -, hkept⟩ := rollText_agrees_with_load "2d6 x" k {}
  obtain ⟨-, hloaded, htool⟩ := hkept _ hrefused
  exact ⟨hrefused, hloaded, (htool k).1⟩

end RollPad
