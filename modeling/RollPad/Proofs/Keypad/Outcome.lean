import RollPad.Proofs.Dice.Roll
import RollPad.Proofs.Keypad.Buffer
import RollPad.Proofs.Keypad.Request
import RollPad.Proofs.Notation.Canonical
import RollPad.Session

/-!
The outcome on display. Between submits an outcome stays what it was when it was stored, whatever is
edited meanwhile, so it speaks of the text and the limits of an earlier moment: `Stores` says what
holds at that moment, for one step, and `keypad_session` finds the moment in the run that led to a
state. The step lemma is `outcome_step`: a step keeps the outcome, or forgets it, or stores a new
one.
-/

namespace RollPad

/-! ### Outcomes -/

/-- An outcome is the roll of its text as read within the limits in force on a host. -/
structure Outcome.RolledOn (o : Outcome) (h : Host) : Prop where
  error_eq : o.error? = none
  rolls_ne_nil : o.rolls ≠ []
  adds : ∀ r ∈ o.rolls, r.Adds
  read : ∃ limits, (h.limitsFor {}).1 = .ok limits ∧
    readTerms limits o.text = .ok (o.rolls.map TermRoll.term) ∧
    (diceOf o.rolls).length ≤ limits.maxTotal

/-- An outcome is the refusal of its text by a host. -/
structure Outcome.RefusedOn (o : Outcome) (h : Host) : Prop where
  rolls_eq : o.rolls = []
  total_eq : o.total = 0
  error_eq : ∃ reason, o.error? = some ("Invalid dice notation: " ++ reason)
  read : ∃ cause, (h.readTerms (some o.text)).1 = .ok (.error cause) ∧
    o.error? = some cause.message

/-- The text that a step rolls if it submits. -/
def KeypadStep.textToRoll : KeypadStep → Buffer → String
  | load text _, _ => text
  | _, b => b.text

/-- A step at a desk stores an outcome: it submits, and the outcome is that of the text which is in
the buffer then. -/
structure Stores (d : Desk) (s : KeypadStep) (o : Outcome) : Prop where
  submits : s.Submits
  text_eq : o.text = s.textToRoll d.keypad.buffer
  buffer_eq : (Desk.step s d).2.keypad.buffer.text = o.text
  outcome_eq : (Desk.step s d).2.keypad.outcome = some o
  verdict : o.RolledOn d.host ∨ o.RefusedOn d.host

/-- The desk of a new keypad. -/
def Desk.fresh (text : String) (source : Source) (host : Host) : Desk :=
  ⟨{ buffer := .ofText text, source }, host⟩

/-! ### One submit -/

theorem length_diceOf {rolls : List TermRoll} (h : ∀ r ∈ rolls, r.Adds) :
    (diceOf rolls).length = diceTotal (rolls.map TermRoll.term) := by
  induction rolls with
  | nil => rfl
  | cons r rest ih =>
    obtain ⟨hr, hrest⟩ := List.forall_mem_cons.1 h
    rw [diceOf_cons, List.length_append, ih hrest, List.map_cons, diceTotal_cons, ← hr.length_faces,
      TermRoll.dice, List.length_map]

theorem rolledOn_of_rollTerms {h : Host} {text : String} {terms : List Term}
    {rolls : List TermRoll} {s s' : Source}
    (hread : (h.readTerms (some text)).1 = .ok (.ok terms))
    (hroll : rollTerms terms s = (.ok rolls, s')) :
    (Outcome.mk text (.rolled rolls)).RolledOn h := by
  obtain ⟨limits, hlimits, hterms⟩ := Host.exists_limitsFor_of_readTerms hread
  obtain ⟨rfl, hadds, -⟩ := rollTerms_spec hroll
  obtain ⟨hne, -, hfits⟩ := writable_of_readTerms hterms
  refine ⟨rfl, fun hnil => hne ?_, hadds, limits, hlimits, hterms, ?_⟩
  · obtain rfl : rolls = [] := hnil
    rfl
  · exact (length_diceOf hadds).symm ▸ hfits.total_le

theorem refusedOn_of_readTerms {h : Host} {text : String} {cause : Refusal}
    (hread : (h.readTerms (some text)).1 = .ok (.error cause)) :
    (Outcome.mk text (.refused cause)).RefusedOn h := by
  obtain ⟨reason, hreason⟩ := cause.exists_message_eq
  exact ⟨rfl, rfl, ⟨reason, congrArg some hreason⟩, cause, hread, rfl⟩

/-- A submit leaves the buffer alone, and the outcome too if it fails; otherwise it stores what
became of the text. -/
theorem Submitted.outcome {k k' : Keypad} {h : Host} {answer : Except Failure Outcome}
    (hs : Submitted k h answer k') :
    k'.buffer = k.buffer ∧ (k'.outcome = k.outcome ∨
      ∃ o, k'.outcome = some o ∧ o.text = k.buffer.text ∧ (o.RolledOn h ∨ o.RefusedOn h)) := by
  cases hs with
  | unread => exact ⟨rfl, .inl rfl⟩
  | refused hread => exact ⟨rfl, .inr ⟨_, rfl, rfl, .inr (refusedOn_of_readTerms hread)⟩⟩
  | failed => exact ⟨rfl, .inl rfl⟩
  | rolled hread hroll => exact ⟨rfl, .inr ⟨_, rfl, rfl, .inl (rolledOn_of_rollTerms hread hroll)⟩⟩

/-! ### One step -/

theorem KeypadStep.textToRoll_eq {s : KeypadStep} {loaded : Option String}
    (hs : s.request = .submit loaded) (k : Keypad) :
    s.textToRoll k.buffer = (k.loading loaded).buffer.text := by
  obtain ⟨hc, rfl⟩ | ⟨text, rfl, rfl⟩ := request_eq_submit_iff.1 hs
  · cases s with
    | load text roll => cases hc
    | _ => rfl
  · rfl

/-- A step keeps the outcome, forgets it or stores one. -/
theorem Desk.outcome_step (s : KeypadStep) (d : Desk) :
    (step s d).2.keypad.outcome = d.keypad.outcome ∨
      (s.Clears ∧ (step s d).2.keypad.outcome = none) ∨ ∃ o, Stores d s o := by
  cases hs : s.request with
  | nothing => exact .inl (by rw [keypad_step, hs]; rfl)
  | edit e => exact .inl (by rw [keypad_step, hs]; rfl)
  | clear => exact .inr (.inl ⟨KeypadStep.clears_iff.2 hs, by rw [keypad_step, hs]; rfl⟩)
  | submit loaded =>
    have hafter := keypad_step_of_submit hs d
    obtain ⟨hbuffer, hkept | ⟨o, ho, htext, hverdict⟩⟩ :=
      ((d.keypad.loading loaded).submitted d.host).outcome
    · exact .inl (by rw [hafter, hkept, Keypad.loading_outcome])
    · refine .inr (.inr ⟨o, KeypadStep.submits_iff.2 ⟨loaded, hs⟩, ?_, ?_, ?_, hverdict⟩)
      · rw [htext, KeypadStep.textToRoll_eq hs]
      · rw [hafter, hbuffer, htext]
      · rw [hafter, ho]

theorem Desk.outcome_step_of_not {s : KeypadStep} (hs : ¬s.Submits) (hc : ¬s.Clears) (d : Desk) :
    (step s d).2.keypad.outcome = d.keypad.outcome := by
  obtain hkept | ⟨hclears, -⟩ | ⟨o, hstores⟩ := outcome_step s d
  · exact hkept
  · exact absurd hclears hc
  · exact absurd hstores.submits hs

theorem Desk.valid_step (s : KeypadStep) (d : Desk) (hd : d.keypad.buffer.Valid) :
    (step s d).2.keypad.buffer.Valid := by
  rw [keypad_step]
  cases s.request with
  | nothing => exact hd
  | edit e => exact hd.apply e
  | clear => exact hd.apply .clear
  | submit loaded =>
    obtain ⟨hbuffer, -⟩ := ((d.keypad.loading loaded).submitted d.host).outcome
    rw [Keypad.answer, hbuffer]
    cases loaded with
    | none => exact hd
    | some text => exact hd.apply (.setText text)

/-! ### A whole session -/

/-- An outcome on display was stored by a step of the session and has been on display since. -/
theorem exists_stores {start : Desk} (hstart : start.keypad.outcome = none)
    (steps : List KeypadStep) {o : Outcome}
    (ho : (stateAfter Desk.step steps start).keypad.outcome = some o) :
    ∃ before s after, steps = before ++ s :: after ∧
      Stores (stateAfter Desk.step before start) s o ∧
      ∀ later, later <+: after →
        (stateAfter Desk.step (before ++ s :: later) start).keypad.outcome = some o := by
  induction steps using List.reverseRecOn with
  | nil => exact nomatch hstart.symm.trans ho
  | append_singleton steps s ih =>
    rw [stateAfter_concat] at ho
    obtain hkept | ⟨-, hnone⟩ | ⟨o', hstores⟩ :=
      Desk.outcome_step s (stateAfter Desk.step steps start)
    · obtain ⟨before, s', after, rfl, hstores, hsince⟩ := ih (hkept ▸ ho)
      refine ⟨before, s', after ++ [s], by simp, hstores, fun later hlater => ?_⟩
      rcases List.prefix_concat_iff.1 hlater with rfl | hlater
      · rw [← List.cons_append, ← List.append_assoc, stateAfter_concat]
        exact ho
      · exact hsince later hlater
    · exact nomatch hnone.symm.trans ho
    · obtain rfl := Option.some.inj (hstores.outcome_eq.symm.trans ho)
      refine ⟨steps, s, [], rfl, hstores, fun later hlater => ?_⟩
      obtain rfl := List.prefix_nil.1 hlater
      rw [stateAfter_concat]
      exact ho

/-- In every state of a session the caret is within the text; an outcome on display was stored by a
submit, whose text and limits it speaks of, and has been on display since; and only steps that
submit or clear change it. -/
theorem keypad_session (text : String) (source : Source) (host : Host) (steps : List KeypadStep) :
    (stateAfter Desk.step steps (.fresh text source host)).keypad.buffer.Valid ∧
      (∀ o, (stateAfter Desk.step steps (.fresh text source host)).keypad.outcome = some o →
        ∃ before s after, steps = before ++ s :: after ∧
          Stores (stateAfter Desk.step before (.fresh text source host)) s o ∧
          ∀ later, later <+: after →
            (stateAfter Desk.step (before ++ s :: later) (.fresh text source host)).keypad.outcome =
              some o) ∧
      ∀ s, ¬s.Submits → ¬s.Clears →
        (stateAfter Desk.step (steps ++ [s]) (.fresh text source host)).keypad.outcome =
          (stateAfter Desk.step steps (.fresh text source host)).keypad.outcome := by
  refine ⟨?_, fun o ho => exists_stores rfl steps ho, fun s hs hc => ?_⟩
  · exact stateAfter_induction Desk.valid_step steps (Buffer.valid_ofText text)
  · rw [stateAfter_concat]
    exact Desk.outcome_step_of_not hs hc _

/-- A roll that has been edited since, under limits that would refuse it by now. -/
theorem keypad_session_since_edited :
    let source : Source := .system []
    let steps : List KeypadStep := [.load "2d6" true,
      .setVariable "DICE_MAX_COUNT" (some "1") true, .apply "insert" "0", .apply "undo" ""]
    let outcome : Outcome := ⟨"2d6", .rolled [⟨⟨2, 6, by decide, by decide⟩, [1, 1], 2⟩]⟩
    (stateAfter Desk.step steps (.fresh "1d" source {})).keypad.outcome = some outcome ∧
      (stateAfter Desk.step steps (.fresh "1d" source {})).keypad.buffer.Valid ∧
      (∃ before s after, steps = before ++ s :: after ∧
        Stores (stateAfter Desk.step before (.fresh "1d" source {})) s outcome ∧
        ∀ later, later <+: after →
          (stateAfter Desk.step (before ++ s :: later) (.fresh "1d" source {})).keypad.outcome =
            some outcome) ∧
      (stateAfter Desk.step (steps ++ [.apply "move_left" ""])
        (.fresh "1d" source {})).keypad.outcome = some outcome := by
  intro source steps outcome
  have ho : (stateAfter Desk.step steps (.fresh "1d" source {})).keypad.outcome = some outcome := by
    decide +kernel
  obtain ⟨hvalid, hstored, hkept⟩ := keypad_session "1d" source {} steps
  have hsubmits : ¬(KeypadStep.apply "move_left" "").Submits := by decide
  have hclears : ¬(KeypadStep.apply "move_left" "").Clears := fun h =>
    nomatch KeypadStep.clears_iff.1 h
  exact ⟨ho, hvalid, hstored outcome ho, (hkept _ hsubmits hclears).trans ho⟩

end RollPad
