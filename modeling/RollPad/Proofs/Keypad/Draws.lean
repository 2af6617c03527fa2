import RollPad.Proofs.Dice.Roll
import RollPad.Proofs.Keypad.Request
import RollPad.Session

/-!
Draws over a session. The source of a keypad moves on only when a text is rolled, and then by one
draw for each die. So the dice of all rolls of a session, numbered in order, show the draws of the
source under the same numbers (`session_draws`). A step takes the draws of its own dice
(`Desk.takes_step`), and what steps take one after another adds up.
-/

namespace RollPad

/-- The rolls of a step: those of the outcome that it stores, if it submits. -/
def Desk.rollsOf (s : KeypadStep) (d : Desk) : List TermRoll :=
  if s.Submits then ((step s d).2.keypad.outcome.map Outcome.rolls).getD [] else []

/-- The dice of all rolls of a session, in the order in which they are rolled. -/
def sessionDice : List KeypadStep → Desk → List (Nat × Int)
  | [], _ => []
  | s :: rest, d => diceOf (d.rollsOf s) ++ sessionDice rest (Desk.step s d).2

/-! ### Cycles -/

namespace Source

/-- The draws of a source go round its values. -/
theorem getElem?_drawAt (s : Source) (j : Nat) :
    s.values[j % s.values.length]? = some (s.drawAt j) := by
  rw [drawAt, List.get_eq_getElem]
  exact List.getElem?_eq_getElem _

/-- A cycle starts at its first value. -/
theorem of_cycle_eq_ok {values : List Binary64} {s : Source} (h : cycle values = .ok s) :
    s.values = values ∧ s.position = 0 := by
  unfold cycle at h
  split at h
  · cases h
  · split at h
    · cases h
    · obtain rfl := Except.ok.inj h
      exact ⟨rfl, rfl⟩

end Source

/-! ### One step -/

/-- A refused text has no rolls. -/
theorem Outcome.rolls_eq_nil {o : Outcome} (h : o.isOk = false) : o.rolls = [] := by
  obtain ⟨text, rolls | cause⟩ := o
  · cases h
  · rfl

/-- A submit that answers takes the draws of its dice; a refused text has none. -/
theorem Submitted.takes {k k' : Keypad} {h : Host} {answer : Except Failure Outcome}
    (hs : Submitted k h answer k') (hok : answer.isOk = true) :
    ∃ o, k'.outcome = some o ∧ Takes k.source k'.source (diceOf o.rolls) := by
  cases hs with
  | unread => cases hok
  | refused => exact ⟨_, rfl, .nil k.source⟩
  | failed => cases hok
  | rolled hread hroll =>
    obtain ⟨-, -, htakes⟩ := rollTerms_spec hroll
    exact ⟨_, rfl, htakes⟩

theorem Desk.rollsOf_of_not {s : KeypadStep} (hs : ¬s.Submits) (d : Desk) : d.rollsOf s = [] :=
  if_neg hs

theorem Desk.source_step_of_not {s : KeypadStep} (hs : ¬s.Submits) (d : Desk) :
    (step s d).2.keypad.source = d.keypad.source := by
  rw [keypad_step]
  cases hr : s.request with
  | submit loaded => exact absurd (KeypadStep.submits_iff.2 ⟨loaded, hr⟩) hs
  | _ => rfl

/-- A step that answers takes the draws of its dice. -/
theorem Desk.takes_step {s : KeypadStep} {d : Desk} (hok : (step s d).1.isOk = true) :
    Takes d.keypad.source (step s d).2.keypad.source (diceOf (d.rollsOf s)) := by
  by_cases hs : s.Submits
  · obtain ⟨loaded, hr⟩ := KeypadStep.submits_iff.1 hs
    rw [isOk_step_of_submit hr] at hok
    obtain ⟨o, ho, htakes⟩ := ((d.keypad.loading loaded).submitted d.host).takes hok
    rw [rollsOf, if_pos hs, keypad_step_of_submit hr, ho]
    rwa [Keypad.loading_source] at htakes
  · rw [rollsOf_of_not hs, source_step_of_not hs]
    exact .nil d.keypad.source

/-! ### A whole session -/

/-- A session without failures takes the draws of its dice. -/
theorem takes_session {steps : List KeypadStep} {d : Desk}
    (hok : ∀ answer ∈ trace Desk.step steps d, answer.1.isOk = true) :
    Takes d.keypad.source (stateAfter Desk.step steps d).keypad.source (sessionDice steps d) := by
  induction steps generalizing d with
  | nil => exact .nil d.keypad.source
  | cons s rest ih =>
    obtain ⟨hs, hrest⟩ := List.forall_mem_cons.1 hok
    exact (Desk.takes_step hs).append (ih hrest)

theorem isOk_of_trace {before after : List KeypadStep} {s : KeypadStep} {d : Desk}
    (hok : ∀ answer ∈ trace Desk.step (before ++ s :: after) d, answer.1.isOk = true) :
    (Desk.step s (stateAfter Desk.step before d)).1.isOk = true := by
  refine hok _ ?_
  rw [trace_append]
  exact List.mem_append_right _ List.mem_cons_self

/-- Where the outcome that a step leaves is a refusal, the step has taken no draw. -/
theorem Desk.source_step_of_refused {s : KeypadStep} {d : Desk} {o : Outcome}
    (hok : (step s d).1.isOk = true) (ho : (step s d).2.keypad.outcome = some o)
    (hrefused : o.isOk = false) : (step s d).2.keypad.source = d.keypad.source := by
  have htakes := takes_step hok
  have hrolls : d.rollsOf s = [] := by
    rw [rollsOf, ho, Option.map_some, Option.getD_some, Outcome.rolls_eq_nil hrefused, ite_self]
  rw [hrolls] at htakes
  exact htakes.eq_advance

/-- Over a session without failures, die number `j` of all rolls shows draw number `j` of a cycle,
counted round its values. The source has moved on by as many draws as there are dice, and not at all
at a step that does not submit or whose text is refused. -/
theorem session_draws {values : List Binary64} {k : Keypad} {h : Host} {steps : List KeypadStep}
    (hcycle : Source.cycle values = .ok k.source)
    (hok : ∀ answer ∈ trace Desk.step steps ⟨k, h⟩, answer.1.isOk = true) :
    (∀ j sides face, (sessionDice steps ⟨k, h⟩)[j]? = some (sides, face) →
        ∃ draw, values[j % values.length]? = some draw ∧ Shows sides draw face) ∧
      (stateAfter Desk.step steps ⟨k, h⟩).keypad.source =
        k.source.advance (sessionDice steps ⟨k, h⟩).length ∧
      ∀ before s after, steps = before ++ s :: after →
        (¬s.Submits ∨ ∃ o, (stateAfter Desk.step (before ++ [s]) ⟨k, h⟩).keypad.outcome = some o ∧
          o.isOk = false) →
        (stateAfter Desk.step (before ++ [s]) ⟨k, h⟩).keypad.source =
          (stateAfter Desk.step before ⟨k, h⟩).keypad.source := by
  obtain ⟨hvalues, hposition⟩ := Source.of_cycle_eq_ok hcycle
  obtain ⟨hadvance, hshow⟩ := takes_session hok
  refine ⟨fun j sides face hj => ?_, hadvance, ?_⟩
  · refine ⟨k.source.drawAt j, hvalues ▸ k.source.getElem?_drawAt j, ?_⟩
    have hdie := hshow.getElem? hj
    rwa [hposition, Nat.zero_add] at hdie
  · rintro before s after rfl hs
    rw [stateAfter_concat] at hs ⊢
    rcases hs with hs | ⟨o, ho, hrefused⟩
    · exact Desk.source_step_of_not hs _
    · exact Desk.source_step_of_refused (isOk_of_trace hok) ho hrefused

/-- Four dice in three submits, of which the second is refused. -/
theorem session_draws_past_refusal :
    let half := Binary64.ofRatio false Binary64.unitsPerOne 2
    let zero := Binary64.finite false .zero
    let source : Source := ⟨.cycle, [half, zero], by decide, 0⟩
    let steps : List KeypadStep := [.load "2d6 1d20" true, .load "1d6 x" true, .load "1d8" false,
      .press ⟨"Enter", false, false, false, false⟩]
    Source.cycle [half, zero] = .ok source ∧
      (∀ answer ∈ trace Desk.step steps ⟨{ source }, {}⟩, answer.1.isOk = true) ∧
      sessionDice steps ⟨{ source }, {}⟩ = [(6, 4), (6, 1), (20, 11), (8, 1)] ∧
      ((∃ draw, [half, zero][2 % 2]? = some draw ∧ Shows 20 draw 11) ∧
        ∃ draw, [half, zero][3 % 2]? = some draw ∧ Shows 8 draw 1) ∧
      (stateAfter Desk.step steps ⟨{ source }, {}⟩).keypad.source = source.advance 4 ∧
      (stateAfter Desk.step (steps.take 2) ⟨{ source }, {}⟩).keypad.source =
        (stateAfter Desk.step (steps.take 1) ⟨{ source }, {}⟩).keypad.source := by
  intro half zero source steps
  have hcycle : Source.cycle [half, zero] = .ok source := by decide +kernel
  have hok : ∀ answer ∈ trace Desk.step steps ⟨{ source }, {}⟩, answer.1.isOk = true := by
    decide +kernel
  have hdice : sessionDice steps ⟨{ source }, {}⟩ = [(6, 4), (6, 1), (20, 11), (8, 1)] := by
    decide +kernel
  have hrefused : (stateAfter Desk.step (steps.take 2) ⟨{ source }, {}⟩).keypad.outcome =
      some ⟨"1d6 x", .refused ⟨.notATerm "x", rfl⟩⟩ := by
    decide +kernel
  obtain ⟨hdraws, hsource, hkept⟩ := session_draws hcycle hok
  rw [hdice] at hdraws hsource
  exact ⟨hcycle, hok, hdice, ⟨hdraws 2 20 11 rfl, hdraws 3 8 1 rfl⟩, hsource,
    hkept (steps.take 1) _ (steps.drop 2) rfl (.inr ⟨_, hrefused, rfl⟩)⟩

end RollPad
