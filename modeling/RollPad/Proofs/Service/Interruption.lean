import RollPad.Proofs.Service.Boundary

/-!
What a failure leaves on display. A roll that fails has taken draws, and reading settings may have
changed the host, but the buffer and the outcome are as they were before the submit
(`Submitted.keeps`); so a failing step changes nothing that the keypad shows, except that a text to
be loaded is in the buffer. Keys fail at one of them (`StopsAt`), and what is shown then is what the
keys before it have left. The main statement is `failure_keeps_view`.
-/

namespace RollPad

/-- A failing submit keeps the buffer and the outcome. -/
theorem Submitted.keeps {k k' : Keypad} {h : Host} {answer : Except Failure Outcome}
    (hs : Submitted k h answer k') (hfails : answer.isOk = false) :
    k'.buffer = k.buffer ∧ k'.outcome = k.outcome := by
  cases hs with
  | unread => exact ⟨rfl, rfl⟩
  | failed => exact ⟨rfl, rfl⟩
  | refused => cases hfails
  | rolled => cases hfails

namespace Desk

/-! ### Steps -/

/-- A step that fails either asks nothing of the keypad or submits. -/
theorem request_of_not_isOk {s : KeypadStep} {d : Desk} (hfails : (step s d).1.isOk = false) :
    s.request = .nothing ∨ ∃ loaded, s.request = .submit loaded := by
  cases hc : s.command? with
  | some c =>
    have hsubmits : c = .submit := by
      by_contra hne
      rw [isOk_step_of_command hc hne] at hfails
      cases hfails
    exact .inr ⟨none, KeypadStep.request_eq_submit_iff.2 (.inl ⟨hsubmits ▸ hc, rfl⟩)⟩
  | none =>
    cases s with
    | load text roll =>
      cases roll with
      | true => exact .inr ⟨some text, rfl⟩
      | false => cases hfails
    | _ => exact .inl (by rw [KeypadStep.request_of_not_load (by simp), hc]; rfl)

/-- After a failing submit the loaded text, if there is one, is in the buffer, and nothing else has
changed on display. -/
theorem view_step_of_submit {s : KeypadStep} {loaded : Option String}
    (hs : s.request = .submit loaded) {d : Desk} (hfails : (step s d).1.isOk = false) :
    (step s d).2.view = ⟨(d.keypad.loading loaded).buffer, d.keypad.outcome⟩ := by
  rw [isOk_step_of_submit hs] at hfails
  obtain ⟨hbuffer, houtcome⟩ := (Keypad.submitted _ _).keeps hfails
  rw [view, keypad_step_of_submit hs, hbuffer, houtcome, Keypad.loading_outcome]

theorem view_step_of_not_isOk {s : KeypadStep} (hload : ∀ text roll, s ≠ .load text roll)
    {d : Desk} (hfails : (step s d).1.isOk = false) : (step s d).2.view = d.view := by
  obtain hs | ⟨loaded, hs⟩ := request_of_not_isOk hfails
  · rw [view, keypad_step, hs]
    rfl
  · obtain ⟨-, rfl⟩ | ⟨text, rfl, -⟩ := KeypadStep.request_eq_submit_iff.1 hs
    · exact view_step_of_submit hs hfails
    · exact absurd rfl (hload text true)

/-! ### Keys -/

/-- Keys stop at number `i`: the keys before it are pressed, and the press of this one fails. -/
structure StopsAt (d : Desk) (keys : List String) (altKey ctrlKey : Bool) (cause : Failure)
    (i : Nat) : Prop where
  isOk_before : (d.pressKeys (keys.take i) altKey ctrlKey).1.isOk = true
  fails : ∃ key, keys[i]? = some key ∧
    (step (.press { key, altKey, ctrlKey }) (d.pressKeys (keys.take i) altKey ctrlKey).2).1 =
      .error (.failed cause)

variable {d : Desk} {keys : List String} {altKey ctrlKey : Bool} {cause : Failure}

theorem fst_settle_eq_failed_iff {α : Type} {reply : α → KeypadReply}
    {x : Except Failure α × Keypad × Host} :
    (settle reply x).1 = .error (.failed cause) ↔ x.1 = .error cause := by
  rcases x with ⟨_ | _, k, h⟩ <;> simp [settle]

/-- Keys fail where a press fails after those before it, and leave the desk as that press does. -/
theorem pressKeys_append_cons {before : List String} {key : String}
    (hbefore : (d.pressKeys before altKey ctrlKey).1.isOk = true)
    (hkey : (step (.press { key, altKey, ctrlKey }) (d.pressKeys before altKey ctrlKey).2).1 =
      .error (.failed cause)) (after : List String) :
    (d.pressKeys (before ++ key :: after) altKey ctrlKey).1 = .error cause ∧
      (d.pressKeys (before ++ key :: after) altKey ctrlKey).2 =
        (step (.press { key, altKey, ctrlKey }) (d.pressKeys before altKey ctrlKey).2).2 := by
  have hpress := fst_settle_eq_failed_iff.1 hkey
  refine ⟨fst_pressKeys_eq_error_iff.2 ⟨before, key, after, rfl, hbefore, hpress⟩, ?_⟩
  rw [isOk_pressKeys] at hbefore
  rw [snd_pressKeys] at hpress
  rw [step, settle_desk, snd_pressKeys d before, snd_pressKeys, List.map_append, List.map_cons,
    Keypad.pressAll_append_of_ok hbefore, Keypad.pressAll]
  split
  · next hanswer => rw [hanswer]
  · next hanswer =>
    rw [hanswer] at hpress
    cases hpress

/-- Keys that fail stop somewhere. -/
theorem exists_stopsAt (hfails : (d.pressKeys keys altKey ctrlKey).1 = .error cause) :
    ∃ i, d.StopsAt keys altKey ctrlKey cause i := by
  obtain ⟨before, key, after, rfl, hbefore, hpress⟩ := fst_pressKeys_eq_error_iff.1 hfails
  refine ⟨before.length, by rwa [List.take_left], key, by simp, ?_⟩
  rw [List.take_left]
  exact fst_settle_eq_failed_iff.2 hpress

namespace StopsAt

variable {i j : Nat}

/-- The press that fails is one of `Enter`. -/
theorem getElem?_eq (h : d.StopsAt keys altKey ctrlKey cause i) :
    keys[i]? = some "Enter" ∧ altKey = false ∧ ctrlKey = false := by
  obtain ⟨key, hget, hkey⟩ := h.fails
  rw [step, fst_settle_eq_failed_iff, Keypad.fst_press_eq_error_iff] at hkey
  obtain ⟨rfl, hmodifiers⟩ := KeyPress.command?_eq_submit_iff.1 hkey.1
  exact ⟨hget, hmodifiers⟩

theorem pressKeys (h : d.StopsAt keys altKey ctrlKey cause i) :
    (d.pressKeys keys altKey ctrlKey).1 = .error cause ∧
      (d.pressKeys keys altKey ctrlKey).2.view =
        (d.pressKeys (keys.take i) altKey ctrlKey).2.view := by
  obtain ⟨key, hget, hkey⟩ := h.fails
  obtain ⟨hlt, rfl⟩ := List.getElem?_eq_some_iff.1 hget
  have hstops := pressKeys_append_cons h.isOk_before hkey (keys.drop (i + 1))
  rw [List.getElem_cons_drop, List.take_append_drop] at hstops
  refine ⟨hstops.1, ?_⟩
  rw [hstops.2]
  exact view_step_of_not_isOk (by simp) (by rw [hkey]; rfl)

/-- It is enough to look at the keys up to there. -/
theorem take (h : d.StopsAt keys altKey ctrlKey cause i) (hij : i < j) :
    d.StopsAt (keys.take j) altKey ctrlKey cause i := by
  obtain ⟨hbefore, hfails⟩ := h
  have htake : (keys.take j).take i = keys.take i := by
    rw [List.take_take, Nat.min_eq_left hij.le]
  exact ⟨htake ▸ hbefore, by rwa [htake, List.getElem?_take_of_lt hij]⟩

theorem unique {cause' : Failure} (hi : d.StopsAt keys altKey ctrlKey cause i)
    (hj : d.StopsAt keys altKey ctrlKey cause' j) : i = j := by
  -- the keys before the later one would fail at the earlier one
  have hnot : ∀ {i j : Nat} {cause cause' : Failure}, d.StopsAt keys altKey ctrlKey cause i →
      d.StopsAt keys altKey ctrlKey cause' j → ¬i < j := by
    intro i j cause cause' hi hj hij
    have hok := hj.isOk_before
    rw [(hi.take hij).pressKeys.1] at hok
    cases hok
  exact le_antisymm (Nat.le_of_not_lt (hnot hj hi)) (Nat.le_of_not_lt (hnot hi hj))

end StopsAt

end Desk

/-! ### All operations -/

open Desk

/-- Where a step fails that loads nothing, the keypad shows the same text, caret and outcome as
before; where a load fails, it shows the loaded text, the caret at its end and the outcome as
before. Keys that fail do so at one of them and no other, an `Enter`, and the keypad shows what it
shows after the keys before that one. -/
theorem failure_keeps_view (d : Desk) :
    (∀ {s : KeypadStep} {e}, (∀ text roll, s ≠ .load text roll) → (step s d).1 = .error e →
        (step s d).2.view = d.view) ∧
      (∀ {text e}, (step (.load text true) d).1 = .error e →
        (step (.load text true) d).2.view = ⟨.ofText text, d.keypad.outcome⟩) ∧
      (∀ {text cause}, (d.loadFormula text true).1 = .error cause →
        (d.loadFormula text true).2.view = ⟨.ofText text, d.keypad.outcome⟩) ∧
      ∀ {keys altKey ctrlKey cause}, (d.pressKeys keys altKey ctrlKey).1 = .error cause →
        ∃ i, d.StopsAt keys altKey ctrlKey cause i ∧
          (∀ j cause', d.StopsAt keys altKey ctrlKey cause' j → j = i) ∧
          keys[i]? = some "Enter" ∧
          (d.pressKeys keys altKey ctrlKey).2.view =
            (d.pressKeys (keys.take i) altKey ctrlKey).2.view := by
  have hload : ∀ {text e}, (step (.load text true) d).1 = .error e →
      (step (.load text true) d).2.view = ⟨.ofText text, d.keypad.outcome⟩ :=
    fun herror => view_step_of_submit rfl (by rw [herror]; rfl)
  refine ⟨fun hnoLoad herror => ?_, hload, fun {text cause} herror => ?_, fun herror => ?_⟩
  · exact view_step_of_not_isOk hnoLoad (by rw [herror]; rfl)
  · rw [loadFormula, fst_viewAfter_eq_error_iff] at herror
    have hview := hload (fst_settle_eq_failed_iff.2 herror)
    rwa [step, settle_desk, ← snd_viewAfter] at hview
  · obtain ⟨i, hi⟩ := exists_stopsAt herror
    exact ⟨i, hi, fun j cause' hj => hj.unique hi, hi.getElem?_eq.1, hi.pressKeys.2⟩

/-- A die with too many sides for a double, under settings that allow it, after a refused text: it
is loaded to be rolled, and submitted with the caret moved, before an `Escape` that is not
reached. -/
theorem failure_keeps_view_oversized :
    let text := formatTerms [Term.oversized]
    let settings : Settings := ⟨⟨1, Magnitude.overflow, 1⟩, "INFO", none, areWritable_overflow⟩
    let refused : Outcome := ⟨"1d0", .refused ⟨.noSides "1d0", rfl⟩⟩
    let d := (step (.load "1d0" true) ⟨{ source := .system [] }, { settings := some settings }⟩).2
    let loaded := (step (.load text false) d).2
    let keys := ["ArrowLeft", "Enter", "Escape"]
    d.view = ⟨.ofText "1d0", some refused⟩ ∧
      ((d.loadFormula text true).1 = .error (.die .sidesTooLarge) ∧
        (d.loadFormula text true).2.view = ⟨.ofText text, some refused⟩) ∧
      ((step (.press { key := "Enter" }) loaded).1 = .error (.failed (.die .sidesTooLarge)) ∧
        (step (.press { key := "Enter" }) loaded).2.view = ⟨.ofText text, some refused⟩) ∧
      ((loaded.pressKeys keys).1 = .error (.die .sidesTooLarge) ∧
        (loaded.pressKeys keys).2.view = ⟨(Buffer.ofText text).moveLeft, some refused⟩) := by
  intro text settings refused d loaded keys
  have hview : d.view = ⟨.ofText "1d0", some refused⟩ := by decide +kernel
  have hsettings : d.host.settings = some settings := by decide +kernel
  have hdraws : d.keypad.source.UnitDraws := by decide +kernel
  have hbreaks : BreaksOff d.host text (.die .sidesTooLarge) :=
    breaksOff_oversized hsettings (Int.le_refl 1) (Int.le_refl 1) (Int.le_refl _)
  have houtcome : d.keypad.outcome = some refused := congrArg KeypadView.outcome hview
  -- from here on neither the desk nor the text is computed
  clear_value d text
  have henter : ∀ {d : Desk}, d.keypad.source.UnitDraws →
      BreaksOff d.host d.keypad.buffer.text (.die .sidesTooLarge) →
      (step (.press { key := "Enter" }) d).1 = .error (.failed (.die .sidesTooLarge)) := by
    intro d hdraws hbreaks
    exact fst_settle_eq_failed_iff.2 (Keypad.fst_press_eq_error_iff.2
      ⟨rfl, ((d.keypad.submitted d.host).eq_error_iff hdraws).2 hbreaks⟩)
  have hload : (d.loadFormula text true).1 = .error (.die .sidesTooLarge) :=
    fst_viewAfter_eq_error_iff.2 ((Keypad.load_eq_error_iff hdraws).2 hbreaks)
  have hpressed := @henter loaded hdraws hbreaks
  have harrow : KeyPress.command? { key := "ArrowLeft" } = some .moveLeft := by decide
  have hleft : loaded.pressKeys (keys.take 1) =
      (.ok ⟨(Buffer.ofText text).moveLeft, d.keypad.outcome⟩,
        ⟨loaded.keypad.edit .moveLeft, loaded.host⟩) := by
    simp only [keys, List.take_succ_cons, List.take_zero, pressKeys, List.map_singleton,
      Keypad.pressAll, Keypad.press, harrow, Keypad.apply]
    rfl
  have hstops : loaded.StopsAt keys false false (.die .sidesTooLarge) 1 := by
    refine ⟨by rw [hleft]; rfl, "Enter", rfl, ?_⟩
    rw [hleft]
    exact henter hdraws hbreaks
  have hloadView := (failure_keeps_view d).2.2.1 hload
  have henterView := (failure_keeps_view loaded).1 (by simp) hpressed
  obtain ⟨i, -, hunique, -, hkeysView⟩ := (failure_keeps_view loaded).2.2.2 hstops.pressKeys.1
  obtain rfl := hunique 1 _ hstops
  rw [hleft] at hkeysView
  rw [← houtcome]
  exact ⟨hview.trans (by rw [houtcome]), ⟨hload, hloadView⟩, ⟨hpressed, henterView⟩,
    hstops.pressKeys.1, hkeysView⟩

end RollPad
