import RollPad.Proofs.Keypad.Outcome
import RollPad.Proofs.Keypad.Typing

/-!
What keys can bring about. Starting from an empty keypad, key presses only ever put digits, the
letter `d` in lower case and the space into the buffer, whatever keys and modifiers come in, so the
buffer stays `Typable`, and so does the text of every outcome (`Keypad.Typed` is the invariant that
a step keeps). Conversely every typable buffer is a few keys away from every state: Escape, the
characters of the text, and the left arrow until the caret is where it should be. The two
directions together are `reached_by_keys_iff_typable`.
-/

namespace RollPad

/-- A text of characters that can be typed. -/
def IsTypable (text : String) : Prop :=
  ∀ c ∈ text.toList, c ∈ typedChars

instance (text : String) : Decidable (IsTypable text) :=
  List.decidableBAll (· ∈ typedChars) text.toList

/-- A text of characters that can be typed, with the caret within it. -/
structure Buffer.Typable (b : Buffer) : Prop where
  text : IsTypable b.text
  caret : b.caret ≤ b.text.length

/-- The buffer can be typed, and so can the text of the outcome on display. -/
structure Keypad.Typed (k : Keypad) : Prop where
  buffer : k.buffer.Typable
  outcome : ∀ o, k.outcome = some o → IsTypable o.text

/-- The text that an operation puts into the buffer. -/
def Edit.newText : Edit → String
  | insert text => text
  | setText text => text
  | _ => ""

/-! ### Keys put in what can be typed -/

theorem toLower_mem_typedChars {c : Char} (hc : isTyped c = true) : c.toLower ∈ typedChars := by
  have hlower : ('D' :: typedChars).all (fun c => decide (c.toLower ∈ typedChars)) = true := by
    decide
  have hmem : c ∈ 'D' :: typedChars := List.mem_cons.2 (isTyped_iff.1 hc)
  simpa using List.all_eq_true.1 hlower c hmem

theorem Command.ofNamedKey?_ne_insert {key text : String} :
    ofNamedKey? key ≠ some (insert text) := by
  unfold ofNamedKey?
  split <;> simp

/-- No key puts in anything but a character that can be typed. -/
theorem KeyPress.isTypable_of_insert {p : KeyPress} {text : String}
    (h : p.command? = some (.insert text)) : IsTypable text := by
  unfold command? at h
  split at h
  · cases h
  · split at h
    · next c _ =>
      split at h
      · next hc =>
        obtain rfl : String.singleton c.toLower = text := by simpa using h
        intro d hd
        obtain rfl : d = c.toLower := by simpa using hd
        exact toLower_mem_typedChars hc
      · cases h
    · exact absurd h Command.ofNamedKey?_ne_insert

theorem KeyPress.isTypable_insertedText {p : KeyPress} {c : Command} (h : p.command? = some c) :
    IsTypable c.insertedText := by
  cases c with
  | insert text => exact isTypable_of_insert h
  | _ => exact List.forall_mem_nil _

theorem Command.newText_of_request {c : Command} {e : Edit} (h : c.request = .edit e) :
    e.newText = c.insertedText := by
  cases c <;> cases h <;> rfl

/-- A key press asks for no operation that puts in anything else. -/
theorem KeyPress.isTypable_newText {p : KeyPress} {e : Edit}
    (h : (KeypadStep.press p).request = .edit e) : IsTypable e.newText := by
  rw [KeypadStep.request_of_not_load (by simp), KeypadStep.command?] at h
  cases hc : p.command? with
  | none => simp [hc] at h
  | some command =>
    rw [hc, Option.map_some, Option.getD_some] at h
    rw [Command.newText_of_request h]
    exact isTypable_insertedText hc

/-! ### What operations keep -/

/-- Every character of a text that has been edited was in it before or has been put in. -/
theorem Buffer.mem_text_apply {b : Buffer} {e : Edit} {c : Char}
    (hc : c ∈ (b.apply e).text.toList) : c ∈ b.text.toList ∨ c ∈ e.newText.toList := by
  cases e with
  | insert text =>
    have hmem : c ∈ b.before ++ text.toList ++ b.after := by
      simpa [apply, insert, clamp] using hc
    rcases List.mem_append.1 hmem with hmem | hafter
    · rcases List.mem_append.1 hmem with hbefore | hnew
      · exact .inl (List.mem_of_mem_take hbefore)
      · exact .inr hnew
    · exact .inl (List.mem_of_mem_drop hafter)
  | deleteBefore =>
    rw [apply, deleteBefore] at hc
    split at hc
    · exact .inl hc
    · have hmem : c ∈ b.text.toList.take (b.caret - 1) ++ b.after := by
        simpa [clamp] using hc
      rcases List.mem_append.1 hmem with hbefore | hafter
      · exact .inl (List.mem_of_mem_take hbefore)
      · exact .inl (List.mem_of_mem_drop hafter)
  | setText text => exact .inr hc
  | clear => exact absurd hc (by simp [apply, clear])
  | moveRight =>
    rw [text_apply_of_isMove rfl] at hc
    exact .inl hc
  | moveLeft | moveHome | moveEnd => exact .inl hc

theorem Buffer.Typable.apply {b : Buffer} (h : b.Typable) {e : Edit} (he : IsTypable e.newText) :
    (b.apply e).Typable where
  text c hc := (mem_text_apply hc).elim (h.text c) (he c)
  caret := Valid.apply h.caret e

/-- A keypad stays typed as long as it is not asked to put in anything else. -/
theorem Keypad.Typed.answer {k : Keypad} (hk : k.Typed) {h : Host} {r : Request}
    (hedit : ∀ e, r = .edit e → IsTypable e.newText) (hload : ∀ text, r ≠ .submit (some text)) :
    (k.answer h r).Typed := by
  cases r with
  | nothing => exact hk
  | edit e => exact ⟨hk.buffer.apply (hedit e rfl), hk.outcome⟩
  | clear => exact ⟨hk.buffer.apply (e := .clear) (List.forall_mem_nil _), fun _ ho => nomatch ho⟩
  | submit loaded =>
    cases loaded with
    | some text => exact absurd rfl (hload text)
    | none =>
      obtain ⟨hbuffer, houtcome⟩ := (k.submitted h).outcome
      refine ⟨?_, fun o ho => ?_⟩
      · rw [Keypad.answer, Keypad.loading, hbuffer]
        exact hk.buffer
      · rw [Keypad.answer, Keypad.loading] at ho
        rcases houtcome with hkept | ⟨o', ho', htext, -⟩
        · exact hk.outcome o (hkept.symm.trans ho)
        · obtain rfl := Option.some.inj (ho'.symm.trans ho)
          exact htext ▸ hk.buffer.text

theorem KeypadStep.request_press_ne {p : KeyPress} {text : String} :
    (press p).request ≠ .submit (some text) := by
  rw [Ne, request_eq_submit_iff]
  simp

/-- Key presses keep what is typed typed, also those that fail. -/
theorem Desk.typed_stateAfter {d : Desk} (hd : d.keypad.Typed) (keys : List KeyPress) :
    (stateAfter step (keys.map .press) d).keypad.Typed := by
  induction keys generalizing d with
  | nil => exact hd
  | cons p rest ih =>
    refine ih ?_
    rw [keypad_step]
    exact hd.answer (fun _ => KeyPress.isTypable_newText) fun _ => KeypadStep.request_press_ne

theorem Desk.typed_fresh (source : Source) (host : Host) : (fresh "" source host).keypad.Typed :=
  ⟨⟨List.forall_mem_nil _, Nat.le_refl _⟩, fun _ ho => nomatch ho⟩

/-! ### Every typable buffer can be reached -/

/-- A press of the left arrow. -/
def KeyPress.arrowLeft : KeyPress :=
  { key := "ArrowLeft" }

/-- The presses that type a text, one for each character. -/
def pressesOf (text : String) : List KeyPress :=
  text.toList.map fun c => { key := String.singleton c }

/-- Key presses that bring a buffer about: Escape, the characters of its text, and the left arrow
until the caret is where it should be. -/
def keysTo (b : Buffer) : List KeyPress :=
  { key := "Escape" } :: (pressesOf b.text ++
    List.replicate (b.text.length - b.caret) KeyPress.arrowLeft)

theorem types_pressesOf (text : String) : Types (pressesOf text) text.toList := by
  rw [Types, pressesOf, List.forall₂_map_left_iff, List.forall₂_same]
  exact fun c _ => ⟨rfl, .inl rfl⟩

theorem stateAfter_arrowLeft (n : Nat) (k : Keypad) (h : Host) :
    stateAfter Desk.step ((List.replicate n KeyPress.arrowLeft).map .press) ⟨k, h⟩ =
      ⟨{ k with buffer := { k.buffer with caret := k.buffer.caret - n } }, h⟩ := by
  induction n generalizing k with
  | zero => rfl
  | succ n ih =>
    have hstep : (Desk.step (.press KeyPress.arrowLeft) ⟨k, h⟩).2 =
        ⟨k.edit .moveLeft, h⟩ := (Desk.step_of_command (s := .press KeyPress.arrowLeft) rfl _).1
    rw [List.replicate_succ, List.map_cons, stateAfter, List.foldl_cons, hstep]
    have hrest := ih (k.edit .moveLeft)
    rw [stateAfter] at hrest
    rw [hrest, Keypad.edit, Buffer.apply, Buffer.moveLeft, Nat.sub_sub, Nat.add_comm 1 n]

/-- From any state, the keys to a typable buffer bring it about. -/
theorem buffer_stateAfter_keysTo {b : Buffer} (hb : b.Typable) (d : Desk) :
    (stateAfter Desk.step ((keysTo b).map .press) d).keypad.buffer = b := by
  have hescape : (Desk.step (.press { key := "Escape" }) d).2 = ⟨d.keypad.clearAll, d.host⟩ :=
    (Desk.step_of_command (s := .press { key := "Escape" }) rfl d).1
  have htyped := stateAfter_types (types_pressesOf b.text) hb.text d.keypad.clearAll d.host ""
  rw [String.ofList_toList, String.empty_append] at htyped
  rw [keysTo, List.map_cons, List.map_append, ← List.singleton_append, stateAfter_append,
    stateAfter_append, show stateAfter Desk.step [.press { key := "Escape" }] d =
      ⟨{ d.keypad.clearAll with buffer := .ofText "" }, d.host⟩ from hescape, htyped,
    stateAfter_arrowLeft]
  have hcaret := Nat.sub_sub_self hb.caret
  rw [Buffer.ofText, hcaret]

/-- Only a key press that submits can fail. -/
theorem Desk.isOk_step_press {p : KeyPress} (hp : p.command? ≠ some .submit) (d : Desk) :
    (step (.press p) d).1.isOk = true := by
  cases hc : p.command? with
  | none =>
    rw [step_press_of_no_command hc]
    rfl
  | some command =>
    exact isOk_step_of_command (s := .press p) hc (fun h => hp (h ▸ hc)) d

theorem isOk_of_mem_trace_press {keys : List KeyPress}
    (hkeys : ∀ p ∈ keys, p.command? ≠ some .submit) {d : Desk}
    {answer : Except KeypadError KeypadReply × Desk}
    (h : answer ∈ trace Desk.step (keys.map .press) d) : answer.1.isOk = true := by
  induction keys generalizing d with
  | nil => cases h
  | cons p rest ih =>
    obtain ⟨hp, hrest⟩ := List.forall_mem_cons.1 hkeys
    rw [List.map_cons, trace] at h
    rcases List.mem_cons.1 h with rfl | h
    · exact Desk.isOk_step_press hp d
    · exact ih hrest h

theorem command?_of_mem_keysTo {b : Buffer} (hb : IsTypable b.text) {p : KeyPress}
    (hp : p ∈ keysTo b) : p.command? ≠ some .submit := by
  rcases List.mem_cons.1 hp with rfl | hp
  · decide
  · rcases List.mem_append.1 hp with hp | hp
    · obtain ⟨c, hc, rfl⟩ := List.mem_map.1 hp
      rw [KeyPress.command?_of_isMeant_char ⟨rfl, .inl rfl⟩ (hb c hc)]
      simp
    · rw [List.eq_of_mem_replicate hp]
      decide

/-! ### Both directions -/

/-- From an empty keypad, key presses reach exactly the typable buffers: those of digits, `d` and
spaces with the caret within the text. In every state on the way the outcome on display is of such a
text, and every such buffer can be reached from there, by keys that do not fail. -/
theorem reached_by_keys_iff_typable (source : Source) (host : Host) :
    (∀ b, (∃ keys : List KeyPress, (stateAfter Desk.step (keys.map .press)
        (.fresh "" source host)).keypad.buffer = b) ↔ b.Typable) ∧
      ∀ keys : List KeyPress,
        let d := stateAfter Desk.step (keys.map .press) (.fresh "" source host)
        (∀ o, d.keypad.outcome = some o → IsTypable o.text) ∧
          ∀ b : Buffer, b.Typable → ∃ more : List KeyPress,
            (∀ answer ∈ trace Desk.step (more.map .press) d, answer.1.isOk = true) ∧
              (stateAfter Desk.step (more.map .press) d).keypad.buffer = b := by
  have htyped := Desk.typed_stateAfter (Desk.typed_fresh source host)
  refine ⟨fun b => ⟨?_, fun hb => ⟨keysTo b, buffer_stateAfter_keysTo hb _⟩⟩, fun keys => ?_⟩
  · rintro ⟨keys, rfl⟩
    exact (htyped keys).buffer
  · intro d
    refine ⟨(htyped keys).outcome, fun b hb => ⟨keysTo b, fun answer h => ?_, ?_⟩⟩
    · exact isOk_of_mem_trace_press (fun p => command?_of_mem_keysTo hb.text) h
    · exact buffer_stateAfter_keysTo hb d

/-- From a roll with the caret moved to the front, on to another text with the caret inside. No keys
bring an upper-case letter about. -/
theorem reached_by_keys_iff_typable_after_roll :
    let source : Source := .system []
    let keys : List KeyPress := [{ key := "2" }, { key := "D", shiftKey := true }, { key := "6" },
      { key := "v", ctrlKey := true }, { key := "10" }, { key := "Enter" }, { key := "Home" }]
    let d := stateAfter Desk.step (keys.map .press) (.fresh "" source {})
    let outcome : Outcome := ⟨"2d6", .rolled [⟨⟨2, 6, by decide, by decide⟩, [1, 1], 2⟩]⟩
    let b : Buffer := ⟨"1d20 3", 2⟩
    d.keypad.buffer = ⟨"2d6", 0⟩ ∧ d.keypad.outcome = some outcome ∧ IsTypable outcome.text ∧
      b.Typable ∧ (∃ more : List KeyPress,
        (∀ answer ∈ trace Desk.step (more.map .press) d, answer.1.isOk = true) ∧
          (stateAfter Desk.step (more.map .press) d).keypad.buffer = b) ∧
      ¬∃ keys : List KeyPress, (stateAfter Desk.step (keys.map .press)
        (.fresh "" source {})).keypad.buffer = ⟨"2D6", 3⟩ := by
  intro source keys d outcome b
  have hbuffer : d.keypad.buffer = ⟨"2d6", 0⟩ := by decide +kernel
  have houtcome : d.keypad.outcome = some outcome := by decide +kernel
  have hb : b.Typable := ⟨by decide, by decide⟩
  obtain ⟨hiff, hafter⟩ := reached_by_keys_iff_typable source {}
  have hupper : ¬(Buffer.mk "2D6" 3).Typable := fun h => absurd h.text (by decide)
  exact ⟨hbuffer, houtcome, (hafter keys).1 outcome houtcome, hb, (hafter keys).2 b hb,
    mt (hiff _).1 hupper⟩

end RollPad
