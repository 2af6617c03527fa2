import RollPad.Keypad.Desk
import RollPad.Proofs.Notation.Grammar

/-!
What steps ask of the keypad. However a step comes in, by a key, by the name of a command or by a
direct call, it asks the keypad for one of four things, its `Request`, and `keypad_step` says that
nothing else about the step matters to the keypad. What a submit can do is said once, in
`Submitted`.
-/

namespace RollPad

/-! ### Requests -/

/-- What a step asks of the keypad. -/
inductive Request where
  | nothing
  | edit (e : Edit)
  | clear
  /-- Roll the text of the buffer, into which another text may be put first. -/
  | submit (loaded : Option String)

/-- Is a submit asked for? -/
def Request.isSubmit : Request → Bool
  | submit _ => true
  | _ => false

/-- What a command asks for. -/
def Command.request : Command → Request
  | insert text => .edit (.insert text)
  | deleteBefore => .edit .deleteBefore
  | moveLeft => .edit .moveLeft
  | moveRight => .edit .moveRight
  | moveHome => .edit .moveHome
  | moveEnd => .edit .moveEnd
  | submit => .submit none
  | clearAll => .clear

namespace KeypadStep

/-- The command that a step carries out, if it is one. -/
def command? : KeypadStep → Option Command
  | press key => key.command?
  | apply name text => (Command.ofName name text).toOption
  | submit => some .submit
  | clearAll => some .clearAll
  | load .. => none
  | setVariable .. => none

/-- What a step asks for. -/
def request : KeypadStep → Request
  | load text true => .submit (some text)
  | load text false => .edit (.setText text)
  | s => (s.command?.map Command.request).getD .nothing

/-- The steps that submit. -/
inductive Submits : KeypadStep → Prop
  | direct : Submits submit
  | enter {key : KeyPress} : key.isBlocked = false → key.key = "Enter" → Submits (press key)
  | named (text : String) : Submits (apply "submit" text)
  | loaded (text : String) : Submits (load text true)

/-- The steps that clear everything. -/
inductive Clears : KeypadStep → Prop
  | direct : Clears clearAll
  | escape {key : KeyPress} : key.isBlocked = false → key.key = "Escape" → Clears (press key)
  | named (text : String) : Clears (apply "clear_all" text)

end KeypadStep

/-! ### Which steps submit and clear -/

theorem Command.length_of_ofNamedKey? {key : String} {c : Command}
    (h : ofNamedKey? key = some c) : key.toList.length ≠ 1 := by
  unfold ofNamedKey? at h
  split at h
  all_goals first | decide | cases h

theorem Command.ofNamedKey?_eq_submit_iff {key : String} :
    ofNamedKey? key = some submit ↔ key = "Enter" := by
  unfold ofNamedKey?
  split <;> simp_all

theorem Command.ofNamedKey?_eq_clearAll_iff {key : String} :
    ofNamedKey? key = some clearAll ↔ key = "Escape" := by
  unfold ofNamedKey?
  split <;> simp_all

theorem Command.ofName_eq_submit_iff {name text : String} :
    (ofName name text).toOption = some submit ↔ name = "submit" := by
  unfold ofName
  split <;> simp_all [Except.toOption]

theorem Command.ofName_eq_clearAll_iff {name text : String} :
    (ofName name text).toOption = some clearAll ↔ name = "clear_all" := by
  unfold ofName
  split <;> simp_all [Except.toOption]

theorem Command.request_eq_submit_iff {c : Command} {loaded : Option String} :
    c.request = .submit loaded ↔ c = submit ∧ loaded = none := by
  cases c <;> simp [request, eq_comm]

theorem Command.request_eq_clear_iff {c : Command} : c.request = .clear ↔ c = clearAll := by
  cases c <;> simp [request]

/-- A command that inserts nothing comes from a named key. -/
theorem KeyPress.command?_eq_some_iff {p : KeyPress} {c : Command} (hc : ∀ text, c ≠ .insert text) :
    p.command? = some c ↔ p.isBlocked = false ∧ Command.ofNamedKey? p.key = some c := by
  unfold command?
  cases hb : p.isBlocked with
  | true => simp
  | false =>
    simp only [Bool.false_eq_true, if_false, true_and]
    split
    · next ch hch =>
      have hnamed : Command.ofNamedKey? p.key ≠ some c := fun h =>
        Command.length_of_ofNamedKey? h (by rw [hch]; rfl)
      split
      · simp only [Option.some.injEq, hnamed, iff_false]
        exact fun h => hc _ h.symm
      · simp [hnamed]
    · rfl

namespace KeypadStep

theorem request_of_not_load {s : KeypadStep} (hload : ∀ text roll, s ≠ load text roll) :
    s.request = (s.command?.map Command.request).getD .nothing := by
  cases s with
  | load text roll => exact absurd rfl (hload text roll)
  | _ => rfl

/-- A text that is loaded makes a step more than a command. -/
theorem request_eq_submit_iff {s : KeypadStep} {loaded : Option String} :
    s.request = .submit loaded ↔
      (s.command? = some .submit ∧ loaded = none) ∨
        ∃ text, s = load text true ∧ loaded = some text := by
  have hcommand : (s.command?.map Command.request).getD .nothing = .submit loaded ↔
      s.command? = some .submit ∧ loaded = none := by
    cases s.command? with
    | none => simp
    | some c => simp [Command.request_eq_submit_iff]
  cases s with
  | load text roll => cases roll <;> simp [request, command?, eq_comm]
  | _ => simpa [request] using hcommand

theorem request_eq_clear_iff {s : KeypadStep} :
    s.request = .clear ↔ s.command? = some .clearAll := by
  have hcommand : (s.command?.map Command.request).getD .nothing = .clear ↔
      s.command? = some .clearAll := by
    cases s.command? with
    | none => simp
    | some c => simp [Command.request_eq_clear_iff]
  cases s with
  | load text roll => cases roll <;> simp [request, command?]
  | _ => simpa [request] using hcommand

theorem submits_iff {s : KeypadStep} : s.Submits ↔ ∃ loaded, s.request = .submit loaded := by
  simp only [request_eq_submit_iff]
  constructor
  · intro h
    cases h with
    | direct => exact ⟨none, .inl ⟨rfl, rfl⟩⟩
    | enter hfree hkey =>
      have hc := (KeyPress.command?_eq_some_iff (by simp)).2
        ⟨hfree, Command.ofNamedKey?_eq_submit_iff.2 hkey⟩
      exact ⟨none, .inl ⟨hc, rfl⟩⟩
    | named text => exact ⟨none, .inl ⟨rfl, rfl⟩⟩
    | loaded text => exact ⟨some text, .inr ⟨text, rfl, rfl⟩⟩
  · rintro ⟨loaded, ⟨h, -⟩ | ⟨text, rfl, -⟩⟩
    · cases s with
      | press key =>
        obtain ⟨hfree, hnamed⟩ := (KeyPress.command?_eq_some_iff (by simp)).1 h
        exact .enter hfree (Command.ofNamedKey?_eq_submit_iff.1 hnamed)
      | apply name text =>
        obtain rfl := Command.ofName_eq_submit_iff.1 h
        exact .named text
      | submit => exact .direct
      | _ => cases h
    · exact .loaded text

theorem clears_iff {s : KeypadStep} : s.Clears ↔ s.request = .clear := by
  rw [request_eq_clear_iff]
  constructor
  · intro h
    cases h with
    | direct => rfl
    | escape hfree hkey =>
      exact (KeyPress.command?_eq_some_iff (by simp)).2
        ⟨hfree, Command.ofNamedKey?_eq_clearAll_iff.2 hkey⟩
    | named text => rfl
  · intro h
    cases s with
    | press key =>
      obtain ⟨hfree, hnamed⟩ := (KeyPress.command?_eq_some_iff (by simp)).1 h
      exact .escape hfree (Command.ofNamedKey?_eq_clearAll_iff.1 hnamed)
    | apply name text =>
      obtain rfl := Command.ofName_eq_clearAll_iff.1 h
      exact .named text
    | clearAll => exact .direct
    | _ => cases h

end KeypadStep

instance (s : KeypadStep) : Decidable s.Submits :=
  decidable_of_iff (s.request.isSubmit = true) (by
    rw [KeypadStep.submits_iff]
    cases s.request <;> simp [Request.isSubmit])

/-! ### What a request does to the keypad -/

namespace Keypad

/-- The keypad with a text put into its buffer, if there is one to put in. -/
def loading (k : Keypad) : Option String → Keypad
  | none => k
  | some text => k.edit (.setText text)

/-- The keypad after a request. -/
def answer (k : Keypad) (h : Host) : Request → Keypad
  | .nothing => k
  | .edit e => k.edit e
  | .clear => k.clearAll
  | .submit loaded => ((k.loading loaded).submit h).2.1

theorem loading_outcome (k : Keypad) (loaded : Option String) :
    (k.loading loaded).outcome = k.outcome := by
  cases loaded <;> rfl

theorem loading_source (k : Keypad) (loaded : Option String) :
    (k.loading loaded).source = k.source := by
  cases loaded <;> rfl

/-- A load that rolls is a submit of the loaded keypad. -/
theorem load_true (k : Keypad) (text : String) (h : Host) :
    (k.load text true h).2 = ((k.loading (some text)).submit h).2 ∧
      (k.load text true h).1.isOk = ((k.loading (some text)).submit h).1.isOk := by
  unfold load
  dsimp only
  rw [if_pos rfl, loading]
  split <;> simp [*, Except.isOk, Except.toBool]

theorem apply_submit (k : Keypad) (h : Host) :
    (k.apply .submit h).2 = (k.submit h).2 ∧
      (k.apply .submit h).1.isOk = (k.submit h).1.isOk := by
  rw [apply]
  split <;> simp [*, Except.isOk, Except.toBool]

theorem press_of_command {k : Keypad} {p : KeyPress} {c : Command} (hc : p.command? = some c)
    (h : Host) : (k.press p h).2 = (k.apply c h).2 ∧
      (k.press p h).1.isOk = (k.apply c h).1.isOk := by
  rw [press, hc]
  dsimp only
  split <;> simp [*, Except.isOk, Except.toBool]

theorem apply_keypad (k : Keypad) (c : Command) (h : Host) :
    (k.apply c h).2.1 = k.answer h c.request := by
  cases c with
  | submit => exact congrArg Prod.fst (k.apply_submit h).1
  | _ => rfl

end Keypad

namespace Desk

theorem settle_desk {α : Type} (reply : α → KeypadReply)
    (x : Except Failure α × Keypad × Host) : (settle reply x).2 = ⟨x.2.1, x.2.2⟩ := by
  rcases x with ⟨_ | _, k, h⟩ <;> rfl

theorem settle_isOk {α : Type} (reply : α → KeypadReply)
    (x : Except Failure α × Keypad × Host) : (settle reply x).1.isOk = x.1.isOk := by
  rcases x with ⟨_ | _, k, h⟩ <;> rfl

/-- It does not matter how a command comes in. -/
theorem step_of_command {s : KeypadStep} {c : Command} (hc : s.command? = some c) (d : Desk) :
    (step s d).2 = ⟨(d.keypad.apply c d.host).2.1, (d.keypad.apply c d.host).2.2⟩ ∧
      (step s d).1.isOk = (d.keypad.apply c d.host).1.isOk := by
  cases s with
  | press key =>
    rw [step, settle_desk, settle_isOk, (Keypad.press_of_command hc d.host).1,
      (Keypad.press_of_command hc d.host).2]
    exact ⟨rfl, rfl⟩
  | apply name text =>
    rw [KeypadStep.command?] at hc
    cases hn : Command.ofName name text with
    | error e => simp [hn, Except.toOption] at hc
    | ok c' =>
      obtain rfl : c' = c := by simpa [hn, Except.toOption] using hc
      simp only [step, hn, settle_desk, settle_isOk, and_self]
  | submit =>
    obtain rfl := Option.some.inj hc
    rw [step, settle_desk, settle_isOk, (d.keypad.apply_submit d.host).1,
      (d.keypad.apply_submit d.host).2]
    exact ⟨rfl, rfl⟩
  | clearAll =>
    obtain rfl := Option.some.inj hc
    exact ⟨rfl, rfl⟩
  | load text roll => cases hc
  | setVariable name value drop => cases hc

/-- Only a command that submits can fail. -/
theorem isOk_step_of_command {s : KeypadStep} {c : Command} (hc : s.command? = some c)
    (hne : c ≠ .submit) (d : Desk) : (step s d).1.isOk = true := by
  rw [(step_of_command hc d).2]
  cases c with
  | submit => exact absurd rfl hne
  | _ => rfl

/-- A key press without a command changes nothing. -/
theorem step_press_of_no_command {p : KeyPress} (hp : p.command? = none) (d : Desk) :
    step (.press p) d = (.ok (.command none), d) := by
  rw [step, Keypad.press, hp]
  rfl

theorem keypad_step_of_no_command {s : KeypadStep} (hc : s.command? = none)
    (hload : ∀ text roll, s ≠ .load text roll) (d : Desk) :
    (step s d).2.keypad = d.keypad := by
  cases s with
  | press key => rw [step_press_of_no_command hc]
  | apply name text =>
    rw [KeypadStep.command?] at hc
    cases hn : Command.ofName name text with
    | error e => simp only [step, hn]
    | ok c => simp [hn, Except.toOption] at hc
  | load text roll => exact absurd rfl (hload text roll)
  | setVariable name value drop =>
    rw [step]
    split <;> rfl
  | _ => cases hc

theorem keypad_step_of_not_load {s : KeypadStep} (hload : ∀ text roll, s ≠ .load text roll)
    (d : Desk) : (step s d).2.keypad = d.keypad.answer d.host s.request := by
  rw [KeypadStep.request_of_not_load hload]
  cases hc : s.command? with
  | none => exact keypad_step_of_no_command hc hload d
  | some c =>
    rw [(step_of_command hc d).1]
    exact d.keypad.apply_keypad c d.host

/-- A step leaves the keypad as its request does. -/
theorem keypad_step (s : KeypadStep) (d : Desk) :
    (step s d).2.keypad = d.keypad.answer d.host s.request := by
  cases s with
  | load text roll =>
    rw [step, settle_desk]
    cases roll with
    | true => exact congrArg Prod.fst (d.keypad.load_true text d.host).1
    | false => rfl
  | _ => exact keypad_step_of_not_load (by simp) d

/-- A step that submits leaves the desk as the submit does. -/
theorem step_of_submit {s : KeypadStep} {loaded : Option String}
    (hs : s.request = .submit loaded) (d : Desk) :
    (step s d).2 = ⟨((d.keypad.loading loaded).submit d.host).2.1,
      ((d.keypad.loading loaded).submit d.host).2.2⟩ := by
  obtain ⟨hc, rfl⟩ | ⟨text, rfl, rfl⟩ := KeypadStep.request_eq_submit_iff.1 hs
  · rw [(step_of_command hc d).1, (d.keypad.apply_submit d.host).1, Keypad.loading]
  · rw [step, settle_desk, (d.keypad.load_true text d.host).1]

theorem keypad_step_of_submit {s : KeypadStep} {loaded : Option String}
    (hs : s.request = .submit loaded) (d : Desk) :
    (step s d).2.keypad = ((d.keypad.loading loaded).submit d.host).2.1 := by
  rw [step_of_submit hs]

theorem isOk_step_of_submit {s : KeypadStep} {loaded : Option String}
    (hs : s.request = .submit loaded) (d : Desk) :
    (step s d).1.isOk = ((d.keypad.loading loaded).submit d.host).1.isOk := by
  obtain ⟨hc, rfl⟩ | ⟨text, rfl, rfl⟩ := KeypadStep.request_eq_submit_iff.1 hs
  · rw [(step_of_command hc d).2, (d.keypad.apply_submit d.host).2, Keypad.loading]
  · rw [step, settle_isOk, (d.keypad.load_true text d.host).2]

end Desk

/-! ### What a submit does -/

/-- The answer of a submit and the keypad after it: the settings cannot be read, or the text is
refused, or a die shows no face, or the text is rolled. -/
inductive Submitted (k : Keypad) (h : Host) : Except Failure Outcome → Keypad → Prop
  | unread {e : SettingsError}
      (hread : (h.readTerms (some k.buffer.text)).1 = .error (.settings e)) :
    Submitted k h (.error (.settings e)) k
  | refused {cause : Refusal}
      (hread : (h.readTerms (some k.buffer.text)).1 = .ok (.error cause)) :
    Submitted k h (.ok ⟨k.buffer.text, .refused cause⟩)
      { k with outcome := some ⟨k.buffer.text, .refused cause⟩ }
  | failed {terms : List Term} {e : DieError} {source : Source}
      (hread : (h.readTerms (some k.buffer.text)).1 = .ok (.ok terms))
      (hroll : rollTerms terms k.source = (.error e, source)) :
    Submitted k h (.error (.die e)) { k with source }
  | rolled {terms : List Term} {rolls : List TermRoll} {source : Source}
      (hread : (h.readTerms (some k.buffer.text)).1 = .ok (.ok terms))
      (hroll : rollTerms terms k.source = (.ok rolls, source)) :
    Submitted k h (.ok ⟨k.buffer.text, .rolled rolls⟩)
      { k with source, outcome := some ⟨k.buffer.text, .rolled rolls⟩ }

/-- A submit that answers does not depend on the outcome before it. -/
theorem Keypad.submit_congr {k₁ k₂ : Keypad} {h : Host} (hbuffer : k₁.buffer = k₂.buffer)
    (hsource : k₁.source = k₂.source) (hok : (k₁.submit h).1.isOk = true) :
    k₁.submit h = k₂.submit h := by
  obtain ⟨buffer, source, outcome₁⟩ := k₁
  obtain ⟨_, _, outcome₂⟩ := k₂
  obtain rfl : buffer = _ := hbuffer
  obtain rfl : source = _ := hsource
  unfold submit at hok ⊢
  dsimp only at hok ⊢
  rcases hp : h.parse (some buffer.text) with ⟨e | cause | terms, h'⟩
  · rw [hp] at hok
    cases hok
  · rfl
  · rw [hp] at hok
    dsimp only at hok ⊢
    rcases hr : rollTerms terms source with ⟨e | rolls, source'⟩
    · rw [hr] at hok
      cases hok
    · rfl

theorem Keypad.submitted (k : Keypad) (h : Host) :
    Submitted k h (k.submit h).1 (k.submit h).2.1 := by
  have hparse := Host.fst_parse h (some k.buffer.text) {}
  unfold submit
  dsimp only
  rcases hp : h.parse (some k.buffer.text) with ⟨e | cause | terms, h'⟩
  · rw [hp] at hparse
    obtain ⟨cause, rfl, -⟩ := Host.fst_readTerms_eq_error_iff.1 hparse.symm
    exact .unread hparse.symm
  · rw [hp] at hparse
    exact .refused hparse.symm
  · rw [hp] at hparse
    dsimp only
    rcases hr : rollTerms terms k.source with ⟨e | rolls, source⟩
    · exact .failed hparse.symm hr
    · exact .rolled hparse.symm hr

end RollPad
