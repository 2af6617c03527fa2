import RollPad.Proofs.Keypad.Draws
import RollPad.Proofs.Keypad.Zipper
import RollPad.Proofs.Notation.Canonical
import RollPad.Session

/-!
Typing an expression. The keys that mean something are known by name (`mappedKeys`), and every other
key press is ignored, wherever it comes. `Enters` says of a run of key presses that, apart from the
ignored ones, it is Escape, then the characters of a text, then Enter; the main statement is that
such a run leaves the desk as it would be had the text been loaded and rolled
(`typing_formatTerms`).
-/

namespace RollPad

/-! ### Keys that mean something -/

/-- The characters that typing puts into the text. -/
def typedChars : List Char :=
  "0123456789d ".toList

/-- The keys with a name. -/
def namedKeys : List String :=
  ["Backspace", "Delete", "ArrowLeft", "ArrowRight", "Home", "End", "Enter", "Escape"]

/-- The keys that mean something. -/
def mappedKeys : List String :=
  "D" :: typedChars.map String.singleton ++ namedKeys

namespace KeyPress

/-- A key press that is left alone: a modifier is held that belongs to somebody else, or the key
means nothing. -/
def Ignored (p : KeyPress) : Prop :=
  p.isBlocked = true ∨ p.key ∉ mappedKeys

instance (p : KeyPress) : Decidable p.Ignored :=
  inferInstanceAs (Decidable (_ ∨ _))

/-- A key press that is meant as a key; the letter `d` may also be typed in upper case. -/
def IsMeant (p : KeyPress) (key : String) : Prop :=
  p.isBlocked = false ∧ (p.key = key ∨ key = "d" ∧ p.key = "D")

instance (p : KeyPress) (key : String) : Decidable (p.IsMeant key) :=
  inferInstanceAs (Decidable (_ ∧ (_ ∨ _ ∧ _)))

end KeyPress

/-- The key presses that are not ignored. -/
def heeded (keys : List KeyPress) : List KeyPress :=
  keys.filter fun p => !decide p.Ignored

/-- Key presses are meant as the characters of a text, one by one. -/
def Types (keys : List KeyPress) (cs : List Char) : Prop :=
  List.Forall₂ (fun p c => p.IsMeant (String.singleton c)) keys cs

instance (keys : List KeyPress) (cs : List Char) : Decidable (Types keys cs) :=
  inferInstanceAs (Decidable (List.Forall₂ _ _ _))

/-- Key presses enter a text: apart from the ignored ones they are Escape, the characters of the
text, and Enter. -/
def Enters (keys : List KeyPress) (text : String) : Prop :=
  ∃ escape typed enter, heeded keys = escape :: (typed ++ [enter]) ∧ escape.IsMeant "Escape" ∧
    Types typed text.toList ∧ enter.IsMeant "Enter"

theorem isTyped_iff {c : Char} : isTyped c = true ↔ c = 'D' ∨ c ∈ typedChars := by
  constructor
  · intro h
    simp only [isTyped, Bool.or_eq_true, beq_iff_eq] at h
    obtain ((hdigit | rfl) | rfl) | rfl := h
    · have hsmall : ∀ n < 10, Nat.digitChar n ∈ typedChars := by decide
      have hc := Text.toNat_of_isDigit hdigit
      rw [← Text.digitChar_of_isDigit hdigit]
      exact .inr (hsmall _ (by omega))
    · exact .inr (by decide)
    · exact .inl rfl
    · exact .inr (by decide)
  · have hall : ('D' :: typedChars).all isTyped = true := by decide
    exact fun h => List.all_eq_true.1 hall c (List.mem_cons.2 h)

theorem Command.ofNamedKey?_eq_none_iff {key : String} :
    ofNamedKey? key = none ↔ key ∉ namedKeys := by
  unfold ofNamedKey? namedKeys
  split <;> simp_all

theorem mem_mappedKeys_iff {key : String} :
    key ∈ mappedKeys ↔
      (∃ c, key = String.singleton c ∧ isTyped c = true) ∨ key ∈ namedKeys := by
  have hletter : (key = "D" ∨ key ∈ typedChars.map String.singleton) ↔
      ∃ c, key = String.singleton c ∧ isTyped c = true := by
    simp only [isTyped_iff, List.mem_map]
    constructor
    · rintro (rfl | ⟨c, hc, rfl⟩)
      · exact ⟨'D', rfl, .inl rfl⟩
      · exact ⟨c, rfl, .inr hc⟩
    · rintro ⟨c, rfl, rfl | hc⟩
      · exact .inl rfl
      · exact .inr ⟨c, hc, rfl⟩
  rw [mappedKeys, List.cons_append, List.mem_cons, List.mem_append, ← or_assoc, hletter]

namespace KeyPress

theorem command?_of_singleton {p : KeyPress} {c : Char} (hp : p.isBlocked = false)
    (hkey : p.key = String.singleton c) (hc : isTyped c = true) :
    p.command? = some (.insert (String.singleton c.toLower)) := by
  simp [command?, hp, hkey, hc]

/-- Exactly the ignored key presses have no command. -/
theorem command?_eq_none_iff {p : KeyPress} : p.command? = none ↔ p.Ignored := by
  unfold Ignored
  cases hb : p.isBlocked with
  | true => simp [command?, hb]
  | false =>
    rw [mem_mappedKeys_iff]
    by_cases hone : ∃ c, p.key = String.singleton c
    · obtain ⟨c, hc⟩ := hone
      have hnamed : p.key ∉ namedKeys := by
        rw [← Command.ofNamedKey?_eq_none_iff, Option.eq_none_iff_forall_ne_some]
        exact fun command h => Command.length_of_ofNamedKey? h (by simp [hc])
      cases ht : isTyped c with
      | true => simp [command?_of_singleton hb hc ht, hc, ht]
      | false => simp [command?, hb, hc, ht, hc ▸ hnamed]
    · have hmany : p.command? = Command.ofNamedKey? p.key := by
        simp only [command?, hb, Bool.false_eq_true, if_false]
        split
        · next c hc => exact absurd ⟨c, String.toList_inj.1 (by simpa using hc)⟩ hone
        · rfl
      have hsingle : ¬∃ c, p.key = String.singleton c ∧ isTyped c = true :=
        fun ⟨c, hc, _⟩ => hone ⟨c, hc⟩
      simp [hmany, Command.ofNamedKey?_eq_none_iff, hsingle]

theorem command?_of_isMeant_char {p : KeyPress} {c : Char} (h : p.IsMeant (String.singleton c))
    (hc : c ∈ typedChars) : p.command? = some (.insert (String.singleton c)) := by
  obtain ⟨hfree, hkey | ⟨hd, hkey⟩⟩ := h
  · have hlower : typedChars.all (fun c => c.toLower == c) = true := by decide
    have hc' := beq_iff_eq.1 (List.all_eq_true.1 hlower c hc)
    rw [command?_of_singleton hfree hkey (isTyped_iff.2 (.inr hc)), hc']
  · rw [command?_of_singleton hfree (show p.key = String.singleton 'D' from hkey) (by decide), hd]
    rfl

theorem command?_of_isMeant_named {p : KeyPress} {key : String} {c : Command}
    (h : p.IsMeant key) (hkey : key ≠ "d") (hc : Command.ofNamedKey? key = some c)
    (hinsert : ∀ text, c ≠ .insert text) : p.command? = some c := by
  obtain ⟨hfree, rfl | ⟨hd, -⟩⟩ := h
  · exact (command?_eq_some_iff hinsert).2 ⟨hfree, hc⟩
  · exact absurd hd hkey

end KeyPress

/-! ### Runs of key presses -/

theorem heeded_cons_of_ignored {p : KeyPress} (hp : p.Ignored) (rest : List KeyPress) :
    heeded (p :: rest) = heeded rest :=
  List.filter_cons_of_neg (by simpa using hp)

theorem heeded_cons_of_not {p : KeyPress} (hp : ¬p.Ignored) (rest : List KeyPress) :
    heeded (p :: rest) = p :: heeded rest :=
  List.filter_cons_of_pos (by simpa using hp)

/-- Ignored key presses change nothing, so a run may as well leave them out. -/
theorem stateAfter_heeded (keys : List KeyPress) (d : Desk) :
    stateAfter Desk.step (keys.map .press) d =
      stateAfter Desk.step ((heeded keys).map .press) d := by
  induction keys generalizing d with
  | nil => rfl
  | cons p rest ih =>
    by_cases hp : p.Ignored
    · have hstep := Desk.step_press_of_no_command (KeyPress.command?_eq_none_iff.2 hp) d
      rw [heeded_cons_of_ignored hp, ← ih, List.map_cons, stateAfter, List.foldl_cons, hstep]
      rfl
    · rw [heeded_cons_of_not hp]
      exact ih _

/-- What fails without the ignored key presses fails with them. -/
theorem mem_trace_of_heeded {keys : List KeyPress} {d : Desk}
    {answer : Except KeypadError KeypadReply × Desk}
    (h : answer ∈ trace Desk.step ((heeded keys).map .press) d) :
    answer ∈ trace Desk.step (keys.map .press) d := by
  induction keys generalizing d with
  | nil => exact h
  | cons p rest ih =>
    by_cases hp : p.Ignored
    · rw [heeded_cons_of_ignored hp] at h
      have hstep := Desk.step_press_of_no_command (KeyPress.command?_eq_none_iff.2 hp) d
      rw [List.map_cons, trace, hstep]
      exact List.mem_cons_of_mem _ (ih h)
    · rw [heeded_cons_of_not hp, List.map_cons, trace] at h
      rcases List.mem_cons.1 h with rfl | h
      · exact List.mem_cons_self
      · exact List.mem_cons_of_mem _ (ih h)

/-! ### Typing a text -/

/-- Typing at the end of a text lengthens it. -/
theorem Buffer.insert_ofText (s t : String) : (ofText s).insert t = ofText (s ++ t) := by
  have hzipper := (Zipper.ofText s).toBuffer_apply (.insert t)
  rw [Zipper.ofText_toBuffer] at hzipper
  have happend : (Zipper.ofText s).apply (.insert t) = Zipper.ofText (s ++ t) := by
    simp [Zipper.apply, Zipper.ofText]
  rw [happend, Zipper.ofText_toBuffer] at hzipper
  exact hzipper.symm

/-- Typed characters come one after the other behind the text so far, and nothing else changes. -/
theorem stateAfter_types {keys : List KeyPress} {cs : List Char} (hkeys : Types keys cs)
    (hcs : ∀ c ∈ cs, c ∈ typedChars) (k : Keypad) (h : Host) (text : String) :
    stateAfter Desk.step (keys.map .press) ⟨{ k with buffer := .ofText text }, h⟩ =
      ⟨{ k with buffer := .ofText (text ++ String.ofList cs) }, h⟩ := by
  induction cs generalizing keys text with
  | nil =>
    obtain rfl : keys = [] := List.forall₂_nil_right_iff.1 hkeys
    rw [String.ofList_nil, String.append_empty]
    rfl
  | cons c cs ih =>
    obtain ⟨p, rest, hp, hrest, rfl⟩ := List.forall₂_cons_right_iff.1 hkeys
    obtain ⟨hc, hcs⟩ := List.forall_mem_cons.1 hcs
    have hcommand := KeyPress.command?_of_isMeant_char hp hc
    have hstep : (Desk.step (.press p) ⟨{ k with buffer := .ofText text }, h⟩).2 =
        ⟨{ k with buffer := .ofText (text ++ String.singleton c) }, h⟩ := by
      rw [(Desk.step_of_command (s := .press p) hcommand _).1, ← Buffer.insert_ofText]
      rfl
    rw [List.map_cons, stateAfter, List.foldl_cons, hstep]
    have hmore := ih hrest hcs (text ++ String.singleton c)
    have happend : text ++ String.singleton c ++ String.ofList cs =
        text ++ String.ofList (c :: cs) := by
      simp [← String.toList_inj]
    rwa [happend] at hmore

theorem mem_typedChars_of_isDigit {c : Char} (hc : c.isDigit = true) : c ∈ typedChars := by
  have htyped : isTyped c = true := by simp [isTyped, hc]
  refine (isTyped_iff.1 htyped).resolve_left ?_
  rintro rfl
  exact absurd hc (by decide)

/-- Canonical notation can be typed. -/
theorem mem_typedChars_of_mem_formatTerms {ts : List Term} {c : Char}
    (hc : c ∈ (formatTerms ts).toList) : c ∈ typedChars := by
  by_cases hspace : c = ' '
  · rw [hspace]
    decide
  · rw [toList_formatTerms, mem_intercalate_iff hspace] at hc
    obtain ⟨word, hword, hmem⟩ := hc
    obtain ⟨t, -, rfl⟩ := List.mem_map.1 hword
    rcases Term.mem_text hmem with hdigit | rfl
    · exact mem_typedChars_of_isDigit hdigit
    · decide

/-- Entering a text leaves the desk as loading and rolling it does, unless the submit fails. -/
theorem Desk.stateAfter_enters {keys : List KeyPress} {text : String} (hkeys : Enters keys text)
    (htext : ∀ c ∈ text.toList, c ∈ typedChars) {d : Desk}
    (hok : ∀ answer ∈ trace step (keys.map .press) d, answer.1.isOk = true) :
    (step (.load text true) d).1.isOk = true ∧
      stateAfter step (keys.map .press) d = (step (.load text true) d).2 := by
  obtain ⟨escape, typed, enter, hheeded, hescape, htyped, henter⟩ := hkeys
  have hclear : escape.command? = some .clearAll :=
    KeyPress.command?_of_isMeant_named hescape (by decide) rfl (by simp)
  have hsubmit : enter.command? = some .submit :=
    KeyPress.command?_of_isMeant_named henter (by decide) rfl (by simp)
  have hentered : (KeypadStep.press enter).request = .submit none :=
    KeypadStep.request_eq_submit_iff.2 (.inl ⟨hsubmit, rfl⟩)
  have hloaded : (KeypadStep.load text true).request = .submit (some text) := rfl
  -- the keypad as Enter finds it: cleared, and then the whole text typed
  let k : Keypad := { d.keypad.clearAll with buffer := .ofText text }
  have hbefore : stateAfter step ((escape :: typed).map .press) d = ⟨k, d.host⟩ := by
    have hescaped : (step (.press escape) d).2 = ⟨d.keypad.clearAll, d.host⟩ :=
      (step_of_command (s := .press escape) hclear d).1
    have htypes := stateAfter_types htyped htext d.keypad.clearAll d.host ""
    rw [List.map_cons, stateAfter, List.foldl_cons, hescaped]
    rwa [String.ofList_toList, String.empty_append] at htypes
  have hsplit : (heeded keys).map .press =
      (escape :: typed).map .press ++ [KeypadStep.press enter] := by
    simp [hheeded]
  have hok : (k.submit d.host).1.isOk = true := by
    have htrace : ∀ answer ∈ trace step ((escape :: typed).map .press ++ [.press enter]) d,
        answer.1.isOk = true := by
      rw [← hsplit]
      exact fun answer h => hok answer (mem_trace_of_heeded h)
    have hlast := isOk_of_trace htrace
    rwa [hbefore, isOk_step_of_submit hentered] at hlast
  have hload : k.submit d.host = (d.keypad.loading (some text)).submit d.host :=
    Keypad.submit_congr rfl rfl hok
  constructor
  · rwa [isOk_step_of_submit hloaded, ← hload]
  · rw [stateAfter_heeded, hsplit, stateAfter_concat, hbefore, step_of_submit hentered,
      step_of_submit hloaded, ← hload]
    rfl

/-- A submit that answers has rolled the terms of a text that has some. -/
theorem Submitted.exists_rolls {k k' : Keypad} {h : Host} {answer : Except Failure Outcome}
    {ts : List Term} (hs : Submitted k h answer k')
    (hread : (h.readTerms (some k.buffer.text)).1 = .ok (.ok ts)) (hok : answer.isOk = true) :
    ∃ rolls, k'.buffer = k.buffer ∧ k'.outcome = some ⟨k.buffer.text, .rolled rolls⟩ ∧
      rolls.map TermRoll.term = ts := by
  cases hs with
  | unread => cases hok
  | refused hrefused => simp [hread] at hrefused
  | failed => cases hok
  | rolled hterms hroll =>
    obtain rfl : ts = _ := by simpa [hread] using hterms
    exact ⟨_, rfl, rfl, (rollTerms_spec hroll).1⟩

/-- From any state, entering the canonical notation of terms within the limits in force, in which
each `d` may be typed in either case and any ignored key presses may come in between, leaves the
notation in the buffer, with the caret at its end, and an outcome that has rolled the terms. It
leaves the desk as loading and rolling the notation does. -/
theorem typing_formatTerms {d : Desk} {limits : Limits} {ts : List Term} {keys : List KeyPress}
    (hlimits : (d.host.limitsFor {}).1 = .ok limits) (hne : ts ≠ [])
    (hshort : ∀ t ∈ ts, t.IsShort) (hfits : Fits limits ts)
    (hkeys : Enters keys (formatTerms ts))
    (hok : ∀ answer ∈ trace Desk.step (keys.map .press) d, answer.1.isOk = true) :
    let after := stateAfter Desk.step (keys.map .press) d
    let loaded := Desk.step (.load (formatTerms ts) true) d
    after.keypad.buffer = ⟨formatTerms ts, (formatTerms ts).length⟩ ∧
      (∃ o, after.keypad.outcome = some o ∧ o.isOk = true ∧ o.text = formatTerms ts ∧
        o.rolls.map TermRoll.term = ts) ∧
      loaded.1.isOk = true ∧ after = loaded.2 := by
  intro after loaded
  obtain ⟨hloaded, hsame⟩ := Desk.stateAfter_enters hkeys
    (fun _ => mem_typedChars_of_mem_formatTerms) hok
  have hrequest : (KeypadStep.load (formatTerms ts) true).request =
      .submit (some (formatTerms ts)) := rfl
  have htext : (d.keypad.loading (some (formatTerms ts))).buffer = .ofText (formatTerms ts) := rfl
  have hsubmitted := (d.keypad.loading (some (formatTerms ts))).submitted d.host
  rw [← Desk.keypad_step_of_submit hrequest] at hsubmitted
  have hread : (d.host.readTerms (some (Buffer.ofText (formatTerms ts)).text)).1 =
      .ok (.ok ts) := by
    rw [Buffer.ofText, Host.fst_readTerms_of_limitsFor hlimits, answerOf_eq_terms_iff,
      readTerms_formatTerms hne hshort hfits]
  rw [← htext] at hread
  obtain ⟨rolls, hbuffer, houtcome, hterms⟩ := hsubmitted.exists_rolls hread
    ((Desk.isOk_step_of_submit hrequest d).symm.trans hloaded)
  rw [← hsame, htext] at hbuffer houtcome
  exact ⟨hbuffer, ⟨_, houtcome, rfl, rfl, hterms⟩, hloaded, hsame⟩

/-- Two terms, typed with an upper-case letter, a shortcut of the browser and a key without meaning,
over what was there before. -/
theorem typing_formatTerms_two_terms :
    let source : Source := .system []
    let before : Outcome := ⟨"x", .refused ⟨.notATerm "x", rfl⟩⟩
    let d : Desk := ⟨{ buffer := ⟨"3d", 1⟩, source, outcome := some before }, {}⟩
    let limits : Limits := ⟨1000, 1000000, 10000⟩
    let ts : List Term := [⟨2, 6, by decide, by decide⟩, ⟨1, 20, by decide, by decide⟩]
    let plain (key : String) : KeyPress := { key }
    let keys : List KeyPress := [plain "Escape", plain "2", { key := "Enter", ctrlKey := true },
      { key := "D", shiftKey := true }, plain "6", plain " ", plain "Tab", plain "1", plain "d",
      plain "2", plain "0", plain "Enter"]
    (d.host.limitsFor {}).1 = .ok limits ∧ ts ≠ [] ∧ (∀ t ∈ ts, t.IsShort) ∧ Fits limits ts ∧
      Enters keys (formatTerms ts) ∧
      (∀ answer ∈ trace Desk.step (keys.map .press) d, answer.1.isOk = true) ∧
      (stateAfter Desk.step (keys.map .press) d).keypad.buffer = ⟨"2d6 1d20", 8⟩ ∧
      stateAfter Desk.step (keys.map .press) d = (Desk.step (.load "2d6 1d20" true) d).2 := by
  intro source before d limits ts plain keys
  have hlimits : (d.host.limitsFor {}).1 = .ok limits := by decide +kernel
  have hne : ts ≠ [] := by decide
  have hshort : ∀ t ∈ ts, t.IsShort := by decide +kernel
  have hfits : Fits limits ts := ⟨by decide, by decide, by decide⟩
  have hkeys : Enters keys (formatTerms ts) := by
    refine ⟨plain "Escape", [plain "2", { key := "D", shiftKey := true }, plain "6", plain " ",
      plain "1", plain "d", plain "2", plain "0"], plain "Enter", ?_, ?_, ?_, ?_⟩
    · decide +kernel
    · decide
    · decide +kernel
    · decide
  have hok : ∀ answer ∈ trace Desk.step (keys.map .press) d, answer.1.isOk = true := by
    decide +kernel
  obtain ⟨hbuffer, -, -, hsame⟩ := typing_formatTerms hlimits hne hshort hfits hkeys hok
  have htext : formatTerms ts = "2d6 1d20" := by decide +kernel
  rw [htext] at hbuffer hsame
  exact ⟨hlimits, hne, hshort, hfits, hkeys, hok, hbuffer, hsame⟩

end RollPad
