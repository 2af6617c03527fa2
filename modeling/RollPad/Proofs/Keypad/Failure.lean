import RollPad.Proofs.Dice.Failure
import RollPad.Proofs.Keypad.Request
import RollPad.Proofs.Notation.Canonical

/-!
Failures at the keypad. `BreaksOff` says why a text cannot be rolled on a host although it is not
refused; with draws from zero up to one a submit fails for these causes exactly
(`Submitted.eq_error_iff`), so a load does, and keys do at the first `Enter` with such a text in the
buffer. With settings in use, the limit on sides decides whether there is such a text at all.
-/

namespace RollPad

/-- Why the roll of a text on a host breaks off. -/
inductive BreaksOff (h : Host) (text : String) : Failure → Prop
  | unread {e : SettingsError} (hblank : Text.isBlankText text = false)
      (hlimits : (h.limitsFor {}).1 = .error e) : BreaksOff h text (.settings e)
  | tooManySides {limits : Limits} {ts : List Term} {t : Term}
      (hlimits : (h.limitsFor {}).1 = .ok limits) (hread : readTerms limits text = .ok ts)
      (ht : t ∈ ts) (hsides : Magnitude.overflow ≤ t.sides) :
      BreaksOff h text (.die .sidesTooLarge)

/-! ### One text -/

theorem breaksOff_iff {h : Host} {text : String} {cause : Failure} :
    BreaksOff h text cause ↔
      (h.readTerms (some text)).1 = .error cause ∨
        ∃ ts, (h.readTerms (some text)).1 = .ok (.ok ts) ∧ cause = .die .sidesTooLarge ∧
          ∃ t ∈ ts, Magnitude.overflow ≤ t.sides := by
  constructor
  · intro hcause
    cases hcause with
    | unread hblank hlimits =>
      exact .inl (Host.fst_readTerms_eq_error_iff.2 ⟨_, rfl, hblank, hlimits⟩)
    | tooManySides hlimits hread ht hsides =>
      refine .inr ⟨_, ?_, rfl, _, ht, hsides⟩
      rw [Host.fst_readTerms_of_limitsFor hlimits, hread]
      rfl
  · rintro (hread | ⟨ts, hread, rfl, t, ht, hsides⟩)
    · obtain ⟨e, rfl, hblank, hlimits⟩ := Host.fst_readTerms_eq_error_iff.1 hread
      exact .unread hblank hlimits
    · obtain ⟨limits, hlimits, hterms⟩ := Host.exists_limitsFor_of_readTerms hread
      exact .tooManySides hlimits hterms ht hsides

theorem Submitted.eq_error_iff {k k' : Keypad} {h : Host} {answer : Except Failure Outcome}
    (hs : Submitted k h answer k') (hdraws : k.source.UnitDraws) {cause : Failure} :
    answer = .error cause ↔ BreaksOff h k.buffer.text cause := by
  rw [breaksOff_iff]
  cases hs with
  | unread hread => simp [hread, eq_comm]
  | refused hread => simp [hread]
  | failed hread hroll =>
    obtain ⟨rfl, hlarge⟩ := (fst_rollTerms_eq_error_iff hdraws).1 (congrArg Prod.fst hroll)
    simp [hread, hlarge, eq_comm]
  | rolled hread hroll =>
    have hfits := mt (fun hlarge => (fst_rollTerms_eq_error_iff hdraws).2 ⟨rfl, hlarge⟩)
      (by rw [hroll]; nofun)
    simp [hread, hfits]

theorem Submitted.of_refused {k k' : Keypad} {h : Host} {answer : Except Failure Outcome}
    (hs : Submitted k h answer k') {cause : Refusal}
    (hread : (h.readTerms (some k.buffer.text)).1 = .ok (.error cause)) :
    answer.isOk = true ∧ k'.outcome = some ⟨k.buffer.text, .refused cause⟩ := by
  cases hs <;> simp_all [Except.isOk, Except.toBool]

theorem Keypad.fst_load_eq_error_iff {k : Keypad} {text : String} {h : Host} {cause : Failure} :
    (k.load text true h).1 = .error cause ↔
      ((k.loading (some text)).submit h).1 = .error cause := by
  unfold load
  dsimp only
  rw [if_pos rfl, loading]
  split <;> simp [*]

theorem Keypad.load_eq_error_iff {k : Keypad} (hdraws : k.source.UnitDraws) {text : String}
    {h : Host} {cause : Failure} :
    (k.load text true h).1 = .error cause ↔ BreaksOff h text cause :=
  fst_load_eq_error_iff.trans (((k.loading (some text)).submitted h).eq_error_iff hdraws)

/-! ### Keys -/

namespace Keypad

theorem fst_apply_submit_eq_error_iff {k : Keypad} {h : Host} {cause : Failure} :
    (k.apply .submit h).1 = .error cause ↔ (k.submit h).1 = .error cause := by
  rw [apply]
  split <;> simp [*]

theorem fst_press_eq_error_iff {k : Keypad} {p : KeyPress} {h : Host} {cause : Failure} :
    (k.press p h).1 = .error cause ↔
      p.command? = some .submit ∧ (k.submit h).1 = .error cause := by
  rw [press, ← fst_apply_submit_eq_error_iff]
  cases p.command? with
  | none => simp
  | some c =>
    dsimp only
    cases c with
    | submit => split <;> simp [*]
    | _ => simp [apply]

theorem pressAll_append_of_ok {k : Keypad} {xs : List KeyPress} {h : Host}
    (hxs : (k.pressAll xs h).1.isOk = true) (ys : List KeyPress) :
    k.pressAll (xs ++ ys) h = (k.pressAll xs h).2.1.pressAll ys (k.pressAll xs h).2.2 := by
  induction xs generalizing k h with
  | nil => rfl
  | cons x xs ih =>
    rw [pressAll] at hxs
    rw [List.cons_append, pressAll, pressAll]
    rcases hx : k.press x h with ⟨_ | c, k', h'⟩
    · rw [hx] at hxs
      cases hxs
    · rw [hx] at hxs
      exact ih hxs

/-- Keys fail at the first press that does. -/
theorem fst_pressAll_eq_error_iff {k : Keypad} {ps : List KeyPress} {h : Host} {cause : Failure} :
    (k.pressAll ps h).1 = .error cause ↔
      ∃ before p after, ps = before ++ p :: after ∧ (k.pressAll before h).1.isOk = true ∧
        ((k.pressAll before h).2.1.press p (k.pressAll before h).2.2).1 = .error cause := by
  constructor
  · intro herror
    induction ps generalizing k h with
    | nil => cases herror
    | cons p ps ih =>
      rw [pressAll] at herror
      rcases hp : k.press p h with ⟨e | c, k', h'⟩
      · rw [hp] at herror
        refine ⟨[], p, ps, rfl, rfl, ?_⟩
        simpa [pressAll, hp] using herror
      · rw [hp] at herror
        obtain ⟨before, q, after, rfl, hbefore, hq⟩ := ih herror
        refine ⟨p :: before, q, after, rfl, ?_⟩
        rw [pressAll, hp]
        exact ⟨hbefore, hq⟩
  · rintro ⟨before, p, after, rfl, hbefore, hp⟩
    rw [pressAll_append_of_ok hbefore, pressAll]
    split
    · next hpress => simpa [hpress] using hp
    · next hpress => simp [hpress] at hp

theorem pressAll_enter {k : Keypad} {h : Host} (hok : (k.submit h).1.isOk = true) :
    (k.pressAll [{ key := "Enter" }] h).1.isOk = true ∧
      (k.pressAll [{ key := "Enter" }] h).2 = (k.submit h).2 := by
  have hsubmits : KeyPress.command? { key := "Enter" } = some .submit := rfl
  rw [pressAll, press, hsubmits]
  dsimp only
  rw [apply]
  rcases hs : k.submit h with ⟨e | o, k', h'⟩
  · rw [hs] at hok
    cases hok
  · exact ⟨rfl, rfl⟩

end Keypad

/-- Only `Enter` without a modifier submits. -/
theorem KeyPress.command?_eq_submit_iff {key : String} {altKey ctrlKey : Bool} :
    command? { key, altKey, ctrlKey } = some .submit ↔
      key = "Enter" ∧ altKey = false ∧ ctrlKey = false := by
  rw [command?_eq_some_iff (by simp), Command.ofNamedKey?_eq_submit_iff]
  simp [isBlocked, and_comm]

/-! ### Draws -/

theorem Submitted.unitDraws {k k' : Keypad} {h : Host} {answer : Except Failure Outcome}
    (hs : Submitted k h answer k') (hdraws : k.source.UnitDraws) : k'.source.UnitDraws := by
  cases hs with
  | unread => exact hdraws
  | refused => exact hdraws
  | failed hread hroll => exact unitDraws_of_rollTerms hroll hdraws
  | rolled hread hroll => exact unitDraws_of_rollTerms hroll hdraws

namespace Keypad

theorem unitDraws_answer {k : Keypad} (hdraws : k.source.UnitDraws) (h : Host) (r : Request) :
    (k.answer h r).source.UnitDraws := by
  cases r with
  | submit loaded => exact (submitted _ h).unitDraws (k.loading_source loaded ▸ hdraws)
  | _ => exact hdraws

theorem unitDraws_press {k : Keypad} (hdraws : k.source.UnitDraws) (p : KeyPress) (h : Host) :
    (k.press p h).2.1.source.UnitDraws := by
  cases hc : p.command? with
  | none =>
    rw [press, hc]
    exact hdraws
  | some c =>
    rw [(press_of_command hc h).1, apply_keypad]
    exact unitDraws_answer hdraws h c.request

/-- What every press keeps, keys pressed in order keep. -/
theorem pressAll_induction {P : Keypad → Host → Prop}
    (hpress : ∀ k p h, P k h → P (press k p h).2.1 (press k p h).2.2) (ps : List KeyPress)
    {k : Keypad} {h : Host} (hP : P k h) : P (k.pressAll ps h).2.1 (k.pressAll ps h).2.2 := by
  induction ps generalizing k h with
  | nil => exact hP
  | cons p ps ih =>
    have hpressed := hpress k p h hP
    rw [pressAll]
    rcases hp : k.press p h with ⟨_ | c, k', h'⟩
    · rwa [hp] at hpressed
    · rw [hp] at hpressed
      exact ih hpressed

theorem unitDraws_pressAll {k : Keypad} (hdraws : k.source.UnitDraws) (ps : List KeyPress)
    (h : Host) : (k.pressAll ps h).2.1.source.UnitDraws :=
  pressAll_induction (P := fun k _ => k.source.UnitDraws) (fun _ p h hk => unitDraws_press hk p h)
    ps hdraws

end Keypad

/-! ### Settings in use -/

namespace Host

theorem limitsFor_of_settings {h : Host} {settings : Settings} (hs : h.settings = some settings) :
    h.limitsFor {} = (.ok settings.limits, h) := by
  simp [limitsFor, LimitRequest.complete?, useSettings, hs, LimitRequest.fill]

theorem snd_readTerms_of_settings {h : Host} {settings : Settings}
    (hs : h.settings = some settings) (text : Option String) : (h.readTerms text).2 = h := by
  unfold readTerms
  split
  · rfl
  · rw [limitsFor_of_settings hs]

theorem sameButLog_parse {h : Host} {settings : Settings} (hs : h.settings = some settings)
    (text : Option String) : SameButLog h (h.parse text).2 := by
  have hread := snd_readTerms_of_settings hs text
  unfold parse
  split
  · next hr =>
    rw [hr] at hread
    exact hread ▸ sameButLog_emit _ _
  · rw [hread]
    exact .refl h

end Host

namespace Keypad

/-- With settings in use, a submit changes nothing of the host but the log. -/
theorem sameButLog_submit {k : Keypad} {h : Host} {settings : Settings}
    (hs : h.settings = some settings) : Host.SameButLog h (k.submit h).2.2 := by
  have hparse := Host.sameButLog_parse hs (some k.buffer.text)
  unfold submit
  dsimp only
  rcases hp : h.parse (some k.buffer.text) with ⟨e | cause | terms, h'⟩
  · rwa [hp] at hparse
  · rwa [hp] at hparse
  · rw [hp] at hparse
    dsimp only
    rcases rollTerms terms k.source with ⟨e | rolls, source⟩
    · exact hparse
    · exact hparse.trans (Host.sameButLog_emit h' _)

theorem settings_press {k : Keypad} {h : Host} {settings : Settings}
    (hs : h.settings = some settings) (p : KeyPress) :
    (k.press p h).2.2.settings = some settings := by
  cases hc : p.command? with
  | none =>
    rw [press, hc]
    exact hs
  | some c =>
    rw [(press_of_command hc h).1]
    cases c with
    | submit =>
      rw [(k.apply_submit h).1, (sameButLog_submit hs).settings, hs]
    | _ => exact hs

theorem settings_pressAll {k : Keypad} {h : Host} {settings : Settings}
    (hs : h.settings = some settings) (ps : List KeyPress) :
    (k.pressAll ps h).2.2.settings = some settings :=
  pressAll_induction (P := fun _ h => h.settings = some settings)
    (fun _ p _ hs => settings_press hs p) ps hs

end Keypad

/-- Limits below the largest double let no text break off. -/
theorem not_breaksOff {h : Host} {settings : Settings} (hs : h.settings = some settings)
    (hsides : settings.limits.maxSides < Magnitude.overflow) {text : String} {cause : Failure} :
    ¬BreaksOff h text cause := by
  intro hcause
  have hlimits := congrArg Prod.fst (Host.limitsFor_of_settings hs)
  cases hcause with
  | unread _ hunread => exact nomatch hunread.symm.trans hlimits
  | tooManySides hin hread ht hlarge =>
    obtain rfl := Except.ok.inj (hin.symm.trans hlimits)
    obtain ⟨-, -, hfits⟩ := writable_of_readTerms hread
    have := hfits.sides_le _ ht
    omega

/-- A die with the least number of sides too large for a double. -/
def Term.oversized : Term :=
  ⟨1, Magnitude.overflow, by decide, Magnitude.overflow_pos⟩

theorem Term.isShort_oversized : oversized.IsShort :=
  ⟨by decide, (Nat.length_repr_le_iff (by decide)).2 (by decide +kernel)⟩

/-- Limits from there on let a text break off. -/
theorem breaksOff_oversized {h : Host} {settings : Settings} (hs : h.settings = some settings)
    (hcount : 1 ≤ settings.limits.maxCount) (htotal : 1 ≤ settings.limits.maxTotal)
    (hsides : Magnitude.overflow ≤ settings.limits.maxSides) :
    BreaksOff h (formatTerms [Term.oversized]) (.die .sidesTooLarge) := by
  have hfits : Fits settings.limits [Term.oversized] :=
    ⟨List.forall_mem_singleton.2 hcount, List.forall_mem_singleton.2 hsides, htotal⟩
  exact .tooManySides (congrArg Prod.fst (Host.limitsFor_of_settings hs))
    (readTerms_formatTerms (List.cons_ne_nil _ _)
      (List.forall_mem_singleton.2 Term.isShort_oversized) hfits)
    (List.mem_singleton_self _) (Nat.le_refl _)

end RollPad
