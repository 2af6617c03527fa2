import RollPad.Proofs.Notation.Canonical
import RollPad.Proofs.Text.Integer

/-!
Limits from the environment. `LimitVariable.Decides` parts all values that a variable can have, and
its absence: a positive integer sets the limit, what is missing or blank leaves the default without
a word, and anything else leaves it with a warning. Reading settings goes by it for each of the
three limits, so whatever the variables hold the limits are positive, and leave room for one die.
The main statement is `limits_of_environment`.
-/

namespace RollPad

open Log

/-- The limit that the value of a variable decides on, and the records about it. -/
structure LimitVariable.Decides (v : LimitVariable) (raw? : Option String) (limit : Int)
    (records : List Record) : Prop where
  accepted : ∀ raw n, raw? = some raw → Text.SpellsInteger raw.toList n → 1 ≤ n →
    limit = n ∧ records = []
  missing : (∀ raw, raw? = some raw → Text.isBlankText raw = true) →
    limit = v.default ∧ records = []
  rejected : ∀ raw, raw? = some raw → Text.isBlankText raw = false →
    (∀ n, Text.SpellsInteger raw.toList n → n < 1) →
    limit = v.default ∧ ∃ r reason, records = [r] ∧ r.level = warning ∧
      r.logger = Host.settingsLogger ∧ r.message = "Ignoring " ++ v.name ++ "=" ++ reason

/-! ### One variable -/

theorem Complaint.message_notAnInteger (v : LimitVariable) (raw : String) :
    ∃ reason, message (.notAnInteger v raw) = "Ignoring " ++ v.name ++ "=" ++ reason :=
  ⟨Text.quote raw ++ (": not an integer, using " ++ v.default.repr), by
    simp only [message, String.append_assoc]⟩

theorem Complaint.message_notPositive (v : LimitVariable) (value : Int) :
    ∃ reason, message (.notPositive v value) = "Ignoring " ++ v.name ++ "=" ++ reason :=
  ⟨value.repr ++ (": must be positive, using " ++ v.default.repr), by
    simp only [message, String.append_assoc]⟩

namespace LimitVariable

/-- The records that a value brings about. -/
def records (v : LimitVariable) (raw? : Option String) : List Record :=
  (v.ofRaw raw?).2.toList.map Host.complaintRecord

theorem ofRaw_of_blank {v : LimitVariable} {raw? : Option String}
    (h : ∀ raw, raw? = some raw → Text.isBlankText raw = true) :
    v.ofRaw raw? = (↑v.default, none) := by
  cases raw? with
  | none => rfl
  | some raw => rw [ofRaw, if_pos (h raw rfl)]

theorem ofRaw_of_spells {v : LimitVariable} {raw : String} {n : Int}
    (h : Text.SpellsInteger raw.toList n) :
    v.ofRaw (some raw) = if n < 1 then (↑v.default, some (.notPositive v n)) else (n, none) := by
  rw [ofRaw, Text.isBlankText_of_spellsInteger h, if_neg Bool.false_ne_true,
    Text.readInteger?_eq_some_iff.2 h]

theorem ofRaw_of_not_spells {v : LimitVariable} {raw : String}
    (hblank : Text.isBlankText raw = false) (h : ∀ n, ¬Text.SpellsInteger raw.toList n) :
    v.ofRaw (some raw) = (↑v.default, some (.notAnInteger v raw)) := by
  have hnone : Text.readInteger? raw = none := by
    rw [Option.eq_none_iff_forall_ne_some]
    exact fun n hn => h n (Text.readInteger?_eq_some_iff.1 hn)
  rw [ofRaw, hblank, if_neg Bool.false_ne_true, hnone]

theorem decides (v : LimitVariable) (raw? : Option String) :
    v.Decides raw? (v.ofRaw raw?).1 (v.records raw?) where
  accepted := by
    rintro raw n rfl hn hpos
    rw [records, ofRaw_of_spells hn, if_neg (by omega)]
    exact ⟨rfl, rfl⟩
  missing h := by
    rw [records, ofRaw_of_blank h]
    exact ⟨rfl, rfl⟩
  rejected := by
    rintro raw rfl hblank hn
    by_cases hspells : ∃ n, Text.SpellsInteger raw.toList n
    · obtain ⟨n, h⟩ := hspells
      obtain ⟨reason, hreason⟩ := Complaint.message_notPositive v n
      rw [records, ofRaw_of_spells h, if_pos (hn n h)]
      exact ⟨rfl, _, reason, rfl, rfl, rfl, hreason⟩
    · obtain ⟨reason, hreason⟩ := Complaint.message_notAnInteger v raw
      rw [records, ofRaw_of_not_spells hblank (not_exists.1 hspells)]
      exact ⟨rfl, _, reason, rfl, rfl, rfl, hreason⟩

/-- There are no other values, so a limit is positive if its default is. -/
theorem Decides.one_le {v : LimitVariable} {raw? : Option String} {limit : Int}
    {records : List Record} (h : v.Decides raw? limit records) (hv : 1 ≤ v.default) :
    1 ≤ limit := by
  have hdefault : (1 : Int) ≤ v.default := by exact_mod_cast hv
  by_cases hmissing : ∀ raw, raw? = some raw → Text.isBlankText raw = true
  · rwa [(h.missing hmissing).1]
  · obtain ⟨raw, hraw, hblank⟩ : ∃ raw, raw? = some raw ∧ Text.isBlankText raw = false := by
      simpa using hmissing
    by_cases hpositive : ∃ n, Text.SpellsInteger raw.toList n ∧ 1 ≤ n
    · obtain ⟨n, hn, hpos⟩ := hpositive
      rwa [(h.accepted raw n hraw hn hpos).1]
    · have hless : ∀ n, Text.SpellsInteger raw.toList n → n < 1 := fun n hn =>
        Int.not_le.1 fun hpos => hpositive ⟨n, hn, hpos⟩
      rwa [(h.rejected raw hraw hblank hless).1]

end LimitVariable

/-! ### All settings -/

theorem Settings.records_ofEnvironment (environment : NameTable) :
    (ofEnvironment environment).2.map Host.complaintRecord =
      countVariable.records (environment.get? countVariable.name) ++
        sidesVariable.records (environment.get? sidesVariable.name) ++
        totalVariable.records (environment.get? totalVariable.name) := by
  simp only [ofEnvironment, LimitVariable.read, LimitVariable.records, List.map_append]

/-- One die with one side. -/
def Term.least : Term :=
  ⟨1, 1, Nat.one_pos, Nat.one_pos⟩

/-- Positive limits leave room for one die. -/
theorem readTerms_least {limits : Limits} (hcount : 1 ≤ limits.maxCount)
    (hsides : 1 ≤ limits.maxSides) (htotal : 1 ≤ limits.maxTotal) :
    readTerms limits "1d1" = .ok [Term.least] := by
  have hfits : Fits limits [Term.least] :=
    ⟨List.forall_mem_singleton.2 hcount, List.forall_mem_singleton.2 hsides, htotal⟩
  have hshort : Term.least.IsShort := by decide +kernel
  exact readTerms_formatTerms (List.cons_ne_nil _ _) (List.forall_mem_singleton.2 hshort) hfits

namespace Host

theorem fst_readSettings_eq_error_iff {h : Host} {file : Option String} {e : SettingsError} :
    (h.readSettings file).1 = .error e ↔ (h.loadChosen file).1 = .error e := by
  rw [readSettings]
  rcases h.loadChosen file with ⟨e' | _, h'⟩ <;> simp

/-- Once the file is loaded, the environment decides. -/
theorem readSettings_of_loadChosen {h loaded : Host} {file : Option String}
    (hload : h.loadChosen file = (.ok (), loaded)) :
    h.readSettings file =
      (.ok (Settings.ofEnvironment loaded.environment).1,
        loaded.emitAll ((Settings.ofEnvironment loaded.environment).2.map complaintRecord)) := by
  rw [readSettings, hload]

theorem loadChosen_of_missing {h : Host} (hfile : h.hasFile defaultFile = false) :
    h.loadChosen none = (.ok (), h) := by
  rw [loadChosen, Option.filter_none, hfile]
  rfl

/-- A text is parsed within the limits of settings that are read for it. -/
theorem fst_parse_of_readSettings {h h' : Host} {settings : Settings}
    (hnone : h.settings = none) (hread : h.readSettings none = (.ok settings, h')) (text : String) :
    (h.parse (some text)).1 = answerOf (RollPad.readTerms settings.limits text) := by
  have hlimits : (h.limitsFor {}).1 = .ok settings.limits := by
    simp [limitsFor, LimitRequest.complete?, useSettings, hnone, hread, LimitRequest.fill]
  rw [fst_parse, fst_readTerms_of_limitsFor hlimits]

end Host

/-- Reading settings fails only where the file of settings cannot be loaded; without a default file
there is nothing to load. Otherwise each limit is what its variable denotes if that is a positive
integer, and else its default, with a warning that names the variable if it is set and not blank,
and with no record in all other cases. So the limits are positive, and one die with one side can be
parsed within them, also where no limits are given and the settings are read for it. -/
theorem limits_of_environment (h : Host) (file : Option String) :
    (∀ e, (h.readSettings file).1 = .error e ↔ (h.loadChosen file).1 = .error e) ∧
      (h.hasFile Host.defaultFile = false → h.loadChosen none = (.ok (), h)) ∧
      ∀ loaded, h.loadChosen file = (.ok (), loaded) →
        ∃ settings counts sides totals,
          h.readSettings file = (.ok settings, loaded.emitAll (counts ++ sides ++ totals)) ∧
          countVariable.Decides (loaded.environment.get? "DICE_MAX_COUNT")
            settings.limits.maxCount counts ∧
          sidesVariable.Decides (loaded.environment.get? "DICE_MAX_SIDES")
            settings.limits.maxSides sides ∧
          totalVariable.Decides (loaded.environment.get? "DICE_MAX_TOTAL")
            settings.limits.maxTotal totals ∧
          (1 ≤ settings.limits.maxCount ∧ 1 ≤ settings.limits.maxSides ∧
            1 ≤ settings.limits.maxTotal) ∧
          (∀ h' : Host,
            (h'.parse (some "1d1") (.ofLimits settings.limits)).1 = .ok (.ok [Term.least])) ∧
          (file = none → h.settings = none →
            (h.parse (some "1d1")).1 = .ok (.ok [Term.least])) := by
  refine ⟨fun e => Host.fst_readSettings_eq_error_iff, Host.loadChosen_of_missing,
    fun loaded hload => ?_⟩
  have hread := Host.readSettings_of_loadChosen hload
  rw [Settings.records_ofEnvironment] at hread
  have hcounts := countVariable.decides (loaded.environment.get? countVariable.name)
  have hsides := sidesVariable.decides (loaded.environment.get? sidesVariable.name)
  have htotals := totalVariable.decides (loaded.environment.get? totalVariable.name)
  have hcount := hcounts.one_le (by decide)
  have hside := hsides.one_le (by decide)
  have htotal := htotals.one_le (by decide)
  have hleast : readTerms (Settings.ofEnvironment loaded.environment).1.limits "1d1" =
      .ok [Term.least] := readTerms_least hcount hside htotal
  refine ⟨_, _, _, _, hread, hcounts, hsides, htotals, ⟨hcount, hside, htotal⟩, fun h' => ?_, ?_⟩
  · rw [Host.fst_parse_ofLimits, answerOf_eq_terms_iff, hleast]
  · rintro rfl hnone
    rw [Host.fst_parse_of_readSettings hnone hread, answerOf_eq_terms_iff, hleast]

/-- A number in digits of two scripts between spaces, a number between separator controls, which are
white space but no padding, and a negative zero. -/
theorem limits_of_environment_mixed :
    let h : Host := { environment := ⟨[("DICE_MAX_COUNT", "\u2003+1_0\u0663\x0a"),
      ("DICE_MAX_SIDES", "\x1c7\x1c"), ("DICE_MAX_TOTAL", "-0")]⟩ }
    h.hasFile Host.defaultFile = false ∧ h.loadChosen none = (.ok (), h) ∧
      Text.SpellsInteger "\u2003+1_0\u0663\x0a".toList 103 ∧
      ∃ settings sides total, h.readSettings none = (.ok settings, h.emitAll [sides, total]) ∧
        settings.limits = ⟨103, 1000000, 10000⟩ ∧
        (sides.level = warning ∧ ∃ reason, sides.message = "Ignoring DICE_MAX_SIDES=" ++ reason) ∧
        (total.level = warning ∧ ∃ reason, total.message = "Ignoring DICE_MAX_TOTAL=" ++ reason) ∧
        (h.parse (some "1d1")).1 = .ok (.ok [Term.least]) := by
  intro h
  have hfile : h.hasFile Host.defaultFile = false := by decide +kernel
  obtain ⟨-, hmissing, hlimits⟩ := limits_of_environment h none
  have hload := hmissing hfile
  have hspells : Text.SpellsInteger "\u2003+1_0\u0663\x0a".toList 103 :=
    Text.readInteger?_eq_some_iff.1 (by decide +kernel)
  obtain ⟨settings, counts, sides, totals, hread, hcount, hsides, htotal, -, -, hparse⟩ :=
    hlimits h hload
  obtain ⟨hmaxCount, rfl⟩ := hcount.accepted _ 103 rfl hspells (by decide)
  obtain ⟨hmaxSides, r, reason, rfl, hr, -, hrm⟩ :=
    hsides.rejected "\x1c7\x1c" rfl (by decide +kernel) fun n hn => by
      have hnone : Text.readInteger? "\x1c7\x1c" = none := by decide +kernel
      rw [← Text.readInteger?_eq_some_iff, hnone] at hn
      cases hn
  obtain ⟨hmaxTotal, r', reason', rfl, hr', -, hrm'⟩ :=
    htotal.rejected "-0" rfl (by decide +kernel) fun n hn => by
      have hzero : Text.readInteger? "-0" = some 0 := by decide +kernel
      rw [← Text.readInteger?_eq_some_iff, hzero] at hn
      obtain rfl := Option.some.inj hn
      decide
  refine ⟨hfile, hload, hspells, settings, r, r', hread, ?_, ⟨hr, reason, hrm⟩,
    ⟨hr', reason', hrm'⟩, hparse rfl rfl⟩
  obtain ⟨⟨maxCount, maxSides, maxTotal⟩, logLevel, logFile⟩ := settings
  obtain rfl : maxCount = 103 := hmaxCount
  obtain rfl : maxSides = 1000000 := hmaxSides
  obtain rfl : maxTotal = 10000 := hmaxTotal
  rfl

end RollPad
