import RollPad.Host.Settings
import RollPad.Proofs.Settings.Bindings

/-!
Loading settings. Where the loader of a host reads files as maps from names to values
(`Loader.Follows`), a load extends the environment by such a map, so no variable that is set
changes, and what a second load would add is there already. The settings are then a function of the
environment. The main statement says this of reading settings, whichever file is chosen
(`readSettings_extends`).
-/

namespace RollPad

theorem Settings.ofEnvironment_congr {t₁ t₂ : NameTable} (h : ∀ name, t₁.get? name = t₂.get? name) :
    ofEnvironment t₁ = ofEnvironment t₂ := by
  simp only [ofEnvironment, LimitVariable.read, h]

namespace Host

/-! ### The chosen file -/

/-- The name of the file that is loaded: the one asked for, or else the default file. -/
def chosenName (file : Option String) : String :=
  (file.filter (· ≠ "")).getD defaultFile

/-- What the chosen file says; one that does not exist says nothing. -/
def chosenContent (h : Host) (file : Option String) : String :=
  (h.fileContent? (chosenName file)).getD ""

theorem chosenName_some {name : String} (h : name ≠ "") : chosenName (some name) = name := by
  rw [chosenName, Option.filter_some, if_pos (decide_eq_true h), Option.getD_some]

theorem loadFile_eq (h : Host) (name shown : String) (line : Nat) :
    (h.loadFile name shown line).1 = (h.loadBindings name).1 ∧
      (h.loadFile name shown line).2.environment = (h.loadBindings name).2.environment := by
  rw [loadFile]
  rcases h.loadBindings name with ⟨e | _, h'⟩
  · exact ⟨rfl, rfl⟩
  · exact ⟨rfl, (sameButLog_emit h' _).environment⟩

theorem fileContent?_of_missing {h : Host} {name : String} (hmissing : h.hasFile name = false) :
    h.fileContent? name = none := by
  rw [hasFile] at hmissing
  rw [fileContent?]
  cases hplace : h.place name with
  | file file =>
    rw [hplace] at hmissing
    exact NameTable.contains_eq_false_iff.1 hmissing
  | _ => rfl

/-- What a load reads is the environment and the file of that name. -/
theorem loadBindings_congr {h₁ h₂ : Host} {name : String}
    (hloader : h₂.around.loader = h₁.around.loader) (henv : h₂.environment = h₁.environment)
    (hfile : h₂.fileContent? name = h₁.fileContent? name) :
    (h₂.loadBindings name).1 = (h₁.loadBindings name).1 ∧
      (h₂.loadBindings name).2.environment = (h₁.loadBindings name).2.environment := by
  have hload : h₂.load name = h₁.load name := by rw [load, load, hloader, henv, hfile]
  exact ⟨congrArg Load.result hload, congrArg Load.environment hload⟩

/-! ### A load of a loader that reads maps -/

section Loads

variable {h h₂ : Host} {isOff : NameTable → Bool} {reading : NameTable → String → Bindings}

/-- The map from names to values as which the chosen file is read. -/
def fileBindings (h : Host) (reading : NameTable → String → Bindings) (file : Option String) :
    Bindings :=
  reading h.environment (h.chosenContent file)

/-- The chosen file can be looked for, and what it adds to the environment can be set. -/
structure CanLoad (h : Host) (reading : NameTable → String → Bindings) (file : Option String) :
    Prop where
  name : (chosenName file).toList.contains '\x00' = false
  canExtend : h.environment.CanExtend (h.fileBindings reading file)

section

variable (laws : h.around.loader.Follows isOff reading)

include laws

theorem loadBindings_of_off (hoff : isOff h.environment = true) (name : String) :
    (h.loadBindings name).1 = .ok () ∧ (h.loadBindings name).2.environment = h.environment :=
  laws.off h.environment name _ hoff

theorem loadBindings_of_zero (hoff : isOff h.environment = false) {name : String}
    (hzero : name.toList.contains '\x00' = true) :
    (h.loadBindings name).1 = .error .fileName ∧
      (h.loadBindings name).2.environment = h.environment :=
  laws.zeroCharacter h.environment name _ hoff hzero

theorem loadBindings_eq_setMissing (hoff : isOff h.environment = false) {name : String}
    (hname : name.toList.contains '\x00' = false) :
    let after := h.environment.setMissing (reading h.environment ((h.fileContent? name).getD ""))
    (h.loadBindings name).1 = after.1.mapError .binding ∧
      (h.loadBindings name).2.environment = after.2 :=
  laws.load h.environment name _ hoff hname

/-- Where there is no default file, loading it would change nothing. -/
theorem loadBindings_of_missing (hmissing : h.hasFile defaultFile = false) :
    (h.loadBindings defaultFile).1 = .ok () ∧
      (h.loadBindings defaultFile).2.environment = h.environment := by
  cases hoff : isOff h.environment with
  | true => exact loadBindings_of_off laws hoff defaultFile
  | false =>
    have hname : defaultFile.toList.contains '\x00' = false := rfl
    have hload := loadBindings_eq_setMissing laws hoff hname
    rw [fileContent?_of_missing hmissing, Option.getD_none, laws.empty] at hload
    exact hload

/-- However a file is chosen, its bindings are loaded. -/
theorem loadChosen_eq (file : Option String) :
    (h.loadChosen file).1 = (h.loadBindings (chosenName file)).1 ∧
      (h.loadChosen file).2.environment = (h.loadBindings (chosenName file)).2.environment := by
  rw [loadChosen, chosenName]
  cases file.filter (· ≠ "") with
  | some name => exact h.loadFile_eq name name _
  | none =>
    rw [Option.getD_none]
    dsimp only
    cases hfile : h.hasFile defaultFile with
    | true =>
      rw [if_pos rfl]
      exact h.loadFile_eq defaultFile _ _
    | false =>
      obtain ⟨hfst, hsnd⟩ := loadBindings_of_missing laws hfile
      rw [if_neg Bool.false_ne_true, hfst, hsnd]
      exact ⟨rfl, rfl⟩

/-- A load that is not switched off extends the environment by the map, or fails. -/
theorem loadBindings_cases (hoff : isOff h.environment = false) (file : Option String) :
    let load := h.loadBindings (chosenName file)
    (load.1 = .ok () ∧ h.CanLoad reading file ∧ ∀ name, load.2.environment.get? name =
        (h.environment.get? name).or ((h.fileBindings reading file).value? name)) ∨
      (∃ e, load.1 = .error e) ∧ ¬h.CanLoad reading file := by
  intro load
  cases hname : (chosenName file).toList.contains '\x00' with
  | true =>
    refine .inr ⟨⟨.fileName, (loadBindings_of_zero laws hoff hname).1⟩, fun hcan => ?_⟩
    rw [hcan.name] at hname
    cases hname
  | false =>
    obtain ⟨hfst, hsnd⟩ := loadBindings_eq_setMissing laws hoff hname
    have hbs := laws.nodup h.environment (h.chosenContent file)
    obtain ⟨t, ht, hcan, hget⟩ | ⟨e, t, ht, hcan⟩ := h.environment.setMissing_cases hbs
    · refine .inl ⟨hfst.trans ?_, ⟨hname, hcan⟩, fun name => ?_⟩
      · rw [← chosenContent, ht]
        rfl
      · rw [hsnd, ← chosenContent, ht]
        exact hget name
    · refine .inr ⟨⟨.binding e, hfst.trans ?_⟩, fun h => hcan h.canExtend⟩
      rw [← chosenContent, ht]
      rfl

/-- A load keeps every variable that is set, also one that fails. -/
theorem get?_loadBindings_of_get? {name text : String}
    (hset : h.environment.get? name = some text) (fileName : String) :
    (h.loadBindings fileName).2.environment.get? name = some text := by
  cases hoff : isOff h.environment with
  | true => rwa [(loadBindings_of_off laws hoff fileName).2]
  | false =>
    cases hzero : fileName.toList.contains '\x00' with
    | true => rwa [(loadBindings_of_zero laws hoff hzero).2]
    | false =>
      rw [(loadBindings_eq_setMissing laws hoff hzero).2]
      exact NameTable.get?_setMissing_of_get? _ hset

/-- After a load, another load of the same file finds nothing to add. -/
theorem loadBindings_again {file : Option String}
    (hloader : h₂.around.loader = h.around.loader)
    (hload : (h.loadBindings (chosenName file)).1 = .ok ())
    (henv : ∀ name, h₂.environment.get? name =
      (h.loadBindings (chosenName file)).2.environment.get? name)
    (hfile : h₂.chosenContent file = h.chosenContent file) :
    (h₂.loadBindings (chosenName file)).1 = .ok () ∧
      (h₂.loadBindings (chosenName file)).2.environment = h₂.environment := by
  have laws₂ : h₂.around.loader.Follows isOff reading := hloader ▸ laws
  cases hoff₂ : isOff h₂.environment with
  | true => exact loadBindings_of_off laws₂ hoff₂ _
  | false =>
    cases hoff : isOff h.environment with
    | true =>
      rw [laws.switch _ _ henv, (loadBindings_of_off laws hoff _).2, hoff] at hoff₂
      cases hoff₂
    | false =>
      obtain ⟨-, hcan, hget⟩ | ⟨⟨e, he⟩, -⟩ := loadBindings_cases laws hoff file
      · obtain ⟨hfst, hsnd⟩ := loadBindings_eq_setMissing laws₂ hoff₂ hcan.name
        have hbs := laws.nodup h₂.environment (h₂.chosenContent file)
        have hnothing := NameTable.setMissing_eq_self hbs (t := h₂.environment) fun name hname => by
          rw [hfile, laws.names _ h.environment] at hname
          rw [henv, hget, Option.isSome_or, fileBindings, hname, Bool.or_true]
        rw [chosenContent] at hnothing
        rw [hnothing] at hfst hsnd
        exact ⟨hfst, hsnd⟩
      · rw [hload] at he
        cases he

/-! ### Reading settings -/

theorem readSettings_eq (file : Option String) :
    (h.readSettings file).1 = (h.loadBindings (chosenName file)).1.map (fun _ =>
        (Settings.ofEnvironment (h.loadBindings (chosenName file)).2.environment).1) ∧
      (h.readSettings file).2.environment = (h.loadBindings (chosenName file)).2.environment := by
  obtain ⟨hload, henv⟩ := loadChosen_eq laws file
  rw [← hload, ← henv, readSettings]
  rcases h.loadChosen file with ⟨e | _, h'⟩
  · exact ⟨rfl, rfl⟩
  · exact ⟨rfl, (sameButLog_emitAll h' _).environment⟩

end

/-- How reading settings treats the environment, and what the settings come from. -/
structure LoadsFirst (h : Host) (isOff : NameTable → Bool)
    (reading : NameTable → String → Bindings) (file : Option String) : Prop where
  isOk_iff : (h.readSettings file).1.isOk = true ↔
    isOff h.environment = true ∨ h.CanLoad reading file
  kept : ∀ name text, h.environment.get? name = some text →
    (h.readSettings file).2.environment.get? name = some text
  off : isOff h.environment = true → (h.readSettings file).2.environment = h.environment
  extended : isOff h.environment = false → h.CanLoad reading file → ∀ name,
    (h.readSettings file).2.environment.get? name =
      (h.environment.get? name).or ((h.fileBindings reading file).value? name)
  /-- A file that is named is the only one that counts. -/
  named : ∀ name, file = some name → name ≠ "" → ∀ h₂ : Host,
    h₂.around.loader = h.around.loader → h₂.environment = h.environment →
    h₂.fileContent? name = h.fileContent? name →
    (h₂.readSettings file).1 = (h.readSettings file).1 ∧
      (h₂.readSettings file).2.environment = (h.readSettings file).2.environment
  /-- The settings are a function of what the environment has become. -/
  settings_eq : ∀ settings, (h.readSettings file).1 = .ok settings → ∀ t : NameTable,
    (∀ name, t.get? name = (h.readSettings file).2.environment.get? name) →
    settings = (Settings.ofEnvironment t).1
  /-- Reading again, from the environment as it is then and the same file, changes nothing. -/
  again : ∀ settings, (h.readSettings file).1 = .ok settings → ∀ h₂ : Host,
    h₂.around.loader = h.around.loader →
    (∀ name, h₂.environment.get? name = (h.readSettings file).2.environment.get? name) →
    h₂.chosenContent file = h.chosenContent file →
    (h₂.readSettings file).1 = .ok settings ∧
      (h₂.readSettings file).2.environment = h₂.environment

theorem map_eq_ok_iff {ε α : Type} {x : Except ε Unit} {a b : α} :
    x.map (fun _ => a) = .ok b ↔ x = .ok () ∧ a = b := by
  rcases x with e | _ <;> simp [Except.map]

end Loads

end Host

end RollPad
