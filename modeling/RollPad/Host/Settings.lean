import RollPad.Host.FileName

/-!
Settings of a host. Reading them first has a file of settings loaded into the environment, by the
loader that the host has for such files, and then reads the environment. The settings in use are
read when they are first asked for and stay until they are dropped, whatever changes in between.
-/

namespace RollPad.Host

open Log

/-- The logger of settings. -/
def settingsLogger : String := "dice_keypad.config"

/-- The part of the program that reads settings. -/
def settingsPart : String := "config"

/-- The file that is loaded where no other is named. -/
def defaultFile : String := ".env"

/-- What comes of loading a file into the environment. -/
def load (h : Host) (name : String) : Load :=
  h.around.loader h.environment name (h.fileContent? name)

/-- Have a file of settings loaded; the loader tells of it in the log. -/
def loadBindings (h : Host) (name : String) : Except SettingsError Unit × Host :=
  let load := h.load name
  (load.result, { h.emitAll load.records with environment := load.environment })

/-- The line at which the record of a load is made: of a file that a caller names, or of the default
file. -/
def loadLine (named : Bool) : Nat :=
  if named then 51 else 56

/-- The record of a load, made at a line. The log shows the file as `shown`. -/
def loadRecord (shown : String) (line : Nat) : Record :=
  { level := info
    logger := settingsLogger
    message := "Loaded configuration from " ++ shown
    origin := .own settingsPart "__init__" line
    writable := isWritable_info }

/-- Load a file of settings, and log that it has been loaded. -/
def loadFile (h : Host) (name shown : String) (line : Nat) : Except SettingsError Unit × Host :=
  match h.loadBindings name with
  | (.error e, h) => (.error e, h)
  | (.ok _, h) => (.ok (), h.emit (loadRecord shown line))

/-- Load the file that is named, or else the default file if there is one. -/
def loadChosen (h : Host) (file : Option String) : Except SettingsError Unit × Host :=
  match file.filter (· ≠ "") with
  | some name => h.loadFile name name (loadLine true)
  | none =>
    if h.hasFile defaultFile then
      h.loadFile defaultFile (h.absoluteName defaultFile) (loadLine false)
    else (.ok (), h)

/-- The line at which a complaint is made. -/
def complaintLine : Complaint → Nat
  | .notAnInteger .. => 31
  | .notPositive .. => 34

/-- The record of a complaint. -/
def complaintRecord (c : Complaint) : Record :=
  { level := warning
    logger := settingsLogger
    message := c.message
    origin := .own settingsPart "_int_env" (complaintLine c)
    writable := isWritable_warning }

/-- Read settings afresh, after loading the chosen file. -/
def readSettings (h : Host) (file : Option String) : Except SettingsError Settings × Host :=
  match h.loadChosen file with
  | (.error e, h) => (.error e, h)
  | (.ok _, h) =>
    let (settings, complaints) := Settings.ofEnvironment h.environment
    (.ok settings, h.emitAll (complaints.map complaintRecord))

/-! ### What reading settings leaves alone -/

/-- Two hosts that differ at most in the environment, and in what the log has written. -/
structure SameButLoad (h h' : Host) : Prop where
  around : h'.around = h.around
  settings : h'.settings = h.settings
  generation : h'.generation = h.generation
  rootLevel : h'.rootLevel = h.rootLevel
  handlers : h'.handlers = h.handlers

theorem SameButLog.sameButLoad {h h' : Host} (a : SameButLog h h') : SameButLoad h h' :=
  ⟨a.around, a.settings, a.generation, a.rootLevel, a.handlers⟩

theorem SameButLoad.trans {h₁ h₂ h₃ : Host} (a : SameButLoad h₁ h₂) (b : SameButLoad h₂ h₃) :
    SameButLoad h₁ h₃ :=
  ⟨b.around.trans a.around, b.settings.trans a.settings, b.generation.trans a.generation,
    b.rootLevel.trans a.rootLevel, b.handlers.trans a.handlers⟩

theorem sameButLoad_loadBindings (h : Host) (name : String) :
    SameButLoad h (h.loadBindings name).2 :=
  have a := (sameButLog_emitAll h (h.load name).records).sameButLoad
  ⟨a.around, a.settings, a.generation, a.rootLevel, a.handlers⟩

theorem sameButLoad_loadFile (h : Host) (name shown : String) (line : Nat) :
    SameButLoad h (h.loadFile name shown line).2 := by
  have a := h.sameButLoad_loadBindings name
  rw [loadFile]
  rcases hload : h.loadBindings name with ⟨e | _, h'⟩ <;> rw [hload] at a
  · exact a
  · exact a.trans (sameButLog_emit h' _).sameButLoad

theorem sameButLoad_loadChosen (h : Host) (file : Option String) :
    SameButLoad h (h.loadChosen file).2 := by
  rw [loadChosen]
  split
  · exact h.sameButLoad_loadFile _ _ _
  · split
    · exact h.sameButLoad_loadFile _ _ _
    · exact (SameButLog.refl h).sameButLoad

theorem sameButLoad_readSettings (h : Host) (file : Option String) :
    SameButLoad h (h.readSettings file).2 := by
  have a := h.sameButLoad_loadChosen file
  rw [readSettings]
  rcases hload : h.loadChosen file with ⟨e | _, h'⟩ <;> rw [hload] at a
  · exact a
  · exact a.trans (sameButLog_emitAll h' _).sameButLoad

/-! ### Settings in use -/

/-- The settings in use; they are read afresh if there are none. -/
def useSettings (h : Host) : Except SettingsError Settings × Host :=
  match h.settings with
  | some settings => (.ok settings, h)
  | none =>
    match h.readSettings none with
    | (.error e, h) => (.error e, h)
    | (.ok settings, h) =>
      (.ok settings, { h with settings := some settings, generation := h.generation + 1 })

/-- Drop the settings in use. -/
def dropSettings (h : Host) : Host :=
  { h with settings := none }

/-- Set or unset a variable and, if asked to, drop the settings in use. -/
def setVariable (h : Host) (name : String) (value : Option String) (drop : Bool := false) :
    Except VariableError Unit × Host :=
  match value.bind (VariableError.of? name) with
  | some e => (.error e, h)
  | none =>
    let h := { h with environment := h.environment.assign name value }
    (.ok (), if drop then h.dropSettings else h)

end RollPad.Host
