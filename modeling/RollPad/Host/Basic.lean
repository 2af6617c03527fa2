import RollPad.Log.Handler
import RollPad.NameTable
import RollPad.Settings.Basic
import RollPad.Settings.Loader

/-!
The host: what the program finds and keeps outside its dice. What it finds and never changes are its
surroundings: the directories in reach, the loader of settings files, the clock. What changes are
the environment variables, the files, the settings in use, and the log with its handlers. A record
that reaches the root level is stamped with the moment and given to every handler in turn, at once,
each time as the handler before has left it; a handler that fails is reported on the console.
-/

namespace RollPad

open Log

/-- What the program finds and never changes. Directories are told by the names that lead to them
from the root of all files. -/
structure Surroundings where
  /-- The working directory. -/
  directory : List String := []
  /-- The directories in reach, besides the working directory and those above it. -/
  directories : List (List String) := []
  /-- The loader of settings files. -/
  loader : Loader := .idle
  /-- What the records of the log are stamped with, one call of the log after another. -/
  clock : Nat → Stamp := fun _ => {}
  /-- The report on a record that a handler cannot show. -/
  report : Handler → Record → String := fun _ _ => "--- Logging error ---\n"
  /-- Does the handler of last resort write, for a log without handlers? Another that writes nothing
  may stand in its place. -/
  hasLastResort : Bool := true

/-- The variables, files, settings and log that the program works with. -/
structure Host where
  around : Surroundings := {}
  environment : NameTable := {}
  /-- The files in reach, by their absolute names. -/
  files : NameTable := {}
  /-- The settings in use, once something has asked for them. -/
  settings : Option Settings := none
  /-- How often the settings in use have been read afresh. -/
  generation : Nat := 0
  /-- The level below which no record is made. -/
  rootLevel : Int := warning
  handlers : List Handler := []
  /-- What has been written to the console. -/
  console : String := ""
  /-- How often the log has been called. -/
  calls : Nat := 0

namespace Host

/-- Write text to a sink. -/
def write (h : Host) (text : String) : Sink → Host
  | .console => { h with console := h.console ++ text }
  | .file name => { h with files := h.files.append name text }

/-- Give a record to one handler. If it fails, the console gets a report, whatever its own sink. -/
def deliver (r : Record) (h : Host) (handler : Handler) : Host :=
  match handler.outcome r with
  | .passed => h
  | .line text => h.write text handler.sink
  | .failed => h.write (h.around.report handler r) .console

/-- Give a record to handlers in turn. They share it, so each is given what the one before has left
of it. -/
def deliverAll : List Handler → Record → Host → Host
  | [], _, h => h
  | handler :: rest, r, h => deliverAll rest (handler.handle r).2 (deliver r h handler)

/-- As handlers leave a record as it was, all are given the same. -/
theorem deliverAll_cons (handler : Handler) (rest : List Handler) (r : Record) (h : Host) :
    deliverAll (handler :: rest) r h = deliverAll rest r (deliver r h handler) := by
  rw [deliverAll, handler.snd_handle]

/-- The handlers that records are given to: those of the log, or else the last resort. -/
def receivers (h : Host) : List Handler :=
  if h.handlers.isEmpty then (if h.around.hasLastResort then [lastResort] else []) else h.handlers

/-- Is a record made? One whose level is not positive is never made. -/
def isEnabled (h : Host) (r : Record) : Bool :=
  0 < r.level && h.rootLevel ≤ r.level

/-- What the next call of the log finds. -/
def stamp (h : Host) : Stamp :=
  h.around.clock h.calls

/-- Call the log with a record. If it is made, it is stamped and given to the handlers. -/
def emit (h : Host) (r : Record) : Host :=
  let after := { h with calls := h.calls + 1 }
  if h.isEnabled r then deliverAll h.receivers (r.stamped h.stamp) after else after

/-- Call the log with records in order. -/
def emitAll (h : Host) (rs : List Record) : Host :=
  rs.foldl emit h

/-! ### What writing to the log leaves alone -/

/-- Two hosts that differ at most in what the log has written and how often it was called. -/
structure SameButLog (h h' : Host) : Prop where
  around : h'.around = h.around
  environment : h'.environment = h.environment
  settings : h'.settings = h.settings
  generation : h'.generation = h.generation
  rootLevel : h'.rootLevel = h.rootLevel
  handlers : h'.handlers = h.handlers

theorem SameButLog.refl (h : Host) : SameButLog h h :=
  ⟨rfl, rfl, rfl, rfl, rfl, rfl⟩

theorem SameButLog.symm {h h' : Host} (a : SameButLog h h') : SameButLog h' h :=
  ⟨a.around.symm, a.environment.symm, a.settings.symm, a.generation.symm, a.rootLevel.symm,
    a.handlers.symm⟩

theorem SameButLog.trans {h₁ h₂ h₃ : Host} (a : SameButLog h₁ h₂) (b : SameButLog h₂ h₃) :
    SameButLog h₁ h₃ :=
  ⟨b.around.trans a.around, b.environment.trans a.environment, b.settings.trans a.settings,
    b.generation.trans a.generation, b.rootLevel.trans a.rootLevel, b.handlers.trans a.handlers⟩

theorem sameButLog_write (h : Host) (text : String) (sink : Sink) :
    SameButLog h (h.write text sink) := by
  cases sink <;> exact ⟨rfl, rfl, rfl, rfl, rfl, rfl⟩

theorem sameButLog_deliver (r : Record) (h : Host) (handler : Handler) :
    SameButLog h (deliver r h handler) := by
  unfold deliver
  cases handler.outcome r with
  | passed => exact .refl h
  | line text => exact sameButLog_write h text _
  | failed => exact sameButLog_write h _ _

theorem sameButLog_deliverAll (r : Record) (handlers : List Handler) (h : Host) :
    SameButLog h (deliverAll handlers r h) := by
  induction handlers generalizing h with
  | nil => exact .refl h
  | cons handler rest ih =>
    rw [deliverAll_cons]
    exact (sameButLog_deliver r h handler).trans (ih _)

theorem sameButLog_emit (h : Host) (r : Record) : SameButLog h (h.emit r) := by
  have hcalled : SameButLog h { h with calls := h.calls + 1 } := ⟨rfl, rfl, rfl, rfl, rfl, rfl⟩
  simp only [emit]
  split
  · exact hcalled.trans (sameButLog_deliverAll _ _ _)
  · exact hcalled

theorem sameButLog_emitAll (h : Host) (rs : List Record) : SameButLog h (h.emitAll rs) := by
  induction rs generalizing h with
  | nil => exact .refl h
  | cons r rs ih => exact (sameButLog_emit h r).trans (ih _)

/-! ### Variables of the program -/

/-- How the names of the program's own variables begin. -/
def variablePrefix : String := "DICE_"

/-- The program's own variables. -/
def ownVariables (h : Host) : NameTable :=
  ⟨h.environment.entries.filter fun e => variablePrefix.toList.isPrefixOf e.1.toList⟩

end Host

end RollPad
