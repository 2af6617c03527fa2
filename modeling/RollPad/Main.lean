import RollPad.Host.Logging
import RollPad.Settings.Binding

/-!
The command line. The program takes its settings from the environment and the default file of the
working directory, and sets up its log by them; what the log has to say goes to standard error and
to the log file. The host is told beforehand of what it can come across: the variables that the
settings or the default file speak of, that file, and what lies on the way to the log file.
-/

namespace RollPad

/-- The variables that the program looks at. -/
def variableNames : List String :=
  [countVariable.name, sidesVariable.name, totalVariable.name, levelVariable, fileVariable,
    EnvFile.switchVariable]

/-- Those of the variables that are set. -/
def readEnvironment (names : List String) : IO NameTable :=
  names.foldlM (fun t name => return t.assign name (← IO.getEnv name)) {}

/-- The content of a file, if it can be read. -/
def readFile? (name : String) : IO (Option String) := do
  try
    return some (← IO.FS.readFile name)
  catch _ => return none

/-- Does a name lead on to further names? -/
def isSearchable (name : String) : IO Bool := do
  try
    let _ ← IO.FS.realPath (name ++ "/.")
    return true
  catch _ => return false

/-- Tell a host of what the first of these parts lead to: a directory, a file, or nothing. -/
def lookAt (parts : List String) (h : Host) (count : Nat) : IO Host := do
  let there := parts.take count
  let name := Host.pathTo there
  if ← isSearchable name then
    return { h with around.directories := there :: h.around.directories }
  match ← readFile? name with
  | some content => return { h with files := h.files.insert name content }
  | none => return h

/-- Tell a host of the directories and files on the way to a file. -/
def lookFor (h : Host) (name : String) : IO Host :=
  let parts := (Host.nameParts (h.absoluteName name)).filter (· ≠ "")
  (List.range (parts.length + 1)).foldlM (lookAt parts) h

/-- What records are stamped with at the command line. The only clock there is counts from a moment
of its own. -/
def stampOf (milliseconds : Nat) : Log.Stamp :=
  { time := .ofText (milliseconds.repr ++ " ms")
    sinceStart := .ofRatio false (milliseconds * Binary64.unitsPerOne) 1 }

/-- Add to the log file what its handler has written behind what it held before. -/
def appendLog (before after : Host) : IO Unit :=
  after.handlers.forM fun handler => do
    match handler.sink with
    | .console => return ()
    | .file name =>
      let old := (before.files.get? name).getD ""
      let new := (after.files.get? name).getD ""
      let file ← IO.FS.Handle.mk name .append
      file.putStr (String.ofList (new.toList.drop old.length))

end RollPad

open RollPad

def main : IO UInt32 := do
  let directory := (Host.nameParts (← IO.currentDir).toString).filter (· ≠ "")
  let stamp := stampOf (← IO.monoMsNow)
  let around : Surroundings := { directory, loader := EnvFile.loader, clock := fun _ => stamp }
  let content? ← readFile? Host.defaultFile
  let environment ← readEnvironment
    (variableNames ++ EnvFile.mentionedNames (content?.getD ""))
  let files := ({} : NameTable).assign (Host.pathTo (directory ++ [Host.defaultFile])) content?
  let host : Host := { around, environment, files }
  let host ← match host.useSettings with
    | (.ok { logFile := some name, .. }, _) => lookFor host name
    | _ => pure host
  let (result, after) := host.start
  IO.eprint after.console
  appendLog host after
  match result with
  | .ok _ => return 0
  | .error e =>
    IO.eprintln e.message
    return 1
