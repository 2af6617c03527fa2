import RollPad.Host.Settings

/-!
Setting up the log. A set-up replaces all handlers by one for the console and, if it names a file,
one for the file behind it. The file takes everything from `DEBUG` on, whatever the console shows,
and its lines have no colours. A set-up that fails leaves the levels and handlers it had come to:
the root level comes first, then the handlers go, and the level of the console comes next.
-/

namespace RollPad

open Log

/-- What a set-up asks for. -/
structure LogRequest where
  level : String := defaultLevel
  file : Option String := none
  pattern : Option String := none
  colored : Bool := true
  deriving DecidableEq

/-- Why a set-up fails. -/
inductive LogError where
  | notALevel (cause : NotALevel)
  | badPattern (source : String)
  /-- The file lies in a directory that does not exist. -/
  | noDirectory (absoluteName : String)
  /-- The name leads on from a file as if it were a directory. -/
  | notADirectory (absoluteName : String)
  | isDirectory (absoluteName : String)
  | nameTooLong (absoluteName : String)
  | zeroCharacter
  deriving DecidableEq

namespace LogError

/-- What is wrong, in words. -/
def message : LogError → String
  | notALevel cause => cause.message
  | badPattern source => "Invalid format '" ++ source ++ "' for '%' style"
  | noDirectory name => "[Errno 2] No such file or directory: " ++ Text.quote name
  | notADirectory name => "[Errno 20] Not a directory: " ++ Text.quote name
  | isDirectory name => "[Errno 21] Is a directory: " ++ Text.quote name
  | nameTooLong name => "[Errno 36] File name too long: " ++ Text.quote name
  | zeroCharacter => "embedded null byte"

end LogError

/-- Why the program does not start. -/
inductive StartError where
  | settings (cause : SettingsError)
  | log (cause : LogError)
  deriving DecidableEq

namespace StartError

/-- What is wrong, in words. -/
def message : StartError → String
  | settings cause => cause.message
  | log cause => cause.message

end StartError

namespace Host

/-- Add a handler behind the others. -/
def addHandler (h : Host) (handler : Handler) : Host :=
  { h with handlers := h.handlers ++ [handler] }

/-- Open a file for appending, and so create it if there is none. -/
def openLog (h : Host) (name : String) (pattern : Pattern) : Except LogError Unit × Host :=
  if name.toList.contains '\x00' then (.error .zeroCharacter, h)
  else
    match h.logPlace name with
    | .directory => (.error (.isDirectory (h.absoluteName name)), h)
    | .missing => (.error (.noDirectory (h.absoluteName name)), h)
    | .beyondFile => (.error (.notADirectory (h.absoluteName name)), h)
    | .tooLong => (.error (.nameTooLong (h.absoluteName name)), h)
    | .file file =>
      let h := { h with files := h.files.append file "" }
      (.ok (), h.addHandler ⟨.file file, debug, pattern, false⟩)

/-- Set the root level and drop all handlers. -/
def restartLog (h : Host) (rootLevel : Int) : Host :=
  { h with rootLevel, handlers := [] }

/-- Set up the handlers of a log that has none. -/
def setUpHandlers (h : Host) (request : LogRequest) (level : Int) (file : Option String) :
    Except LogError Unit × Host :=
  let source := request.pattern.getD Pattern.standard
  match Pattern.ofString? source with
  | none => (.error (.badPattern source), h)
  | some pattern =>
    let h := h.addHandler ⟨.console, level, pattern, request.colored⟩
    match file with
    | none => (.ok (), h)
    | some name => h.openLog name pattern

/-- Set up the log. With a file the root level is `DEBUG` whatever level is chosen. -/
def setUpLog (h : Host) (request : LogRequest) : Except LogError Unit × Host :=
  let file := request.file.filter (· ≠ "")
  match levelOfName request.level with
  | .error thing => (.error (.notALevel thing), if file.isSome then h.restartLog debug else h)
  | .ok level =>
    (h.restartLog (if file.isSome then debug else level)).setUpHandlers request level file

/-- Start the program: take the settings in use and set up the log by them. -/
def start (h : Host) : Except StartError Unit × Host :=
  match h.useSettings with
  | (.error e, h) => (.error (.settings e), h)
  | (.ok settings, h) =>
    match h.setUpLog { level := settings.logLevel, file := settings.logFile } with
    | (.error e, h) => (.error (.log e), h)
    | (.ok _, h) => (.ok (), h)

end Host

end RollPad
