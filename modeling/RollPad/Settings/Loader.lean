import RollPad.Log.Record
import RollPad.NameTable

/-!
Loading files of settings into the environment. Reading such files is left to a loader: given the
environment, the name of a file and what is in it, a loader tells of the load in the log, sets
variables, and may fail. How variables are set is the same for all: the name of a variable is not
empty and holds no equals sign, neither name nor value holds the character with code zero, and
nothing else can be set.
-/

namespace RollPad

/-! ### Setting variables -/

/-- Why a variable cannot be set. -/
inductive VariableError where
  | zeroCharacter
  | equalsSign
  | noName
  deriving DecidableEq

namespace VariableError

/-- What is wrong, in words. -/
def message : VariableError → String
  | zeroCharacter => "embedded null byte"
  | equalsSign => "illegal environment variable name"
  | noName => "[Errno 22] Invalid argument"

/-- What keeps a variable from being set, if anything does. -/
def of? (name value : String) : Option VariableError :=
  if (name ++ value).toList.contains '\x00' then some zeroCharacter
  else if name.toList.contains '=' then some equalsSign
  else if name = "" then some noName
  else none

end VariableError

/-- Names with their values, in the order in which they are set; a name may be without a value. -/
abbrev Bindings := List (String × Option String)

/-- Set the variables that are not set yet, one after another, up to the first that cannot be
set. -/
def NameTable.setMissing (t : NameTable) : Bindings → Except VariableError Unit × NameTable
  | [] => (.ok (), t)
  | (_, none) :: bs => t.setMissing bs
  | (name, some value) :: bs =>
    if t.contains name then t.setMissing bs
    else
      match VariableError.of? name value with
      | some e => (.error e, t)
      | none => (t.insert name value).setMissing bs

/-! ### Loads -/

/-- Why settings cannot be read. Values of variables are no reason: what a variable cannot mean is
complained of, and the default stands in for it. -/
inductive SettingsError where
  /-- The file of settings binds a name that cannot be set. -/
  | binding (cause : VariableError)
  /-- The name of the file of settings holds the character with code zero. -/
  | fileName
  deriving DecidableEq

namespace SettingsError

/-- What is wrong, in words. -/
def message : SettingsError → String
  | binding cause => cause.message
  | fileName => "embedded null byte"

end SettingsError

/-- What comes of loading a file: the records of the load, its result, and the environment after
it. -/
structure Load where
  records : List Log.Record := []
  result : Except SettingsError Unit := .ok ()
  environment : NameTable

/-- A loader: what comes of loading, into an environment, the file of a name with this content;
without a content there is no such file. -/
abbrev Loader := NameTable → String → Option String → Load

/-- The loader that loads nothing. -/
def Loader.idle : Loader :=
  fun environment _ _ => { environment }

end RollPad
