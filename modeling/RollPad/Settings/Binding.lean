import RollPad.Settings.EnvFile
import RollPad.Settings.Loader
import RollPad.Text.Upper

/-!
A loader for files of settings. A value may refer to variables as `${NAME}`, or as `${NAME:-text}`
with a text for a variable that is not there; a variable of the environment counts before one of the
file, and only the lines above count. The last line for a name counts. A load tells of the lines at
fault and adds to the environment what the file binds to names that are not there yet, unless a
variable switches loading off.
-/

namespace RollPad.EnvFile

/-! ### References -/

/-- A reference to a variable, and what stands for one that is not there. -/
structure Reference where
  name : String
  default : String
  deriving DecidableEq

/-- The reference that a text begins with, if any, and how many characters it has. -/
def reference? : List Char → Option (Reference × Nat)
  | '$' :: '{' :: cs =>
    let name := cs.takeWhile fun c => c ≠ '\x7d' && c ≠ ':'
    match cs.drop name.length with
    | '\x7d' :: _ => some (⟨String.ofList name, ""⟩, name.length + 3)
    | ':' :: '-' :: rest =>
      let text := rest.takeWhile (· ≠ '\x7d')
      if text.length < rest.length then
        some (⟨String.ofList name, String.ofList text⟩, name.length + text.length + 5)
      else none
    | _ => none
  | _ => none

/-- A part of a value: one character, or a reference. -/
inductive ValuePart where
  | char (c : Char)
  | reference (r : Reference)
  deriving DecidableEq

/-- The parts of a text after its first `skip` characters. -/
def partsAfter : Nat → List Char → List ValuePart
  | _, [] => []
  | skip + 1, _ :: cs => partsAfter skip cs
  | 0, c :: cs =>
    match reference? (c :: cs) with
    | some (r, length) => .reference r :: partsAfter (length - 1) cs
    | none => .char c :: partsAfter 0 cs

/-- The parts of a value, in order. -/
def parts (text : String) : List ValuePart :=
  partsAfter 0 text.toList

/-- The text with a value in place of every reference. -/
def substitute (value : Reference → String) (text : String) : String :=
  String.ofList <| (parts text).flatMap fun
    | .char c => [c]
    | .reference r => (value r).toList

/-- The names that a text refers to. -/
def referredNames (text : String) : List String :=
  (parts text).filterMap fun
    | .char _ => none
    | .reference r => some r.name

/-- The names that a file binds or refers to. -/
def mentionedNames (content : String) : List String :=
  (statements content).flatMap fun
    | .binding name value => name :: referredNames (value.getD "")
    | .fault _ => []

/-! ### Bindings -/

/-- Bind a name; one that is bound already keeps its place. -/
def put (bs : Bindings) (name : String) (value : Option String) : Bindings :=
  if bs.any (·.1 == name) then bs.map fun b => if b.1 == name then (name, value) else b
  else bs ++ [(name, value)]

/-- The value of a reference, from the environment, the lines above, or else its own text. A name
that the lines above leave without a value stands for nothing. -/
def resolve (environment : NameTable) (bs : Bindings) (r : Reference) : String :=
  match environment.get? r.name with
  | some value => value
  | none =>
    match bs.lookup r.name with
    | some value => value.getD ""
    | none => r.default

/-- The bindings after one more statement. -/
def add (environment : NameTable) (bs : Bindings) : Statement → Bindings
  | .binding name value => put bs name (value.map (substitute (resolve environment bs)))
  | .fault _ => bs

/-- The bindings of a file, read in an environment. -/
def bindings (environment : NameTable) (content : String) : Bindings :=
  (statements content).foldl (add environment) []

/-! ### Loading -/

/-- The logger of loads. -/
def logger : String := "dotenv.main"

/-- The place of a routine of the loader. -/
def originOf (routine : String) (line : Nat) : Log.Origin :=
  ⟨.other "/dotenv/main.py", routine, line⟩

/-- The variable that switches loading off. -/
def switchVariable : String := "PYTHON_DOTENV_DISABLED"

/-- The values that switch loading off, in upper case. -/
def switchValues : List String := ["1", "TRUE", "T", "YES", "Y"]

/-- Is loading switched off? -/
def isSwitchedOff (environment : NameTable) : Bool :=
  match environment.get? switchVariable with
  | some value => switchValues.contains (Text.upper value)
  | none => false

/-- The record of a load that is switched off. -/
def switchedOffRecord : Log.Record :=
  { level := Log.debug
    logger
    message := "python-dotenv: .env loading disabled by " ++ switchVariable ++
      " environment variable"
    origin := originOf "load_dotenv" 406
    writable := Log.isWritable_debug }

/-- The record of a line at fault. -/
def faultRecord (line : Nat) : Log.Record :=
  let text := "python-dotenv could not parse statement starting at line "
  { level := Log.warning
    logger
    message := text ++ line.repr
    template := text ++ "%s"
    details := [.number line]
    origin := originOf "with_warn_for_invalid_lines" 35
    writable := Log.isWritable_warning }

/-- Load a file of settings; one that does not exist sets nothing. Its lines at fault are logged
before anything is set. -/
def loader : Loader := fun environment name content =>
  if isSwitchedOff environment then { records := [switchedOffRecord], environment }
  else if name.toList.contains '\x00' then { result := .error .fileName, environment }
  else
    let content := content.getD ""
    let (result, after) := environment.setMissing (bindings environment content)
    { records := (faults content).map faultRecord
      result := result.mapError .binding
      environment := after }

end RollPad.EnvFile
