import RollPad.NameTable
import RollPad.Notation.Expression
import RollPad.Text.Integer
import RollPad.Text.Quoted
import RollPad.Text.Upper

/-!
Settings, read from environment variables. Every limit is positive: a variable that is unset or
blank stands for the default, and so, with a complaint, does one that holds no positive integer.
-/

namespace RollPad

/-- A variable that sets a limit, and the limit where it sets none. -/
structure LimitVariable where
  name : String
  default : Nat
  writable : Text.IsWritable default := by decide +kernel
  deriving DecidableEq

/-- Why a variable is ignored. -/
inductive Complaint where
  | notAnInteger (limit : LimitVariable) (raw : String)
  | notPositive (limit : LimitVariable) (value : Int)
  deriving DecidableEq

namespace Complaint

/-- The message that warns of an ignored variable. -/
def message : Complaint → String
  | notAnInteger v raw =>
    "Ignoring " ++ v.name ++ "=" ++ Text.quote raw ++ ": not an integer, using " ++ v.default.repr
  | notPositive v value =>
    "Ignoring " ++ v.name ++ "=" ++ value.repr ++ ": must be positive, using " ++ v.default.repr

end Complaint

namespace LimitVariable

/-- The limit that a raw value sets. -/
def ofRaw (v : LimitVariable) : Option String → Int × Option Complaint
  | none => (v.default, none)
  | some raw =>
    if Text.isBlankText raw then (v.default, none)
    else
      match Text.readInteger? raw with
      | none => (v.default, some (.notAnInteger v raw))
      | some value => if value < 1 then (v.default, some (.notPositive v value)) else (value, none)

/-- The limit that an environment sets. -/
def read (v : LimitVariable) (environment : NameTable) : Int × Option Complaint :=
  v.ofRaw (environment.get? v.name)

theorem isWritable_read (v : LimitVariable) (environment : NameTable) :
    Text.IsWritable (v.read environment).1 := by
  unfold read ofRaw
  split
  · exact v.writable
  · split
    · exact v.writable
    · split
      · exact v.writable
      · next hvalue =>
        split
        · exact v.writable
        · exact Text.isWritable_of_readInteger? hvalue

end LimitVariable

/-- The largest count of one term. -/
def countVariable : LimitVariable := { name := "DICE_MAX_COUNT", default := 1000 }

/-- The largest number of sides. -/
def sidesVariable : LimitVariable := { name := "DICE_MAX_SIDES", default := 1000000 }

/-- The most dice of one expression. -/
def totalVariable : LimitVariable := { name := "DICE_MAX_TOTAL", default := 10000 }

/-- The variable that names the log level. -/
def levelVariable : String := "DICE_LOG_LEVEL"

/-- The variable that names the log file. -/
def fileVariable : String := "DICE_LOG_FILE"

/-- The log level where the variable is unset. -/
def defaultLevel : String := "INFO"

/-- What the program runs with. Its limits can all be written out. -/
structure Settings where
  limits : Limits
  logLevel : String
  logFile : Option String
  writable : limits.AreWritable := by decide +kernel
  deriving DecidableEq

namespace Settings

/-- The settings of an environment, and the complaints about it in order. -/
def ofEnvironment (environment : NameTable) : Settings × List Complaint :=
  let count := countVariable.read environment
  let sides := sidesVariable.read environment
  let total := totalVariable.read environment
  ({ limits := ⟨count.1, sides.1, total.1⟩
     logLevel := Text.upper ((environment.get? levelVariable).getD defaultLevel)
     logFile := (environment.get? fileVariable).filter (· ≠ "")
     writable := ⟨countVariable.isWritable_read _, sidesVariable.isWritable_read _,
      totalVariable.isWritable_read _⟩ },
    count.2.toList ++ sides.2.toList ++ total.2.toList)

/-- The settings on one line. -/
def text (s : Settings) : String :=
  "Config(max_count=" ++ s.limits.maxCount.repr ++ ", max_sides=" ++ s.limits.maxSides.repr ++
    ", max_total=" ++ s.limits.maxTotal.repr ++ ", log_level=" ++ s.logLevel ++ ")"

end Settings

/-- Limits given by a caller; those left out come from the settings. -/
structure LimitRequest where
  maxCount : Option Int := none
  maxSides : Option Int := none
  maxTotal : Option Int := none
  deriving DecidableEq

namespace LimitRequest

/-- Are all three limits given? -/
def complete? (r : LimitRequest) : Option Limits := do
  return ⟨← r.maxCount, ← r.maxSides, ← r.maxTotal⟩

/-- The limits in force when the others come from `rest`. -/
def fill (r : LimitRequest) (rest : Limits) : Limits :=
  ⟨r.maxCount.getD rest.maxCount, r.maxSides.getD rest.maxSides, r.maxTotal.getD rest.maxTotal⟩

end LimitRequest

end RollPad
