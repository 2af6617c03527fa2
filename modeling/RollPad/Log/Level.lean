import RollPad.Text.Quoted
import RollPad.Text.Upper

/-!
Levels of log records. They are integers, some of which have names; a set-up may name a level in any
case. A name that is not known means `INFO`, but a few names stand for things other than levels and
cannot be chosen.
-/

namespace RollPad.Log

/-- Details that only a search for a fault needs. -/
def debug : Int := 10

/-- The ordinary course of things. -/
def info : Int := 20

/-- Something is wrong, and the program goes on without it. -/
def warning : Int := 30

/-- An operation has failed. -/
def error : Int := 40

/-- The program cannot go on. -/
def critical : Int := 50

/-- The names by which a set-up may choose a level. -/
def levelsByName : List (String × Int) :=
  [("DEBUG", debug), ("INFO", info), ("WARNING", warning), ("WARN", warning), ("ERROR", error),
    ("CRITICAL", critical), ("FATAL", critical), ("NOTSET", 0)]

/-- What a name of the log stands for that is not the name of a level. -/
inductive NotALevel where
  /-- The pattern of a log that is not set up. -/
  | basicPattern
  /-- The table of the ways in which a pattern can be written. -/
  | styles
  deriving DecidableEq

namespace NotALevel

/-- The names of things that are no levels. -/
def byName : List (String × NotALevel) :=
  [("BASIC_FORMAT", basicPattern), ("_STYLES", styles)]

/-- The ways to write a pattern: the character that marks a field, what the way is called, and the
pattern of a log that is not set up. -/
def styleTable : List (String × String × String) :=
  [("%", "Percent", "%(levelname)s:%(name)s:%(message)s"),
    ("\x7b", "StrFormat", "\x7blevelname\x7d:\x7bname\x7d:\x7bmessage\x7d"),
    ("$", "StringTemplate", "$\x7blevelname\x7d:$\x7bname\x7d:$\x7bmessage\x7d")]

/-- One row of the table of styles. -/
def styleText : String × String × String → String
  | (mark, name, pattern) =>
    Text.quote mark ++ ": (<class 'logging." ++ name ++ "Style'>, " ++ Text.quote pattern ++ ")"

/-- What is wrong, in words. -/
def message : NotALevel → String
  | basicPattern => "Unknown level: " ++ Text.quote "%(levelname)s:%(name)s:%(message)s"
  | styles =>
    "Level not an integer or a valid string: \x7b" ++ ", ".intercalate (styleTable.map styleText) ++
      "\x7d"

end NotALevel

/-- The level that a name chooses. -/
def levelOfName (name : String) : Except NotALevel Int :=
  let name := Text.upper name
  match NotALevel.byName.lookup name with
  | some thing => .error thing
  | none => .ok ((levelsByName.lookup name).getD info)

/-- The name that output shows for a level. -/
def levelName (level : Int) : String :=
  if level = debug then "DEBUG"
  else if level = info then "INFO"
  else if level = warning then "WARNING"
  else if level = error then "ERROR"
  else if level = critical then "CRITICAL"
  else if level = 0 then "NOTSET"
  else "Level " ++ level.repr

/-- The escape sequences that set the colour of a level name on a terminal. -/
def colorOf (name : String) : String :=
  match name with
  | "DEBUG" => "\x1b[36m"
  | "INFO" => "\x1b[32m"
  | "WARNING" => "\x1b[33m"
  | "ERROR" => "\x1b[31m"
  | "CRITICAL" => "\x1b[31m\x1b[1m"
  | _ => ""

/-- The escape sequence that ends all colours. -/
def colorReset : String := "\x1b[0m"

end RollPad.Log
