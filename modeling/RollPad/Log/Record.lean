import RollPad.Binary64.Basic
import RollPad.Log.Level
import RollPad.Text.Integer

/-!
Log records: how grave an event is, where in the program it comes from, and what happened. A record
also tells of the moment at which it is made, and of the process that makes it; it is stamped with
these when it is made.
-/

namespace RollPad.Log

/-! ### Places -/

/-- The file in which a record is made: one of the program's own, which lie in one directory, or
any other. -/
inductive SourceFile where
  | own (name : String)
  | other (path : String)
  deriving DecidableEq

/-- The place where a record is made: a file, a routine in it, and a line. -/
structure Origin where
  file : SourceFile
  routine : String
  line : Nat
  deriving DecidableEq

/-- A place in the program's own file for a part of it. -/
def Origin.own (part routine : String) (line : Nat) : Origin :=
  ⟨.own (part ++ ".py"), routine, line⟩

/-- A place that nothing is known of but that it is outside the program. -/
def Origin.outside : Origin :=
  ⟨.other "<stdin>", "<module>", 1⟩

/-- The last part of a path. -/
def fileName (path : String) : String :=
  String.ofList ((path.toList.reverse.takeWhile (· ≠ '/')).reverse)

/-- A file name without its extension: what stands before its last point, unless that is points
alone. -/
def fileStem (name : String) : String :=
  let before := ((name.toList.reverse.dropWhile (· ≠ '.')).drop 1).reverse
  if before.all (· = '.') then name else String.ofList before

/-! ### Moments -/

/-- A moment in words, on one line of plain text. -/
structure TimeText where
  text : String
  plain : text.toList.all (fun c => ' ' ≤ c ∧ c ≤ '~') = true
  deriving DecidableEq

/-- A text as a moment in words, if it is plain. -/
def TimeText.ofText (text : String) : TimeText :=
  if plain : text.toList.all (fun c => ' ' ≤ c ∧ c ≤ '~') = true then ⟨text, plain⟩
  else ⟨"", rfl⟩

/-- The beginning of all time stamps. -/
def TimeText.epoch : TimeText :=
  ⟨"1970-01-01 00:00:00,000", by decide⟩

/-- What a record tells of the moment at which it is made and of the process that makes it. -/
structure Stamp where
  time : TimeText := .epoch
  /-- The seconds since the beginning of all time stamps. -/
  created : Binary64 := .finite false .zero
  /-- The milliseconds since the last full second. -/
  milliseconds : Binary64 := .finite false .zero
  /-- The milliseconds since the program has begun. -/
  sinceStart : Binary64 := .finite false .zero
  process : Nat := 1
  thread : Nat := 1
  /-- The directory of the program's own files. -/
  program : String := "/dice_keypad"
  deriving DecidableEq

/-! ### Records -/

theorem isWritable_debug : Text.IsWritable debug := by decide +kernel

theorem isWritable_info : Text.IsWritable info := by decide +kernel

theorem isWritable_warning : Text.IsWritable warning := by decide +kernel

theorem isWritable_error : Text.IsWritable error := by decide +kernel

/-- A value that is filled into a message. -/
inductive Detail where
  | text (s : String)
  | number (n : Int)
  deriving DecidableEq

/-- One event: how grave it is, where it comes from, and what happened. -/
structure Record where
  level : Int
  logger : String
  message : String
  /-- The message before its details were filled in. -/
  template : String := message
  /-- The values that were filled in. -/
  details : List Detail := []
  origin : Origin := .outside
  stamp : Stamp := {}
  /-- The name of the level, as output shows it. -/
  levelText : String := levelName level
  /-- A level without a name is told by its number. -/
  writable : Text.IsWritable level := by decide +kernel
  deriving DecidableEq

namespace Record

/-- The record of a message that was written outside the program. It is a detail, and nothing stands
around it. -/
def ofMessage (level : Int) (logger message : String) (origin : Origin := .outside)
    (writable : Text.IsWritable level := by decide +kernel) : Record :=
  { level, logger, message, template := "%s", details := [.text message], origin, writable }

/-- The name that output shows for a logger; the one above all others has no name of its own. -/
def shownLogger (r : Record) : String :=
  if r.logger = "" then "root" else r.logger

/-- The record with the name of its level in colour. -/
def inColor (r : Record) : Record :=
  { r with levelText := colorOf r.levelText ++ r.levelText ++ colorReset }

/-- The record as it is made at a moment. -/
def stamped (r : Record) (stamp : Stamp) : Record :=
  { r with stamp }

/-- The path of the file in which a record is made. -/
def path (r : Record) : String :=
  match r.origin.file with
  | .own name => r.stamp.program ++ "/" ++ name
  | .other path => path

end Record

end RollPad.Log
