import RollPad.Log.Placement
import RollPad.Log.Record
import RollPad.Text.Alphanumeric
import RollPad.Text.Integer

/-!
Patterns for log lines. A pattern is accepted when at least one directive with a field is written in
it, whatever the field is called; a record then gives a line if every directive of the pattern names
a field that records have and can be carried out. The first directive may do without a field, and
shows the whole record.
-/

namespace RollPad.Log

/-- What a directive can show of a record. -/
inductive Field where
  | time
  | levelName
  | levelNumber
  | logger
  | message
  /-- The message before its details were filled in. -/
  | template
  | details
  /-- The part of the program that made the record: its file without the extension. -/
  | part
  | file
  /-- The file with the directories that it lies in. -/
  | path
  | routine
  | line
  | created
  | milliseconds
  | sinceStart
  | process
  | thread
  | processName
  | threadName
  /-- A trace of calls, which no record has. -/
  | trace
  deriving DecidableEq

/-- The names of fields. -/
def fieldsByName : List (String × Field) :=
  [("asctime", .time), ("levelname", .levelName), ("levelno", .levelNumber), ("name", .logger),
    ("message", .message), ("msg", .template), ("args", .details), ("module", .part),
    ("filename", .file), ("pathname", .path), ("funcName", .routine), ("lineno", .line),
    ("created", .created), ("msecs", .milliseconds), ("relativeCreated", .sinceStart),
    ("process", .process), ("thread", .thread), ("processName", .processName),
    ("threadName", .threadName), ("exc_info", .trace), ("exc_text", .trace),
    ("stack_info", .trace)]

/-- The field of a name. -/
def Field.ofName? (name : String) : Option Field :=
  fieldsByName.lookup name

/-- A detail on its own. -/
def Detail.shown : Detail → String
  | .text s => Text.quote s
  | .number n => n.repr

/-- Details in parentheses; a single one is followed by a comma. -/
def detailsText : List Detail → String
  | [d] => "(" ++ d.shown ++ ",)"
  | ds => "(" ++ ", ".intercalate (ds.map Detail.shown) ++ ")"

/-- The value of a field of a record. The program has one process and one thread. -/
def Field.value (r : Record) : Field → FieldValue
  | .time => .text r.stamp.time.text
  | .levelName => .text r.levelText
  | .levelNumber => .number r.level
  | .logger => .text r.shownLogger
  | .message => .text r.message
  | .template => .text r.template
  | .details => .other (detailsText r.details)
  | .part => .text (fileStem (fileName r.path))
  | .file => .text (fileName r.path)
  | .path => .text r.path
  | .routine => .text r.origin.routine
  | .line => .number r.origin.line
  | .created => .real r.stamp.created
  | .milliseconds => .real r.stamp.milliseconds
  | .sinceStart => .real r.stamp.sinceStart
  | .process => .number r.stamp.process
  | .thread => .number r.stamp.thread
  | .processName => .text "MainProcess"
  | .threadName => .text "MainThread"
  | .trace => .other "None"

/-- A value as it is shown among the values of a record. -/
def FieldValue.shown : FieldValue → String
  | .text s => Text.quote s
  | .number n => n.repr
  | .real x => x.text
  | .other s => s

/-- The names of the fields of a whole record, in order. Its time is there only if it was asked
for. -/
def recordFields (timed : Bool) : List String :=
  ["name", "msg", "args", "levelname", "levelno", "pathname", "filename", "module", "exc_info",
    "exc_text", "stack_info", "lineno", "funcName", "created", "msecs", "relativeCreated", "thread",
    "threadName", "processName", "process", "message"] ++ if timed then ["asctime"] else []

/-- A whole record. -/
def Record.value (timed : Bool) (r : Record) : FieldValue :=
  let entry (name : String) : Option String :=
    (Field.ofName? name).map fun field => Text.quote name ++ ": " ++ (field.value r).shown
  .other ("\x7b" ++ ", ".intercalate ((recordFields timed).filterMap entry) ++ "\x7d")

/-! ### Accepting -/

/-- The characters of field names. -/
def isNameChar (c : Char) : Bool :=
  Text.isAlphanumeric c || c == '_'

/-- A decimal digit of any script. -/
def isAnyDigit (c : Char) : Bool :=
  (Text.digitValue? c).isSome

/-- The conversion letters in lower case, and the percent sign. The dotted, the dotless and the long
letter are taken for the letters that they are forms of. -/
def conversions : List Char := "diouxefgcrsa%İıſ".toList

/-- What follows a width: a star or digits, perhaps none. -/
def skipWidth : List Char → List Char
  | '*' :: cs => cs
  | cs => cs.dropWhile isAnyDigit

/-- What follows a precision, if there is one: a point, then a star or at least one digit. -/
def skipPrecision : List Char → List Char
  | '.' :: '*' :: cs => cs
  | '.' :: c :: cs => if isAnyDigit c then cs.dropWhile isAnyDigit else '.' :: c :: cs
  | cs => cs

/-- Does the text begin with a conversion letter, in either case? -/
def beginsWithConversion : List Char → Bool
  | [] => false
  | c :: _ => conversions.contains c.toLower

/-- Does the text begin with a directive that names a field? -/
def beginsWithField : List Char → Bool
  | '%' :: '(' :: cs =>
    match cs.dropWhile isNameChar with
    | ')' :: rest =>
      cs.head? != some ')' &&
        beginsWithConversion (skipPrecision (skipWidth (rest.dropWhile isFlag)))
    | _ => false
  | _ => false

/-- Is a directive that names a field written anywhere in the text? -/
def holdsField : List Char → Bool
  | [] => false
  | c :: cs => beginsWithField (c :: cs) || holdsField cs

/-- A pattern that was accepted. -/
structure Pattern where
  source : String
  deriving DecidableEq

namespace Pattern

/-- The pattern that shows the message alone. -/
def messageOnly : String := "%(message)s"

/-- The pattern where a set-up gives none. -/
def standard : String := "%(asctime)s - %(levelname)s - %(name)s - %(message)s"

/-- Accept a pattern; the empty text shows the message alone. -/
def ofString? (s : String) : Option Pattern :=
  let s := if s = "" then messageOnly else s
  if holdsField s.toList then some ⟨s⟩ else none

/-! ### Carrying out -/

/-- The beginning of every directive that asks for the time. -/
def timeMark : String := "%(asctime)"

/-- Is the beginning of a directive for the time written anywhere in the text? -/
def holdsTimeMark : List Char → Bool
  | [] => false
  | c :: cs => timeMark.toList.isPrefixOf (c :: cs) || holdsTimeMark cs

/-- Does a pattern ask for the time? -/
def asksTime (p : Pattern) : Bool :=
  holdsTimeMark p.source.toList

/-- What a directive shows, if it is there: its field, or the whole record where it has none. -/
def shown? (timed : Bool) (r : Record) (d : Directive) : Option FieldValue :=
  match d.field with
  | some name => (Field.ofName? (String.ofList name)).map (·.value r)
  | none => some (r.value timed)

/-- The text of pieces. After the `first` directive no directive can do without a field. -/
def fill (timed : Bool) (r : Record) : Bool → List Piece → Option (List Char)
  | _, [] => some []
  | first, .char c :: ps => (fill timed r first ps).map (c :: ·)
  | first, .directive d :: ps => do
    if d.field.isNone && !first then none
    else return (← d.place (← shown? timed r d)) ++ (← fill timed r false ps)

/-- The line of a record, unless a directive cannot be carried out. -/
def format (p : Pattern) (r : Record) : Option String := do
  return String.ofList (← fill p.asksTime r true (← pieces? p.source.toList))

end Pattern

end RollPad.Log
