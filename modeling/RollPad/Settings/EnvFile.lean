import RollPad.Text.Blank

/-!
Files of settings: one `NAME=value` to a line. A line may begin with `export`; blanks around the
name, the equals sign and the value do not count; a value may stand in single or double quotation
marks, then runs over several lines and may hold escapes; a `#` begins a comment at the start of a
line, after a quoted value, and after a blank in any other value. A name without an equals sign has
no value. A line that is none of this is at fault, and is skipped.
-/

namespace RollPad.EnvFile

/-- What a file says, one statement after another. -/
inductive Statement where
  | binding (name : String) (value : Option String)
  /-- What cannot be read. Its line is the one behind the statement before, however many blank lines
  come first. -/
  | fault (line : Nat)
  deriving DecidableEq

/-- The text without the mark of byte order at its start. -/
def dropByteOrderMark : List Char → List Char
  | '\uFEFF' :: cs => cs
  | cs => cs

/-- Lines end with a line feed, a carriage return, or both; here, with a line feed. -/
def unifyLineEnds : List Char → List Char
  | [] => []
  | [c] => [if c = '\r' then '\n' else c]
  | c :: d :: cs =>
    if c = '\r' then '\n' :: (if d = '\n' then unifyLineEnds cs else unifyLineEnds (d :: cs))
    else c :: unifyLineEnds (d :: cs)

/-- White space within a line. -/
def isInlineBlank (c : Char) : Bool :=
  Text.isBlank c && c ≠ '\n'

/-- The text from its first character that is no white space within the line. -/
def skipInlineBlanks (cs : List Char) : List Char :=
  cs.dropWhile isInlineBlank

/-- What follows the rest of the line. -/
def skipLine (cs : List Char) : List Char :=
  (cs.dropWhile (· ≠ '\n')).drop 1

/-- What follows `export` and at least one blank, if the line begins so. -/
def skipExport (cs : List Char) : List Char :=
  let word := "export".toList
  if word.isPrefixOf cs then
    match cs.drop word.length with
    | c :: rest => if isInlineBlank c then skipInlineBlanks rest else cs
    | [] => cs
  else cs

/-! ### Names -/

/-- A name before its closing quotation mark, and what follows the mark. -/
def quotedName? (cs : List Char) : Option (List Char × List Char) :=
  match cs.takeWhile (· ≠ '\''), cs.dropWhile (· ≠ '\'') with
  | [], _ => none
  | _, [] => none
  | name, _ :: rest => some (name, rest)

/-- The name at the start of a line, if any: a comment has none. A line whose name cannot be read
is at fault. -/
def name? : List Char → Option (Option (List Char) × List Char)
  | '#' :: cs => some (none, '#' :: cs)
  | '\'' :: cs => (quotedName? cs).map fun (name, rest) => (some name, rest)
  | cs =>
    let inName := fun c => c ≠ '=' && c ≠ '#' && !Text.isBlank c
    match cs.takeWhile inName with
    | [] => none
    | name => some (some name, cs.dropWhile inName)

/-! ### Values -/

/-- The text up to the closing mark, and what follows the mark. A backslash takes the character
behind it as text, be it a mark or another backslash. -/
def untilMark? (mark : Char) : List Char → Option (List Char × List Char)
  | [] => none
  | '\\' :: c :: cs => (untilMark? mark cs).map fun (text, rest) => ('\\' :: c :: text, rest)
  | c :: cs =>
    if c = mark then some ([], cs)
    else (untilMark? mark cs).map fun (text, rest) => (c :: text, rest)

/-- The escapes between single quotation marks: what stands behind the backslash, and for what. -/
def singleEscapes : List (Char × Char) :=
  [('\\', '\\'), ('\'', '\'')]

/-- The escapes between double quotation marks. -/
def doubleEscapes : List (Char × Char) :=
  singleEscapes ++ [('"', '"'), ('a', '\x07'), ('b', '\x08'), ('f', '\x0c'), ('n', '\n'),
    ('r', '\r'), ('t', '\t'), ('v', '\x0b')]

/-- The text with its escapes carried out; any other backslash stands for itself. -/
def unescape (escapes : List (Char × Char)) : List Char → List Char
  | [] => []
  | '\\' :: c :: cs =>
    match escapes.lookup c with
    | some d => d :: unescape escapes cs
    | none => '\\' :: unescape escapes (c :: cs)
  | c :: cs => c :: unescape escapes cs

/-- A value between quotation marks. -/
def quotedValue? (mark : Char) (escapes : List (Char × Char)) (cs : List Char) :
    Option (List Char × List Char) :=
  (untilMark? mark cs).map fun (text, rest) => (unescape escapes text, rest)

/-- What stands before a comment, which begins with blanks and a `#`. -/
def beforeComment : List Char → List Char
  | [] => []
  | c :: cs =>
    if Text.isBlank c && (cs.dropWhile Text.isBlank).head? == some '#' then []
    else c :: beforeComment cs

/-- The value after the equals sign; a quotation mark that is not closed is a fault. -/
def value? (cs : List Char) : Option (List Char × List Char) :=
  match skipInlineBlanks cs with
  | '\'' :: rest => quotedValue? '\'' singleEscapes rest
  | '"' :: rest => quotedValue? '"' doubleEscapes rest
  | _ => some (Text.trim (beforeComment (cs.takeWhile (· ≠ '\n'))), cs.dropWhile (· ≠ '\n'))

/-! ### Lines -/

/-- What follows an optional comment and the end of the line; anything else there is a fault. -/
def endOfLine? (cs : List Char) : Option (List Char) :=
  let cs := match skipInlineBlanks cs with
    | '#' :: rest => rest.dropWhile (· ≠ '\n')
    | _ => cs
  match skipInlineBlanks cs with
  | [] => some []
  | '\n' :: rest => some rest
  | _ => none

/-- What one line says. -/
inductive Line where
  | comment
  | binding (name : List Char) (value : Option (List Char))
  | fault

/-- What a line says about its name, if it has one. -/
def Line.ofName (value : Option (List Char)) : Option (List Char) → Line
  | some name => .binding name value
  | none => .comment

/-- One line, from its first character that is not white space, and what follows it. A line at fault
is skipped from where the fault is found. -/
def line (cs : List Char) : Line × List Char :=
  let cs := skipExport cs
  match name? cs with
  | none => (.fault, skipLine cs)
  | some (name, rest) =>
    match skipInlineBlanks rest with
    | '=' :: rest =>
      match value? rest with
      | none => (.fault, skipLine rest)
      | some (value, rest) =>
        match endOfLine? rest with
        | none => (.fault, skipLine rest)
        | some next => (.ofName (some value) name, next)
    | rest =>
      match endOfLine? rest with
      | none => (.fault, skipLine rest)
      | some next => (.ofName none name, next)

/-- The statements of at most `fuel` lines, in order; `total` line feeds are in the whole file. -/
def statementsWithin (total : Nat) : Nat → List Char → List Statement
  | 0, _ => []
  | fuel + 1, start =>
    match start.dropWhile Text.isBlank with
    | [] => []
    | cs =>
      match line cs with
      | (.comment, rest) => statementsWithin total fuel rest
      | (.binding name value, rest) =>
        .binding (String.ofList name) (value.map String.ofList) :: statementsWithin total fuel rest
      | (.fault, rest) =>
        .fault (total - start.count '\n' + 1) :: statementsWithin total fuel rest

/-- The statements of a file, in order. Every line has a character, so there are no more lines than
characters. -/
def statements (content : String) : List Statement :=
  let cs := unifyLineEnds (dropByteOrderMark content.toList)
  statementsWithin (cs.count '\n') cs.length cs

/-- The lines of a file that are at fault, in order. -/
def faults (content : String) : List Nat :=
  (statements content).filterMap fun
    | .fault line => some line
    | .binding _ _ => none

end RollPad.EnvFile
