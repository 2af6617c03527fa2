import RollPad.Host.Notation

/-!
Reports on rolls. A report shows a roll in several renderings: the faces and totals of each term, a
description of each term in words, and one line that explains the whole.
-/

namespace RollPad

open Log

/-- Numbers with a separator between neighbours. -/
def joinNumbers (separator : String) (ns : List Int) : String :=
  separator.intercalate (ns.map Int.repr)

namespace TermRoll

/-- The faces in words. -/
def facesText (r : TermRoll) : String :=
  "Rolls: " ++ joinNumbers " " r.faces

/-- The total in words. -/
def totalText (r : TermRoll) : String :=
  "Total: " ++ r.total.repr

/-- The term, its faces and its total on one line. -/
def explanation (r : TermRoll) : String :=
  r.term.text ++ ": rolls [" ++ joinNumbers ", " r.faces ++ "] => " ++ r.total.repr

end TermRoll

/-- What a term roll looks like in a list of results. -/
structure Description where
  formula : String
  faces : List Int
  facesText : String
  total : Int
  totalText : String
  deriving DecidableEq

/-- Describe the roll of a term. -/
def TermRoll.describe (r : TermRoll) : Description :=
  { formula := r.term.text
    faces := r.faces
    facesText := r.facesText
    total := r.total
    totalText := r.totalText }

/-- The explanations of all terms and the grand total on one line. -/
def explainRolls (rolls : List TermRoll) : String :=
  "; ".intercalate (rolls.map TermRoll.explanation) ++ " => " ++ (grandTotal rolls).repr

/-- What is told about a rolled text. -/
structure Report where
  input : String
  normalizedInput : String
  expression : String
  sourceName : String
  rolls : List TermRoll
  total : Int
  explanation : String
  deriving DecidableEq

namespace Report

/-- The descriptions of the terms. -/
def descriptions (r : Report) : List Description :=
  r.rolls.map TermRoll.describe

/-- The report on the rolls of a text. -/
def ofRolls (text : String) (terms : List Term) (source : Source) (rolls : List TermRoll) :
    Report :=
  { input := text
    normalizedInput := Text.normalize text
    expression := formatTerms terms
    sourceName := source.name
    rolls
    total := grandTotal rolls
    explanation := explainRolls rolls }

end Report

/-- Why there is no report. -/
inductive RollError where
  | refused (cause : Refusal)
  | failed (cause : Failure)
  deriving DecidableEq

namespace RollError

/-- What is wrong, in words. -/
def message : RollError → String
  | refused cause => cause.message
  | failed cause => cause.message

end RollError

/-- The logger of reports. -/
def reportLogger : String := "dice_keypad.dice"

/-- The record of a report. -/
def reportRecord (terms : List Term) (total : Int) : Record :=
  { level := info
    logger := reportLogger
    message := "Rolled " ++ formatTerms terms ++ " => " ++ total.repr
    origin := .own "dice" "roll_from_text" 72
    writable := isWritable_info }

/-- Read a text, roll its terms and report on them. A refused text takes no draw. -/
def rollText (text : Option String) (source : Source) (h : Host) :
    Except RollError Report × Source × Host :=
  match h.readTerms text with
  | (.error e, h) => (.error (.failed e), source, h)
  | (.ok (.error e), h) => (.error (.refused e), source, h)
  | (.ok (.ok terms), h) =>
    match rollTerms terms source with
    | (.error e, source) => (.error (.failed (.die e)), source, h)
    | (.ok rolls, source) =>
      let report := Report.ofRolls (text.getD "") terms source rolls
      (.ok report, source, h.emit (reportRecord terms report.total))

end RollPad
