import RollPad.Dice.Roll
import RollPad.Host.Settings

/-!
Reading expressions on a host. Limits that the caller leaves out come from the settings in use,
which are asked for only when there is something to read and a limit is missing. A refusal is an
answer like any other, and is logged. There is no answer where the settings cannot be read, or where
the message of a refusal cannot be written.
-/

namespace RollPad

open Log

/-- Why an operation breaks off without an answer. A refused text is no failure. -/
inductive Failure where
  /-- A die shows no face. -/
  | die (cause : DieError)
  /-- A variable cannot be set. -/
  | environment (cause : VariableError)
  /-- Settings cannot be read. -/
  | settings (cause : SettingsError)
  /-- A number in a message has too many digits to be written out. -/
  | longNumber
  deriving DecidableEq

namespace Failure

/-- What is wrong, in words. -/
def message : Failure → String
  | die cause => cause.message
  | environment cause => cause.message
  | settings cause => cause.message
  | longNumber =>
    "Exceeds the limit (" ++ Text.maxDigits.repr ++ " digits) for integer string conversion; " ++
      "use sys.set_int_max_str_digits() to increase the limit"

end Failure

/-- What a reader answers: the terms, or a refusal if there is a message for it. -/
def answerOf : Except NotationError (List Term) → Except Failure (Except Refusal (List Term))
  | .ok terms => .ok (.ok terms)
  | .error cause =>
    if told : cause.message?.isSome then .ok (.error ⟨cause, told⟩) else .error .longNumber

namespace Host

/-- The logger of refused expressions. -/
def notationLogger : String := "dice_keypad.parser"

/-- The limits in force for a request. -/
def limitsFor (h : Host) (request : LimitRequest) : Except SettingsError Limits × Host :=
  match request.complete? with
  | some limits => (.ok limits, h)
  | none =>
    match h.useSettings with
    | (.error e, h) => (.error e, h)
    | (.ok settings, h) => (.ok (request.fill settings.limits), h)

/-- The terms of a text, which may be absent, or its refusal. -/
def readTerms (h : Host) (text : Option String) (request : LimitRequest := {}) :
    Except Failure (Except Refusal (List Term)) × Host :=
  match text.filter (!Text.isBlankText ·) with
  | none => (.ok (.error .empty), h)
  | some text =>
    match h.limitsFor request with
    | (.error e, h) => (.error (.settings e), h)
    | (.ok limits, h) => (answerOf (RollPad.readTerms limits text), h)

/-- A text as a message shows it, absent or not. -/
def shownText : Option String → String
  | some text => Text.quote text
  | none => "None"

/-- The record of a refusal. -/
def refusalRecord (text : Option String) (e : Refusal) : Record :=
  { level := debug
    logger := notationLogger
    message := "Rejected notation " ++ shownText text ++ ": " ++ e.message
    origin := .own "parser" "parse" 99
    writable := isWritable_debug }

/-- The terms of a text or its refusal, with a record of the refusal. -/
def parse (h : Host) (text : Option String) (request : LimitRequest := {}) :
    Except Failure (Except Refusal (List Term)) × Host :=
  match h.readTerms text request with
  | (.ok (.error e), h) => (.ok (.error e), h.emit (refusalRecord text e))
  | answer => answer

end Host

end RollPad
