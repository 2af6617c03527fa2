import RollPad.Keypad.Buffer
import RollPad.Keypad.Key
import RollPad.Dice.Report

/-!
A session at the keypad: the buffer, the source of draws, and the outcome of the last submit. A
submit reads the buffer and rolls it; a refusal is an outcome too. The buffer stays as it is, and a
failure leaves the outcome as it was.
-/

namespace RollPad

open Log

/-- What became of a submitted text. -/
inductive Verdict where
  | rolled (rolls : List TermRoll)
  | refused (cause : Refusal)
  deriving DecidableEq

/-- A submitted text and what became of it. -/
structure Outcome where
  text : String
  verdict : Verdict
  deriving DecidableEq

namespace Outcome

/-- Was the text rolled? -/
def isOk (o : Outcome) : Bool :=
  match o.verdict with
  | .rolled _ => true
  | .refused _ => false

/-- The rolls; none for a refused text. -/
def rolls (o : Outcome) : List TermRoll :=
  match o.verdict with
  | .rolled rolls => rolls
  | .refused _ => []

/-- The message of a refused text. -/
def error? (o : Outcome) : Option String :=
  match o.verdict with
  | .rolled _ => none
  | .refused cause => some cause.message

/-- The sum of all rolls. -/
def total (o : Outcome) : Int :=
  grandTotal o.rolls

end Outcome

/-- A keypad in use. -/
structure Keypad where
  buffer : Buffer := {}
  source : Source
  outcome : Option Outcome := none
  deriving DecidableEq

/-- The logger of submits. -/
def submitLogger : String := "dice_keypad.router"

/-- The record of a rolled text. -/
def submitRecord (text : String) (total : Int) : Record :=
  { level := info
    logger := submitLogger
    message := "Rolled " ++ Text.quote text ++ " => " ++ total.repr
    origin := .own "router" "submit" 150
    writable := isWritable_info }

namespace Keypad

/-- Carry out an operation on the buffer. -/
def edit (k : Keypad) (e : Edit) : Keypad :=
  { k with buffer := k.buffer.apply e }

/-- Roll what is in the buffer. -/
def submit (k : Keypad) (h : Host) : Except Failure Outcome × Keypad × Host :=
  let text := k.buffer.text
  match h.parse text with
  | (.error e, h) => (.error e, k, h)
  | (.ok (.error cause), h) =>
    let outcome : Outcome := ⟨text, .refused cause⟩
    (.ok outcome, { k with outcome := some outcome }, h)
  | (.ok (.ok terms), h) =>
    match rollTerms terms k.source with
    | (.error e, source) => (.error (.die e), { k with source }, h)
    | (.ok rolls, source) =>
      let outcome : Outcome := ⟨text, .rolled rolls⟩
      (.ok outcome, { k with source, outcome := some outcome },
        h.emit (submitRecord text outcome.total))

/-- Clear the buffer and forget the outcome. -/
def clearAll (k : Keypad) : Keypad :=
  { k.edit .clear with outcome := none }

/-- Put a text into the buffer and, if asked to, roll it. -/
def load (k : Keypad) (text : String) (roll : Bool) (h : Host) :
    Except Failure (Option Outcome) × Keypad × Host :=
  let k := k.edit (.setText text)
  if roll then
    match k.submit h with
    | (.error e, k, h) => (.error e, k, h)
    | (.ok outcome, k, h) => (.ok (some outcome), k, h)
  else (.ok none, k, h)

/-- Carry out a command. -/
def apply (k : Keypad) (command : Command) (h : Host) : Except Failure Unit × Keypad × Host :=
  match command with
  | .insert text => (.ok (), k.edit (.insert text), h)
  | .deleteBefore => (.ok (), k.edit .deleteBefore, h)
  | .moveLeft => (.ok (), k.edit .moveLeft, h)
  | .moveRight => (.ok (), k.edit .moveRight, h)
  | .moveHome => (.ok (), k.edit .moveHome, h)
  | .moveEnd => (.ok (), k.edit .moveEnd, h)
  | .clearAll => (.ok (), k.clearAll, h)
  | .submit =>
    match k.submit h with
    | (.error e, k, h) => (.error e, k, h)
    | (.ok _, k, h) => (.ok (), k, h)

/-- Carry out the command of a key press, if it has one, and tell which it was. -/
def press (k : Keypad) (p : KeyPress) (h : Host) :
    Except Failure (Option Command) × Keypad × Host :=
  match p.command? with
  | none => (.ok none, k, h)
  | some command =>
    match k.apply command h with
    | (.error e, k, h) => (.error e, k, h)
    | (.ok _, k, h) => (.ok (some command), k, h)

/-- Press keys in order; the first that fails ends it, and the keys before it have been pressed. -/
def pressAll (k : Keypad) : List KeyPress → Host → Except Failure Unit × Keypad × Host
  | [], h => (.ok (), k, h)
  | p :: ps, h =>
    match k.press p h with
    | (.error e, k, h) => (.error e, k, h)
    | (.ok _, k, h) => k.pressAll ps h

end Keypad

end RollPad
