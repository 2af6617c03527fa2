import RollPad.Keypad.Desk
import RollPad.Host.Logging

/-!
The tools that the program offers to its callers: rolling a text, and working one keypad that all
callers share. Both take their draws from the source of that keypad. A refused text is an error of
the rolling tool, and an outcome like any other at the keypad.
-/

namespace RollPad

/-- What the keypad shows to a caller. -/
structure KeypadView where
  buffer : Buffer
  outcome : Option Outcome
  deriving DecidableEq

namespace Desk

/-- What the keypad shows now. -/
def view (d : Desk) : KeypadView :=
  ⟨d.keypad.buffer, d.keypad.outcome⟩

/-- Roll a text and report on it. -/
def rollText (d : Desk) (text : Option String) : Except RollError Report × Desk :=
  match RollPad.rollText text d.keypad.source d.host with
  | (result, source, host) => (result, ⟨{ d.keypad with source }, host⟩)

/-- What the keypad shows after an operation. -/
def viewAfter {α : Type} : Except Failure α × Keypad × Host → Except Failure KeypadView × Desk
  | (.error e, k, h) => (.error e, ⟨k, h⟩)
  | (.ok _, k, h) => (.ok (view ⟨k, h⟩), ⟨k, h⟩)

/-- Press keys in order, all with the same modifiers, and show the keypad. -/
def pressKeys (d : Desk) (keys : List String) (altKey ctrlKey : Bool := false) :
    Except Failure KeypadView × Desk :=
  viewAfter (d.keypad.pressAll (keys.map fun key => { key, altKey, ctrlKey }) d.host)

/-- Put a text into the buffer and, if asked to, roll it; then show the keypad. -/
def loadFormula (d : Desk) (text : String) (roll : Bool := false) :
    Except Failure KeypadView × Desk :=
  viewAfter (d.keypad.load text roll d.host)

end Desk

/-- A call of a tool, or a change of a variable between calls. -/
inductive ServiceStep where
  | rollText (text : Option String)
  | pressKeys (keys : List String) (altKey ctrlKey : Bool)
  | inspect
  | loadFormula (text : String) (roll : Bool)
  | setVariable (name : String) (value : Option String) (drop : Bool)
  deriving DecidableEq

/-- What a call answers. -/
inductive ServiceReply where
  | done
  | report (report : Report)
  | view (view : KeypadView)
  deriving DecidableEq

namespace Desk

/-- The answer of a tool. -/
def replyOf {ε ε' α : Type} (error : ε → ε') (reply : α → ServiceReply) :
    Except ε α × Desk → Except ε' ServiceReply × Desk
  | (.error e, d) => (.error (error e), d)
  | (.ok x, d) => (.ok (reply x), d)

/-- Carry out a call. -/
def serve : ServiceStep → Desk → Except RollError ServiceReply × Desk
  | .rollText text, d => replyOf id .report (d.rollText text)
  | .pressKeys keys altKey ctrlKey, d => replyOf .failed .view (d.pressKeys keys altKey ctrlKey)
  | .inspect, d => (.ok (.view d.view), d)
  | .loadFormula text roll, d => replyOf .failed .view (d.loadFormula text roll)
  | .setVariable name value drop, d =>
    match d.host.setVariable name value drop with
    | (.error e, h) => (.error (.failed (.environment e)), ⟨d.keypad, h⟩)
    | (.ok _, h) => (.ok .done, ⟨d.keypad, h⟩)

end Desk

end RollPad
