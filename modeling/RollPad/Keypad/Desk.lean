import RollPad.Keypad.Session

/-!
A desk: one keypad and the host it works on. Its steps are what a screen does with the keypad, and
the changes to the variables of the host in between.
-/

namespace RollPad

/-- A keypad and its host. -/
structure Desk where
  keypad : Keypad
  host : Host

/-- A step at the keypad. -/
inductive KeypadStep where
  | press (key : KeyPress)
  /-- Carry out the command of a name; `text` is what an insertion puts in. -/
  | apply (name text : String)
  | submit
  | clearAll
  | load (text : String) (roll : Bool)
  | setVariable (name : String) (value : Option String) (drop : Bool)
  deriving DecidableEq

/-- What a step answers. -/
inductive KeypadReply where
  | done
  | command (command : Option Command)
  | outcome (outcome : Option Outcome)
  deriving DecidableEq

/-- Why a step fails. -/
inductive KeypadError where
  | unknownCommand (cause : UnknownCommand)
  | failed (cause : Failure)
  deriving DecidableEq

namespace KeypadError

/-- What is wrong, in words. -/
def message : KeypadError → String
  | unknownCommand cause => cause.message
  | failed cause => cause.message

end KeypadError

namespace Desk

/-- The answer of a keypad operation, and the desk after it. -/
def settle {α : Type} (reply : α → KeypadReply) :
    Except Failure α × Keypad × Host → Except KeypadError KeypadReply × Desk
  | (.error e, k, h) => (.error (.failed e), ⟨k, h⟩)
  | (.ok x, k, h) => (.ok (reply x), ⟨k, h⟩)

/-- Carry out a step. -/
def step : KeypadStep → Desk → Except KeypadError KeypadReply × Desk
  | .press key, d => settle .command (d.keypad.press key d.host)
  | .apply name text, d =>
    match Command.ofName name text with
    | .error e => (.error (.unknownCommand e), d)
    | .ok command => settle (fun _ => .done) (d.keypad.apply command d.host)
  | .submit, d => settle (fun o => .outcome (some o)) (d.keypad.submit d.host)
  | .clearAll, d => (.ok .done, ⟨d.keypad.clearAll, d.host⟩)
  | .load text roll, d => settle .outcome (d.keypad.load text roll d.host)
  | .setVariable name value drop, d =>
    match d.host.setVariable name value drop with
    | (.error e, h) => (.error (.failed (.environment e)), ⟨d.keypad, h⟩)
    | (.ok _, h) => (.ok .done, ⟨d.keypad, h⟩)

end Desk

end RollPad
