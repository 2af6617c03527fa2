import RollPad.Text.Quoted

/-!
Keys and commands. A key press with a modifier that belongs to the browser or the operating system
is left alone; digits, `d` and the space type themselves, `d` always in lower case; a few named keys
edit, move the caret, submit or clear. All other keys mean nothing.
-/

namespace RollPad

/-- A key press, as the screen reports it: the name of the key and the modifiers held. -/
structure KeyPress where
  key : String
  shiftKey : Bool := false
  altKey : Bool := false
  ctrlKey : Bool := false
  metaKey : Bool := false
  deriving DecidableEq

/-- What the keypad can be told to do. -/
inductive Command where
  | insert (text : String)
  | deleteBefore
  | moveLeft
  | moveRight
  | moveHome
  | moveEnd
  | submit
  | clearAll
  deriving DecidableEq

/-- A name that is no command's. -/
structure UnknownCommand where
  name : String
  deriving DecidableEq

namespace UnknownCommand

/-- What is wrong, in words. -/
def message (e : UnknownCommand) : String :=
  "Unknown action: " ++ Text.quote e.name

end UnknownCommand

namespace Command

/-- The name of a command. -/
def name : Command → String
  | insert _ => "insert"
  | deleteBefore => "delete_before"
  | moveLeft => "move_left"
  | moveRight => "move_right"
  | moveHome => "move_home"
  | moveEnd => "move_end"
  | submit => "submit"
  | clearAll => "clear_all"

/-- The text that a command puts in. -/
def insertedText : Command → String
  | insert text => text
  | _ => ""

/-- The command of a name; `text` is what an insertion puts in. -/
def ofName (name text : String) : Except UnknownCommand Command :=
  match name with
  | "insert" => .ok (insert text)
  | "delete_before" => .ok deleteBefore
  | "move_left" => .ok moveLeft
  | "move_right" => .ok moveRight
  | "move_home" => .ok moveHome
  | "move_end" => .ok moveEnd
  | "submit" => .ok submit
  | "clear_all" => .ok clearAll
  | _ => .error ⟨name⟩

/-- The command of a named key. -/
def ofNamedKey? : String → Option Command
  | "Backspace" => some deleteBefore
  | "Delete" => some deleteBefore
  | "ArrowLeft" => some moveLeft
  | "ArrowRight" => some moveRight
  | "Home" => some moveHome
  | "End" => some moveEnd
  | "Enter" => some submit
  | "Escape" => some clearAll
  | _ => none

end Command

/-- The characters that type themselves. -/
def isTyped (c : Char) : Bool :=
  c.isDigit || c == 'd' || c == 'D' || c == ' '

namespace KeyPress

/-- Is a modifier held that belongs to somebody else? Shift does not. -/
def isBlocked (p : KeyPress) : Bool :=
  p.altKey || p.ctrlKey || p.metaKey

/-- The command of a key press, if it has one. -/
def command? (p : KeyPress) : Option Command :=
  if p.isBlocked then none
  else
    match p.key.toList with
    | [c] => if isTyped c then some (.insert (String.singleton c.toLower)) else none
    | _ => Command.ofNamedKey? p.key

end KeyPress

end RollPad
