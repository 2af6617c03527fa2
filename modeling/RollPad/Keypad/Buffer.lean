import RollPad.Text.Quoted

/-!
The edit buffer of the keypad: a text and a caret between its characters. An operation that has
nothing to act on leaves the buffer as it is, and after each change of the text the caret is brought
back between the two ends of the text.
-/

namespace RollPad

/-- A text and the number of its characters before the caret. -/
structure Buffer where
  text : String := ""
  caret : Nat := 0
  deriving DecidableEq

namespace Buffer

/-- The buffer of a text, with the caret at its end. -/
def ofText (text : String) : Buffer :=
  ⟨text, text.length⟩

/-- Is there no text? -/
def isEmpty (b : Buffer) : Bool :=
  b.text.isEmpty

/-- The characters before the caret. -/
def before (b : Buffer) : List Char :=
  b.text.toList.take b.caret

/-- The characters after the caret. -/
def after (b : Buffer) : List Char :=
  b.text.toList.drop b.caret

/-- The buffer with the caret brought back to the end of the text if it lies beyond. -/
def clamp (b : Buffer) : Buffer :=
  { b with caret := min b.caret b.text.length }

/-- Put text in at the caret, which moves behind it. -/
def insert (b : Buffer) (s : String) : Buffer :=
  clamp ⟨String.ofList (b.before ++ s.toList ++ b.after), b.caret + s.length⟩

/-- Remove the character before the caret. -/
def deleteBefore (b : Buffer) : Buffer :=
  if b.caret = 0 then b
  else clamp ⟨String.ofList (b.text.toList.take (b.caret - 1) ++ b.after), b.caret - 1⟩

/-- Remove everything. -/
def clear (_ : Buffer) : Buffer :=
  ⟨"", 0⟩

/-- Replace the text; the caret moves to its end. -/
def setText (_ : Buffer) (text : String) : Buffer :=
  ofText text

/-- Move the caret one character back, if there is one. -/
def moveLeft (b : Buffer) : Buffer :=
  { b with caret := b.caret - 1 }

/-- Move the caret one character on, if there is one. -/
def moveRight (b : Buffer) : Buffer :=
  if b.caret < b.text.length then { b with caret := b.caret + 1 } else b

/-- Move the caret before the text. -/
def moveHome (b : Buffer) : Buffer :=
  { b with caret := 0 }

/-- Move the caret behind the text. -/
def moveEnd (b : Buffer) : Buffer :=
  { b with caret := b.text.length }

end Buffer

/-- An operation on the buffer. -/
inductive Edit where
  | insert (text : String)
  | deleteBefore
  | clear
  | setText (text : String)
  | moveLeft
  | moveRight
  | moveHome
  | moveEnd
  deriving DecidableEq

namespace Buffer

/-- Carry out an operation. -/
def apply (b : Buffer) : Edit → Buffer
  | .insert text => b.insert text
  | .deleteBefore => b.deleteBefore
  | .clear => b.clear
  | .setText text => b.setText text
  | .moveLeft => b.moveLeft
  | .moveRight => b.moveRight
  | .moveHome => b.moveHome
  | .moveEnd => b.moveEnd

/-- The buffer on one line. -/
def describe (b : Buffer) : String :=
  "EditBuffer(text=" ++ Text.quote b.text ++ ", caret=" ++ b.caret.repr ++ ")"

end Buffer

end RollPad
