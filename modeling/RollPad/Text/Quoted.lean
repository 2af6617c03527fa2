import RollPad.Text.Printable

/-!
Quoted text, as messages show it: the text between two quotation marks, in which the mark in use,
the backslash and every character that does not print are escaped. A quoted text is therefore one
line, whatever was quoted.
-/

namespace RollPad.Text

/-- `n` in lower-case hexadecimal, with zeros in front up to `width` digits. -/
def hexPadded (width n : Nat) : List Char :=
  (Nat.toDigits 16 n).leftpad width '0'

/-- A character by its code point, in the shortest of the three forms that fits. -/
def escapeCode (n : Nat) : List Char :=
  if n < 0x100 then '\\' :: 'x' :: hexPadded 2 n
  else if n < 0x10000 then '\\' :: 'u' :: hexPadded 4 n
  else '\\' :: 'U' :: hexPadded 8 n

/-- One character between quotation marks `mark`. -/
def escapeChar (mark c : Char) : List Char :=
  if c = '\\' ∨ c = mark then ['\\', c]
  else if c = '\n' then ['\\', 'n']
  else if c = '\r' then ['\\', 'r']
  else if c = '\t' then ['\\', 't']
  else if isPrintable c then [c]
  else escapeCode c.toNat

/-- Single quotation marks, unless the text holds single marks and no double one. -/
def quotationMark (cs : List Char) : Char :=
  if cs.contains '\'' && !cs.contains '"' then '"' else '\''

/-- The text between quotation marks, with escapes for what does not print. -/
def quote (s : String) : String :=
  let mark := quotationMark s.toList
  String.ofList (mark :: (s.toList.flatMap (escapeChar mark) ++ [mark]))

/-- The text with escapes for all that is not ASCII. -/
def inAscii (s : String) : String :=
  String.ofList (s.toList.flatMap fun c => if c.toNat < 0x80 then [c] else escapeCode c.toNat)

end RollPad.Text
