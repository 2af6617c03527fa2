import RollPad.Binary64.Rounded
import RollPad.Log.Directive
import RollPad.Text.Quoted

/-!
Placing a value under a directive. The conversion letter says what to make of the value, the
precision how much of it to show, the width how much room it gets, and the flags how to fill the
room. A letter that does not suit the value cannot be carried out, nor can a width or precision that
is left to a further value.
-/

namespace RollPad.Log

/-- A value that a directive can show. -/
inductive FieldValue where
  /-- Text, which can also be shown in quotation marks. -/
  | text (s : String)
  /-- An integer, which can also be shown as a number. -/
  | number (n : Int)
  /-- A double, which can be shown as a number too, and cut to an integer. -/
  | real (x : Binary64)
  /-- Anything else, by its only text. -/
  | other (shown : String)
  deriving DecidableEq

namespace Directive

/-- A width or precision as a number, unless it is a star or larger than `most`. -/
def amount? (most : Nat) (cs : List Char) : Option Nat :=
  if cs.all Char.isDigit then some (Nat.ofDigitChars 10 cs 0) |>.filter (· ≤ most) else none

/-- The most room that a value can be given, in characters. -/
def mostRoom : Nat := 0x1000000000

/-- The largest precision. -/
def mostPrecision : Nat := 0x7fffffff

/-- The most digits that an integer can be asked for. -/
def mostDigits : Nat := mostPrecision - 3

/-- The width, if it can be read. -/
def width? (d : Directive) : Option Nat :=
  amount? mostRoom d.width

/-- The precision, if it can be read; `standard` where none is written. -/
def precisionOr (d : Directive) (standard : Nat) : Option Nat :=
  match d.precision with
  | none => some standard
  | some p => amount? mostPrecision p

/-- The text in a field of at least `width` characters, at the side that the flags choose. -/
def justify (d : Directive) (width : Nat) (cs : List Char) : List Char :=
  if d.flags.contains '-' then cs.rightpad width ' ' else cs.leftpad width ' '

/-- Text cut to the precision, then filled up to the width. -/
def placeText (d : Directive) (s : String) : Option (List Char) := do
  let width ← d.width?
  return d.justify width (s.toList.take (← d.precisionOr s.length))

/-- One character, filled up to the width. -/
def placeChar (d : Directive) (c : Char) : Option (List Char) := do
  let width ← d.width?
  let _ ← d.precisionOr 0
  return d.justify width [c]

/-- The sign of a number, as the flags want it. -/
def sign (d : Directive) (negative : Bool) : List Char :=
  if negative then ['-'] else if d.flags.contains '+' then ['+']
  else if d.flags.contains ' ' then [' '] else []

/-- A number with what stands before its digits, filled up to the width with zeros behind the lead
or with blanks. -/
def fillNumber (d : Directive) (width : Nat) (lead digits : List Char) : List Char :=
  if d.flags.contains '0' && !d.flags.contains '-' then
    lead ++ digits.leftpad (width - lead.length) '0'
  else d.justify width (lead ++ digits)

/-- The mark of a base, where the flags want one. -/
def baseMark (d : Directive) (base : Nat) : List Char :=
  if d.flags.contains '#' then
    (if base = 16 then ['0', 'x'] else if base = 8 then ['0', 'o'] else [])
  else []

/-- An integer in a base, with at least as many digits as the precision says. -/
def placeInteger (d : Directive) (base : Nat) (n : Int) : Option (List Char) := do
  let width ← d.width?
  let least ← (d.precisionOr 0).filter (· ≤ mostDigits)
  let digits := (Nat.toDigits base n.natAbs).leftpad least '0'
  return d.fillNumber width (d.sign (n < 0) ++ d.baseMark base) digits

/-- A double in a form with as many digits as the precision says, or six; those that are no numbers
are told by their names. -/
def placeReal (d : Directive) (form : Magnitude.Form) (x : Binary64) : Option (List Char) := do
  let width ← d.width?
  let digits ← d.precisionOr 6
  match x with
  | .nan => return d.fillNumber width (d.sign false) ['n', 'a', 'n']
  | .infinite negative => return d.fillNumber width (d.sign negative) ['i', 'n', 'f']
  | .finite negative m =>
    return d.fillNumber width (d.sign negative) (m.text form (d.flags.contains '#') digits)

/-- A double under a directive for real numbers. -/
def placeByForm (d : Directive) (x : Binary64) : Option (List Char) :=
  match d.conversion with
  | 'f' => d.placeReal .fixed x
  | 'F' => (d.placeReal .fixed x).map (·.map Char.toUpper)
  | 'e' => d.placeReal .exponential x
  | 'E' => (d.placeReal .exponential x).map (·.map Char.toUpper)
  | 'g' => d.placeReal .general x
  | 'G' => (d.placeReal .general x).map (·.map Char.toUpper)
  | _ => none

/-- The character with a code point, if there is one. -/
def character? (n : Int) : Option Char :=
  if 0 ≤ n ∧ n.toNat.isValidChar then some (Char.ofNat n.toNat) else none

/-- An integer under a directive. -/
def placeNumber (d : Directive) (n : Int) : Option (List Char) :=
  match d.conversion with
  | 's' | 'r' | 'a' => d.placeText n.repr
  | 'd' | 'i' | 'u' => d.placeInteger 10 n
  | 'o' => d.placeInteger 8 n
  | 'x' => d.placeInteger 16 n
  | 'X' => (d.placeInteger 16 n).map (·.map Char.toUpper)
  | 'c' => (character? n).bind d.placeChar
  | _ => do
    let m ← Magnitude.ofNat? n.natAbs
    d.placeByForm (.finite (n < 0) m)

/-- The integer that is left of a double without its fraction, if it is a number. -/
def truncated? : Binary64 → Option Int
  | .finite negative m =>
    let n := Int.ofNat (m.units / Binary64.unitsPerOne)
    some (if negative then -n else n)
  | _ => none

/-- A double under a directive. -/
def placeDouble (d : Directive) (x : Binary64) : Option (List Char) :=
  match d.conversion with
  | 's' | 'r' | 'a' => d.placeText x.text
  | 'd' | 'i' | 'u' => (truncated? x).bind (d.placeInteger 10)
  | _ => d.placeByForm x

/-- Text under a directive. -/
def placeString (d : Directive) (s : String) : Option (List Char) :=
  match d.conversion with
  | 's' => d.placeText s
  | 'r' => d.placeText (Text.quote s)
  | 'a' => d.placeText (Text.inAscii (Text.quote s))
  | 'c' =>
    match s.toList with
    | [c] => d.placeChar c
    | _ => none
  | _ => none

/-- Text that never gets quotation marks, under a directive. -/
def placeShown (d : Directive) (s : String) : Option (List Char) :=
  match d.conversion with
  | 's' | 'r' => d.placeText s
  | 'a' => d.placeText (Text.inAscii s)
  | _ => none

/-- A value under a directive. -/
def place (d : Directive) : FieldValue → Option (List Char)
  | .text s => d.placeString s
  | .number n => d.placeNumber n
  | .real x => d.placeDouble x
  | .other shown => d.placeShown shown

end Directive

end RollPad.Log
