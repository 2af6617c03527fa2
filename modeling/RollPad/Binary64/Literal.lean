import RollPad.Binary64.Basic
import RollPad.Text.Integer

/-!
Doubles written as decimal literals: an optional sign, digits with at most one point among or around
them, an optional exponent; or one of the words `nan`, `inf` and `infinity` in any case. Digits may
be those of any script and may have single underscores between them, and white space may stand
around the literal. The literal is read as an exact ratio and rounded once.
-/

namespace RollPad.Binary64

/-- A literal without its sign: `digits`, all of them, times ten to the power `exponent`. -/
structure Decimal where
  digits : Nat
  exponent : Int

/-- Decimals at or above this power of ten are infinite, whatever their digits. -/
def exponentCeiling : Int := 400

/-- Decimals below this power of ten are zero, whatever their digits. -/
def exponentFloor : Int := -400

/-- A decimal as a double with a sign. Exponents far outside the range of a double are settled
without computing the power of ten. -/
def Decimal.round (negative : Bool) (d : Decimal) : Binary64 :=
  let size : Int := (Nat.toDigits 10 d.digits).length + d.exponent
  if d.digits = 0 || size < exponentFloor then finite negative Magnitude.zero
  else if exponentCeiling < size then infinite negative
  else if 0 ≤ d.exponent then ofRatio negative (d.digits * tenTo d.exponent.toNat * unitsPerOne) 1
  else ofRatio negative (d.digits * unitsPerOne) (tenTo (-d.exponent).toNat)

/-- A run of ASCII digits as a number; the run may be empty. -/
def natural? (cs : List Char) : Option Nat :=
  if cs.all Char.isDigit then some (Nat.ofDigitChars 10 cs 0) else none

/-- The exponent after its letter: one optional sign and at least one digit. -/
def exponent? : List Char → Option Int
  | [] => none
  | ['+'] => none
  | ['-'] => none
  | '+' :: cs => (natural? cs).map Int.ofNat
  | '-' :: cs => (natural? cs).map fun n => -Int.ofNat n
  | cs => (natural? cs).map Int.ofNat

/-- Digits, at most one point, and an optional exponent after the letter `e`. -/
def decimal? (cs : List Char) : Option Decimal := do
  let mantissa := cs.takeWhile (· ≠ 'e')
  let exponent ← match cs.dropWhile (· ≠ 'e') with
    | [] => some 0
    | _ :: rest => exponent? rest
  let whole := mantissa.takeWhile (· ≠ '.')
  let fraction := (mantissa.dropWhile (· ≠ '.')).drop 1
  if whole.isEmpty && fraction.isEmpty then none
  else
    let digits ← natural? (whole ++ fraction)
    return ⟨digits, exponent - fraction.length⟩

/-- A literal after its sign, in lower case. -/
def unsigned? (negative : Bool) (cs : List Char) : Option Binary64 :=
  if cs = "nan".toList then some nan
  else if cs = "inf".toList ∨ cs = "infinity".toList then some (infinite negative)
  else (decimal? cs).map (·.round negative)

/-- The text with the digits of every script in ASCII. -/
def plainDigits (cs : List Char) : List Char :=
  cs.map fun c => ((Text.digitValue? c).map Nat.digitChar).getD c

/-- The text without the underscores between its digits; any other underscore is a fault. The flag
tells whether a digit has just been read. -/
def dropSeparators? : Bool → List Char → Option (List Char)
  | _, [] => some []
  | true, '_' :: d :: cs => if d.isDigit then dropSeparators? false (d :: cs) else none
  | _, c :: cs => if c = '_' then none else (dropSeparators? c.isDigit cs).map (c :: ·)

/-- The double that a decimal literal denotes. -/
def read? (s : String) : Option Binary64 := do
  let cs ← dropSeparators? false (plainDigits (Text.trimPadding s.toList))
  match cs.map Char.toLower with
  | '-' :: cs => unsigned? true cs
  | '+' :: cs => unsigned? false cs
  | cs => unsigned? false cs

end RollPad.Binary64
