import RollPad.Binary64.Shortest

/-!
Magnitudes with a chosen number of digits. The exact value is rounded once, to the nearest decimal
with that many digits and to the even one of two, and is laid out with a fixed number of places,
with an exponent, or in general form, which takes an exponent only for small and large values and
leaves out zeros at the end.
-/

namespace RollPad.Magnitude

open Binary64

/-- How many digits are shown, and how. -/
inductive Form where
  /-- So many places after the point. -/
  | fixed
  /-- One digit before the point, so many after it, and an exponent. -/
  | exponential
  /-- So many digits in all, with an exponent only where the value is small or large. -/
  | general
  deriving DecidableEq

/-- The digits with a point before the last `places` of them. -/
def withPoint (places : Nat) (ds : List Char) : List Char :=
  let ds := ds.leftpad (places + 1) '0'
  ds.take (ds.length - places) ++ '.' :: ds.drop (ds.length - places)

/-- Decimal text without a point at its end. -/
def dropFinalPoint (cs : List Char) : List Char :=
  if cs.getLast? == some '.' then cs.dropLast else cs

/-- The `count` digits of the nearest decimal with so many, and the exponent of the first. Rounding
up to a power of ten gives one digit more, a zero at the end. -/
def significant (count : Nat) (m : Magnitude) : List Char × Int :=
  if m.units = 0 then (List.replicate count '0', 0)
  else
    let lead := leadingExponent m.units
    let (num, den) := scaled m.units (lead + 1 - count)
    let ds := Nat.toDigits 10 (roundHalfEven num den)
    (ds.take count, lead + (ds.length - count))

/-- The text in a form. `full` keeps the point also where no digit follows it, and keeps the zeros
at the end of general form. -/
def text (form : Form) (full : Bool) (digits : Nat) (m : Magnitude) : List Char :=
  match form with
  | .fixed =>
    let scaled := roundHalfEven (m.units * tenTo digits) unitsPerOne
    let cs := withPoint digits (Nat.toDigits 10 scaled)
    if full then cs else dropFinalPoint cs
  | .exponential =>
    let (ds, e) := m.significant (digits + 1)
    let cs := withPoint digits ds
    (if full then cs else dropFinalPoint cs) ++ exponentText layout.exponentWidth e
  | .general =>
    let count := max 1 digits
    let (ds, e) := m.significant count
    let (places, tail) := if -4 ≤ e ∧ e < count then ((count - 1 - e).toNat, [])
      else (count - 1, exponentText layout.exponentWidth e)
    let cs := withPoint places ds
    (if full then cs else dropFinalPoint (dropTrailingZeros cs)) ++ tail

end RollPad.Magnitude
