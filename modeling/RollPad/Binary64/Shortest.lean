import RollPad.Binary64.Basic

/-!
Doubles as decimal text: the fewest digits that read back as the same double, and of the candidates
with that many digits the nearest to it. For each number of digits only the two neighbours of the
value on the decimal grid come into question, since rounding is monotone. `Layout` holds what is a
matter of taste: where positional notation ends and how an exponent is written.
-/

namespace RollPad.Binary64

/-- Decimal digits and the place of the point: `0.d₁d₂d₃… · 10 ^ point`. -/
structure Digits where
  digits : List Char
  point : Int

/-- How decimal text is laid out: positional when the point lies after `low` and up to `high`,
otherwise with an exponent of at least `exponentWidth` digits. -/
structure Layout where
  low : Int
  high : Int
  exponentWidth : Nat

/-- Numbers from `0.0001` to below `10 ^ 16` are positional, and exponents have two digits. -/
def layout : Layout := ⟨-4, 16, 2⟩

/-- `units` of `2 ^ -1074`, divided by ten to the power `k`, as a ratio. -/
def scaled (units : Nat) (k : Int) : Nat × Nat :=
  if 0 ≤ k then (units, unitsPerOne * tenTo k.toNat) else (units * tenTo (-k).toNat, unitsPerOne)

/-- The number of units nearest to `c` times ten to the power `k`. -/
def roundDecimal (c : Nat) (k : Int) : Nat :=
  if 0 ≤ k then roundUnits (c * tenTo k.toNat * unitsPerOne) 1
  else roundUnits (c * unitsPerOne) (tenTo (-k).toNat)

/-- The decimal exponent of the leading digit of a positive number of units. -/
def leadingExponent (units : Nat) : Int :=
  (Nat.toDigits 10 (units * tenTo 400 / unitsPerOne)).length - 401

/-- The multiple of ten to the power `k` that reads back as `units`: of the value's two neighbours,
the only one that does so, or else the nearer, or else the even one. -/
def readsBack? (units : Nat) (k : Int) : Option Nat :=
  let (num, den) := scaled units k
  let c := num / den
  match roundDecimal c k == units, roundDecimal (c + 1) k == units with
  | true, true => some (roundHalfEven num den)
  | true, false => some c
  | false, true => some (c + 1)
  | false, false => none

/-- Digits without the zeros at their end. -/
def dropTrailingZeros (ds : List Char) : List Char :=
  (ds.reverse.dropWhile (· == '0')).reverse

/-- The fewest digits, from `count` on, that read back as `units`; `more` bounds the search. A
neighbour that is a power of ten has one digit more than asked for, and zeros at its end. -/
def shortestFrom (units : Nat) (count : Nat) : Nat → Digits
  | 0 => ⟨[], 0⟩
  | more + 1 =>
    let k := leadingExponent units + 1 - count
    match readsBack? units k with
    | some c =>
      let digits := Nat.toDigits 10 c
      ⟨dropTrailingZeros digits, digits.length + k⟩
    | none => shortestFrom units (count + 1) more

/-- The fewest digits that read back as a positive number of units. Seventeen are always enough. -/
def shortest (units : Nat) : Digits :=
  shortestFrom units 1 17

/-- An exponent with its mark, its sign, and at least `width` digits. -/
def exponentText (width : Nat) (exponent : Int) : List Char :=
  'e' :: (if exponent < 0 then '-' else '+') ::
    (Nat.toDigits 10 exponent.natAbs).leftpad width '0'

/-- Digits as text. -/
def Layout.write (l : Layout) (d : Digits) : List Char :=
  if l.low < d.point ∧ d.point ≤ l.high then
    if d.point ≤ 0 then '0' :: '.' :: (List.replicate (-d.point).toNat '0' ++ d.digits)
    else
      let whole := d.digits.take d.point.toNat
      let fraction := d.digits.drop d.point.toNat
      whole ++ List.replicate (d.point.toNat - whole.length) '0' ++
        '.' :: (if fraction.isEmpty then ['0'] else fraction)
  else
    let fraction := d.digits.drop 1
    d.digits.take 1 ++ (if fraction.isEmpty then [] else '.' :: fraction) ++
      exponentText l.exponentWidth (d.point - 1)

/-! ### Where the layouts meet -/

example : layout.write ⟨['1'], 16⟩ = "1000000000000000.0".toList := by decide
example : layout.write ⟨['1'], 17⟩ = "1e+16".toList := by decide
example : layout.write ⟨['1', '5'], -3⟩ = "0.00015".toList := by decide
example : layout.write ⟨['1', '5'], -4⟩ = "1.5e-05".toList := by decide

/-- A double as decimal text. -/
def text : Binary64 → String
  | nan => "nan"
  | infinite negative => if negative then "-inf" else "inf"
  | finite negative m =>
    let body := if m.units = 0 then ['0', '.', '0'] else layout.write (shortest m.units)
    String.ofList (if negative then '-' :: body else body)

end RollPad.Binary64
