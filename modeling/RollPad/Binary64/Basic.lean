/-!
Double-precision numbers as exact dyadic rationals. Every finite double is a whole number of units
of `2 ^ -1074`, so its magnitude is a natural number of units with at most 53 significant bits.
Arithmetic is exact on units and rounds once at the end, to the nearest double with ties to the even
significand (`roundUnits`); a magnitude of `2 ^ 1024` or more is an infinity.
-/

namespace RollPad.Binary64

/-- The value one, in units. -/
def unitsPerOne : Nat := 1 <<< 1074

/-- The value `2 ^ 1024`, in units: no finite double reaches it. -/
def unitsLimit : Nat := 1 <<< 2098

/-- No significand reaches `2 ^ 53`. -/
def significandLimit : Nat := 1 <<< 53

/-- A number of units with at most 53 significant bits. -/
def Representable (units : Nat) : Prop :=
  ∃ significand shift, units = significand <<< shift ∧ significand < significandLimit

/-- The integer nearest to `num / den`, the even one of two equally near. -/
def roundHalfEven (num den : Nat) : Nat :=
  let q := num / den
  let r := num % den
  if 2 * r < den then q else if den < 2 * r then q + 1 else q + q % 2

/-- How many low bits of a whole number of units lie below the 53rd significant one. -/
def excessBits (units : Nat) : Nat :=
  units.log2 - 52

/-- The number of units nearest to `num / den` among those with at most 53 significant bits, ties
to the even significand. -/
def roundUnits (num den : Nat) : Nat :=
  let excess := excessBits (num / den)
  roundHalfEven num (den <<< excess) <<< excess

/-! ### What rounding keeps -/

theorem roundHalfEven_le (num den : Nat) : roundHalfEven num den ≤ num / den + 1 := by
  have := Nat.mod_lt (num / den) (by decide : 0 < 2)
  simp only [roundHalfEven]
  split
  · omega
  · split <;> omega

/-- Without its excess bits a number has at most 53 significant ones. -/
theorem shiftRight_excess_lt (q : Nat) : q >>> excessBits q < significandLimit := by
  unfold significandLimit
  rw [Nat.shiftRight_eq_div_pow, Nat.one_shiftLeft, Nat.div_lt_iff_lt_mul (Nat.two_pow_pos _),
    ← Nat.pow_add]
  refine Nat.lt_of_lt_of_le Nat.lt_log2_self (Nat.pow_le_pow_right (by decide) ?_)
  unfold excessBits
  omega

theorem representable_roundUnits (num den : Nat) : Representable (roundUnits num den) := by
  simp only [roundUnits]
  generalize hs : excessBits (num / den) = s
  have hr : roundHalfEven num (den <<< s) ≤ significandLimit := by
    refine Nat.le_trans (roundHalfEven_le _ _) ?_
    rw [Nat.shiftLeft_eq, ← Nat.div_div_eq_div_mul, ← Nat.shiftRight_eq_div_pow, ← hs]
    exact shiftRight_excess_lt _
  rcases Nat.lt_or_eq_of_le hr with h | h
  · exact ⟨_, s, rfl, h⟩
  · exact ⟨1 <<< 52, s + 1, by rw [h, Nat.add_comm s 1, Nat.shiftLeft_add]; rfl, by decide⟩

theorem representable_zero : Representable 0 :=
  ⟨0, 0, rfl, by decide⟩

/-- Ten to the power `k`. -/
def tenTo (k : Nat) : Nat := Nat.pow 10 k

end RollPad.Binary64

namespace RollPad

open Binary64

/-- The magnitude of a finite double, in units of `2 ^ -1074`. -/
structure Magnitude where
  units : Nat
  representable : Representable units
  bounded : units < unitsLimit
  deriving DecidableEq

/-- A double-precision number. Zero has a sign, and there is one value that is not a number. -/
inductive Binary64 where
  | nan
  | infinite (negative : Bool)
  | finite (negative : Bool) (magnitude : Magnitude)
  deriving DecidableEq

namespace Magnitude

/-- The double nearest to `num / den` units, unless it is too large for one. -/
def ofRatio? (num den : Nat) : Option Magnitude :=
  if h : roundUnits num den < unitsLimit then some ⟨_, representable_roundUnits num den, h⟩
  else none

/-- The double nearest to a natural number, unless it is too large for one. -/
def ofNat? (n : Nat) : Option Magnitude :=
  ofRatio? (n * unitsPerOne) 1

/-- Zero. -/
def zero : Magnitude := ⟨0, representable_zero, by decide +kernel⟩

end Magnitude

namespace Binary64

/-- The double nearest to `num / den` units with a sign; beyond the largest one, an infinity. -/
def ofRatio (negative : Bool) (num den : Nat) : Binary64 :=
  match Magnitude.ofRatio? num den with
  | some m => finite negative m
  | none => infinite negative

/-- The product, rounded once. -/
def mul : Binary64 → Binary64 → Binary64
  | nan, _ => nan
  | _, nan => nan
  | infinite s, infinite t => infinite (s != t)
  | infinite s, finite t m => if m.units = 0 then nan else infinite (s != t)
  | finite s m, infinite t => if m.units = 0 then nan else infinite (s != t)
  | finite s m, finite t n => ofRatio (s != t) (m.units * n.units) unitsPerOne

/-- Is the number at least zero and below one? Both zeros are. -/
def inUnitInterval : Binary64 → Bool
  | finite negative m => (!negative || m.units == 0) && m.units < unitsPerOne
  | _ => false

/-- The largest integer not above a finite double. -/
def floorFinite (negative : Bool) (m : Magnitude) : Int :=
  (if negative then -Int.ofNat m.units else Int.ofNat m.units) / Int.ofNat unitsPerOne

end Binary64

end RollPad
