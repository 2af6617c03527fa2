import Mathlib.Tactic.Ring
import RollPad.Binary64.Basic

/-!
Rounding to doubles. Rounding never passes a number of units that needs no rounding
(`roundUnits_le`, `le_roundUnits`), so the product of a draw below one and a double is a double. A
natural number is too large for a double exactly if it is at least halfway from the largest double
to `2 ^ 1024` (`Magnitude.ofNat?_eq_none_iff`).
-/

namespace RollPad.Binary64

/-! ### The nearest integer -/

theorem div_le_roundHalfEven (num den : Nat) : num / den ≤ roundHalfEven num den := by
  simp only [roundHalfEven]
  split
  · omega
  · split <;> omega

/-- What lies before the midpoint of `R` and `R + 1` is not rounded above `R`. -/
theorem roundHalfEven_le_of_lt {num den R : Nat} (h : 2 * num < (2 * R + 1) * den) :
    roundHalfEven num den ≤ R := by
  have hden : 0 < den := Nat.pos_of_ne_zero (by rintro rfl; simp at h)
  have hnum := Nat.div_add_mod num den
  rcases Nat.lt_trichotomy (num / den) R with hlt | heq | hgt
  · have := roundHalfEven_le num den
    omega
  · have hexpand : (2 * R + 1) * den = 2 * (den * R) + den := by ring
    rw [heq] at hnum
    have hrest : 2 * (num % den) < den := by omega
    simp only [roundHalfEven, hrest, if_true]
    omega
  · have hmul : den * (R + 1) ≤ den * (num / den) := Nat.mul_le_mul_left _ hgt
    have hexpand : (2 * R + 1) * den + den = 2 * (den * (R + 1)) := by ring
    omega

/-- What lies at or behind the midpoint of an odd `R` and `R + 1` is rounded above `R`. -/
theorem lt_roundHalfEven {num den R : Nat} (hden : 0 < den) (h : (2 * R + 1) * den ≤ 2 * num)
    (hodd : R % 2 = 1) : R < roundHalfEven num den := by
  have hnum := Nat.div_add_mod num den
  have hmod := Nat.mod_lt num hden
  rcases Nat.lt_trichotomy (num / den) R with hlt | heq | hgt
  · have hmul : den * (num / den + 1) ≤ den * R := Nat.mul_le_mul_left _ hlt
    have hexpand : (2 * R + 1) * den = 2 * (den * R) + den := by ring
    have hsucc : den * (num / den + 1) = den * (num / den) + den := by ring
    omega
  · have hexpand : (2 * R + 1) * den = 2 * (den * R) + den := by ring
    rw [heq] at hnum
    have hrest : ¬2 * (num % den) < den := by omega
    simp only [roundHalfEven, hrest, if_false]
    split <;> omega
  · exact hgt.trans_le (div_le_roundHalfEven num den)

/-! ### Numbers that need no rounding -/

/-- Bits in excess are those of a number with more than 53. -/
theorem two_pow_le_of_excessBits {q : Nat} (h : 0 < excessBits q) :
    2 ^ (52 + excessBits q) ≤ q := by
  unfold excessBits at h ⊢
  have hq : q ≠ 0 := by
    rintro rfl
    simp at h
  have hlog : 52 + (q.log2 - 52) = q.log2 := by omega
  rw [hlog]
  exact Nat.log2_self_le hq

/-- A large number with few significant bits ends in zeros. -/
theorem Representable.two_pow_dvd {R s : Nat} (hR : Representable R) (h : 2 ^ (52 + s) ≤ R) :
    2 ^ s ∣ R := by
  obtain ⟨significand, shift, rfl, hsmall⟩ := hR
  rw [significandLimit, Nat.one_shiftLeft] at hsmall
  rw [Nat.shiftLeft_eq] at h ⊢
  have hlt : 2 ^ (52 + s) < 2 ^ (53 + shift) := by
    rw [Nat.pow_add 2 53]
    exact h.trans_lt (Nat.mul_lt_mul_of_pos_right hsmall (Nat.two_pow_pos shift))
  have hle := (Nat.pow_lt_pow_iff_right (by decide : 1 < 2)).1 hlt
  exact Dvd.dvd.mul_left (Nat.pow_dvd_pow 2 (by omega)) significand

/-- A number with few significant bits has no bits in excess of a smaller one. -/
theorem Representable.two_pow_excessBits_dvd {R q : Nat} (hR : Representable R) (h : q ≤ R) :
    2 ^ excessBits q ∣ R := by
  rcases Nat.eq_zero_or_pos (excessBits q) with hzero | hpos
  · rw [hzero]
    exact Nat.one_dvd R
  · exact hR.two_pow_dvd ((two_pow_le_of_excessBits hpos).trans h)

/-- Rounding does not rise above a number that needs none. -/
theorem roundUnits_le {num den R : Nat} (hden : 0 < den) (hR : Representable R)
    (h : num ≤ R * den) : roundUnits num den ≤ R := by
  have hq : num / den ≤ R := Nat.div_le_of_le_mul (by rwa [Nat.mul_comm])
  obtain ⟨R', hR'⟩ := hR.two_pow_excessBits_dvd hq
  simp only [roundUnits, Nat.shiftLeft_eq]
  generalize 2 ^ excessBits (num / den) = unit at hR' ⊢
  rcases Nat.eq_zero_or_pos unit with rfl | hunit
  · simp
  have hscaled : num ≤ R' * (den * unit) := by
    rw [hR'] at h
    calc num ≤ unit * R' * den := h
      _ = R' * (den * unit) := by ring
  have hround : roundHalfEven num (den * unit) ≤ R' := by
    refine roundHalfEven_le_of_lt ?_
    have hpos := Nat.mul_pos hden hunit
    have hexpand : (2 * R' + 1) * (den * unit) = 2 * (R' * (den * unit)) + den * unit := by ring
    omega
  calc roundHalfEven num (den * unit) * unit ≤ R' * unit := Nat.mul_le_mul_right _ hround
    _ = R := by rw [hR', Nat.mul_comm]

/-- Rounding does not fall below a number that needs none. -/
theorem le_roundUnits {num den R : Nat} (hden : 0 < den) (hR : Representable R)
    (h : R * den ≤ num) : R ≤ roundUnits num den := by
  have hq : R ≤ num / den := (Nat.le_div_iff_mul_le hden).2 h
  simp only [roundUnits, Nat.shiftLeft_eq]
  have hround := div_le_roundHalfEven num (den * 2 ^ excessBits (num / den))
  rw [← Nat.div_div_eq_div_mul] at hround
  generalize hs : excessBits (num / den) = s at hround ⊢
  refine le_trans ?_ (Nat.mul_le_mul_right (2 ^ s) hround)
  -- either the bound ends in zeros too, or it lies below all numbers with so many bits
  by_cases hlarge : 2 ^ (52 + s) ≤ R
  · obtain ⟨R', rfl⟩ := hR.two_pow_dvd hlarge
    rw [Nat.mul_comm (2 ^ s)] at hq ⊢
    exact Nat.mul_le_mul_right _ ((Nat.le_div_iff_mul_le (Nat.two_pow_pos s)).2 hq)
  · rcases Nat.eq_zero_or_pos s with rfl | hpos
    · simpa using hq
    · have hbits : 2 ^ (52 + s) ≤ num / den := hs ▸ two_pow_le_of_excessBits (hs ▸ hpos)
      rw [Nat.pow_add] at hbits hlarge
      have hdiv := (Nat.le_div_iff_mul_le (Nat.two_pow_pos s)).2 hbits
      exact (Nat.le_of_not_ge hlarge).trans (Nat.mul_le_mul_right _ hdiv)

theorem representable_two_pow (k : Nat) : Representable (2 ^ k) :=
  ⟨1, k, (Nat.one_shiftLeft k).symm, by decide⟩

/-- The number of excess bits tells between which powers of two a number lies. -/
theorem excessBits_eq {q s : Nat} (hle : 2 ^ (52 + s) ≤ q) (hlt : q < 2 ^ (53 + s)) :
    excessBits q = s := by
  have hq : q ≠ 0 := (Nat.two_pow_pos _ |>.trans_le hle).ne'
  have hlow := (Nat.le_log2 hq).2 hle
  have hhigh := (Nat.log2_lt hq).2 hlt
  unfold excessBits
  omega

/-- Rounding reaches a power of two from half a unit in the last place below it. -/
theorem roundUnits_lt_two_pow_iff {num s : Nat} :
    roundUnits num 1 < 2 ^ (53 + s) ↔ 2 * num < (2 ^ 54 - 1) * 2 ^ s := by
  have hunit := Nat.two_pow_pos s
  have hlow : 2 ^ (52 + s) = 2 ^ 52 * 2 ^ s := Nat.pow_add 2 52 s
  have hhigh : 2 ^ (53 + s) = 2 ^ 53 * 2 ^ s := Nat.pow_add 2 53 s
  rcases Nat.lt_or_ge num (2 ^ (52 + s)) with hsmall | hle
  · have := roundUnits_le Nat.one_pos (representable_two_pow (52 + s)) (by omega : num ≤ _ * 1)
    omega
  rcases Nat.lt_or_ge num (2 ^ (53 + s)) with hlt | hlarge
  · simp only [roundUnits, Nat.div_one, excessBits_eq hle hlt, Nat.one_mul,
      Nat.shiftLeft_eq, hhigh, Nat.mul_lt_mul_right hunit]
    constructor
    · intro hround
      by_contra hge
      have hnum : (2 * (2 ^ 53 - 1) + 1) * 2 ^ s ≤ 2 * num := by omega
      have := lt_roundHalfEven hunit hnum (by decide)
      omega
    · intro hround
      have hnum : 2 * num < (2 * (2 ^ 53 - 1) + 1) * 2 ^ s := by omega
      have := roundHalfEven_le_of_lt hnum
      omega
  · have := le_roundUnits Nat.one_pos (representable_two_pow (53 + s)) (by omega : _ * 1 ≤ num)
    omega

/-! ### Overflow -/

-- The exponents here are too large to evaluate: they are split by a lemma, or generalized.

theorem two_pow_split {a b c : Nat} (h : a = b + c) : 2 ^ a = 2 ^ b * 2 ^ c := by
  rw [h, Nat.pow_add]

theorem unitsPerOne_eq : unitsPerOne = 2 ^ 1074 := by
  unfold unitsPerOne
  generalize 1074 = k
  exact Nat.one_shiftLeft k

theorem unitsPerOne_pos : 0 < unitsPerOne := by
  rw [unitsPerOne_eq]
  generalize 1074 = k
  exact Nat.two_pow_pos k

theorem unitsLimit_eq : unitsLimit = 2 ^ (53 + 2045) := by
  unfold unitsLimit
  rw [show 53 + 2045 = 2098 from rfl]
  generalize 2098 = k
  exact Nat.one_shiftLeft k

end RollPad.Binary64

namespace RollPad.Magnitude

open Binary64

/-- The least natural number too large for a double: it lies halfway from the largest double to
`2 ^ 1024`. -/
def overflow : Nat := 2 ^ 1024 - 2 ^ 970

theorem overflow_eq : overflow = (2 ^ 54 - 1) * 2 ^ 970 := by
  unfold overflow
  rw [two_pow_split (a := 1024) (b := 54) (c := 970) rfl]
  generalize 2 ^ 970 = p
  omega

theorem overflow_pos : 0 < overflow := by
  rw [overflow_eq]
  generalize 970 = k
  exact Nat.mul_pos (by decide) (Nat.two_pow_pos k)

theorem two_mul_overflow_units : 2 * (overflow * unitsPerOne) = (2 ^ 54 - 1) * 2 ^ 2045 := by
  rw [overflow_eq, unitsPerOne_eq, two_pow_split (a := 2045) (b := 971) (c := 1074) rfl,
    two_pow_split (a := 971) (b := 1) (c := 970) rfl]
  generalize 2 ^ 970 = p
  generalize 2 ^ 1074 = u
  ring

theorem roundUnits_lt_unitsLimit_iff {n : Nat} :
    roundUnits (n * unitsPerOne) 1 < unitsLimit ↔ n < overflow := by
  have hunits : n * unitsPerOne < overflow * unitsPerOne ↔ n < overflow :=
    Nat.mul_lt_mul_right unitsPerOne_pos
  rw [unitsLimit_eq, roundUnits_lt_two_pow_iff, ← two_mul_overflow_units, ← hunits]
  omega

theorem ofNat?_eq_none_iff {n : Nat} : ofNat? n = none ↔ overflow ≤ n := by
  have hround := roundUnits_lt_unitsLimit_iff (n := n)
  simp only [ofNat?, ofRatio?]
  split <;> simp <;> omega

end RollPad.Magnitude

namespace RollPad.Binary64

theorem units_lt_of_inUnitInterval {negative : Bool} {m : Magnitude}
    (h : (finite negative m).inUnitInterval = true) : m.units < unitsPerOne := by
  simp only [inUnitInterval, Bool.and_eq_true, decide_eq_true_eq] at h
  exact h.2

/-- A draw below one times a magnitude is no larger than the magnitude. -/
theorem roundUnits_mul_le {draw : Nat} (hdraw : draw < unitsPerOne) (size : Magnitude) :
    roundUnits (draw * size.units) unitsPerOne ≤ size.units := by
  refine roundUnits_le unitsPerOne_pos size.representable ?_
  rw [Nat.mul_comm size.units]
  exact Nat.mul_le_mul_right size.units (Nat.le_of_lt hdraw)

theorem ofRatio?_of_lt {num den : Nat} (h : roundUnits num den < unitsLimit) :
    Magnitude.ofRatio? num den = some ⟨_, representable_roundUnits num den, h⟩ := by
  rw [Magnitude.ofRatio?, dif_pos h]

theorem ofRatio_of_some {negative : Bool} {num den : Nat} {m : Magnitude}
    (h : Magnitude.ofRatio? num den = some m) : ofRatio negative num den = .finite negative m := by
  unfold ofRatio
  rw [h]

/-- The product of a draw and a finite double is finite, and no larger. -/
theorem mul_of_inUnitInterval {draw : Binary64} (h : draw.inUnitInterval = true)
    (size : Magnitude) :
    ∃ negative m, draw.mul (.finite false size) = .finite negative m ∧ m.units ≤ size.units := by
  cases draw with
  | finite negative m =>
    have hround := roundUnits_mul_le (units_lt_of_inUnitInterval h) size
    have hsome := ofRatio?_of_lt (Nat.lt_of_le_of_lt hround size.bounded)
    exact ⟨_, _, ofRatio_of_some hsome, hround⟩
  | _ => cases h

end RollPad.Binary64
