import Mathlib.Data.Nat.Dist
import RollPad.Proofs.Binary64.Rounding

/-!
Rounding is to the nearest representable number. `Nearest` says so without the way in which it is
computed, with the rule for two that are equally near: the one with the even significand. The
rounding of the library keeps to it (`nearest_roundUnits`), is monotone (`roundUnits_mono`), does
not move a number that is representable, and reaches one from below only across the middle between
it and any smaller one (`roundUnits_lt_of_lt_middle`); so rounding up to a large number gains less
than a `2 ^ 53`rd part of it (`roundUnits_lt_of_mul_le`). No other number is nearest
(`Nearest.unique`).
-/

namespace RollPad.Binary64

/-- The significand of a number of units: its first 53 bits, or all if it has fewer. -/
def significand (units : Nat) : Nat :=
  units >>> excessBits units

/-- No representable number of units is nearer to `num / den`; if another is as near, this one has
an even significand. Distances are measured in parts of a unit, of which `den` make one. -/
structure Nearest (num den units : Nat) : Prop where
  representable : Representable units
  dist_le : ∀ R, Representable R → Nat.dist num (units * den) ≤ Nat.dist num (R * den)
  even_of_tie : ∀ R, Representable R → R ≠ units →
    Nat.dist num (units * den) = Nat.dist num (R * den) → significand units % 2 = 0

/-! ### The nearest integer -/

/-- A quotient is rounded by at most one half, and by just that only to an even integer. -/
theorem two_mul_dist_roundHalfEven (num : Nat) {den : Nat} (hden : 0 < den) :
    2 * Nat.dist num (roundHalfEven num den * den) ≤ den ∧
      (2 * Nat.dist num (roundHalfEven num den * den) = den → roundHalfEven num den % 2 = 0) := by
  have hnum := Nat.div_add_mod' num den
  have hmod := Nat.mod_lt num hden
  have hsucc : (num / den + 1) * den = num / den * den + den := Nat.succ_mul _ _
  have hparity : num / den % 2 = 0 ∨ num / den % 2 = 1 := Nat.mod_two_eq_zero_or_one _
  simp only [roundHalfEven, Nat.dist]
  split_ifs with hlow hhigh
  · omega
  · omega
  · rcases hparity with heven | hodd
    · rw [heven, Nat.add_zero]
      omega
    · rw [hodd]
      omega

/-- Two integers are at least one apart. -/
theorem le_dist_add_dist {m n : Nat} (hne : m ≠ n) (num den : Nat) :
    den ≤ Nat.dist num (n * den) + Nat.dist num (m * den) := by
  have hlt : ∀ {a b : Nat}, a < b → a * den + den ≤ b * den := fun h => by
    rw [← Nat.succ_mul]
    exact Nat.mul_le_mul_right den h
  simp only [Nat.dist]
  rcases Nat.lt_or_gt_of_ne hne with h | h
  · have := hlt h
    omega
  · have := hlt h
    omega

/-! ### The nearest representable number -/

/-- A representable number is a multiple of `2 ^ s`, or it lies below all multiples with 53 bits. -/
theorem Representable.eq_mul_two_pow_or_lt {R : Nat} (hR : Representable R) (s : Nat) :
    (∃ n, R = n * 2 ^ s) ∨ 0 < s ∧ R < 2 ^ 52 * 2 ^ s := by
  by_cases hlarge : 2 ^ (52 + s) ≤ R
  · obtain ⟨n, rfl⟩ := hR.two_pow_dvd hlarge
    exact .inl ⟨n, Nat.mul_comm _ _⟩
  · rw [Nat.pow_add] at hlarge
    rcases Nat.eq_zero_or_pos s with rfl | hs
    · exact .inl ⟨R, (Nat.mul_one R).symm⟩
    · exact .inr ⟨hs, Nat.lt_of_not_le hlarge⟩

/-- With excess bits the quotient has 53 others, and so has the rounded significand, or one unit
more. -/
theorem roundHalfEven_bounds (num den : Nat) :
    (0 < excessBits (num / den) →
        2 ^ 52 ≤ roundHalfEven num (den <<< excessBits (num / den))) ∧
      roundHalfEven num (den <<< excessBits (num / den)) ≤ 2 ^ 53 := by
  rw [Nat.shiftLeft_eq]
  constructor
  · intro hpos
    refine le_trans ?_ (div_le_roundHalfEven _ _)
    rw [← Nat.div_div_eq_div_mul, Nat.le_div_iff_mul_le (Nat.two_pow_pos _), ← Nat.pow_add]
    exact two_pow_le_of_excessBits hpos
  · refine (roundHalfEven_le _ _).trans ?_
    rw [← Nat.div_div_eq_div_mul, ← Nat.shiftRight_eq_div_pow]
    exact shiftRight_excess_lt _

/-- The significand of a number that is written as 53 bits and zeros, or as fewer bits. -/
theorem significand_of_lt {r s : Nat} (hlt : r < 2 ^ 53) (hge : 0 < s → 2 ^ 52 ≤ r) :
    significand (r * 2 ^ s) = r := by
  have hexcess : excessBits (r * 2 ^ s) = s := by
    rcases Nat.eq_zero_or_pos s with rfl | hs
    · rcases Nat.eq_zero_or_pos r with rfl | hr
      · rfl
      · have := (Nat.log2_lt hr.ne').2 hlt
        rw [excessBits, Nat.pow_zero, Nat.mul_one]
        omega
    · refine excessBits_eq ?_ ?_
      · rw [Nat.pow_add]
        exact Nat.mul_le_mul_right _ (hge hs)
      · rw [Nat.pow_add]
        exact Nat.mul_lt_mul_of_pos_right hlt (Nat.two_pow_pos s)
  rw [significand, Nat.shiftRight_eq_div_pow, hexcess, Nat.mul_div_cancel _ (Nat.two_pow_pos s)]

/-- The significand of a rounded number is even if the integer that it was rounded to is. -/
theorem significand_mul_two_pow {r s : Nat} (hle : r ≤ 2 ^ 53) (hge : 0 < s → 2 ^ 52 ≤ r)
    (heven : r % 2 = 0) : significand (r * 2 ^ s) % 2 = 0 := by
  rcases hle.lt_or_eq with hlt | rfl
  · rw [significand_of_lt hlt hge, heven]
  · have hexcess : excessBits (2 ^ 53 * 2 ^ s) = s + 1 := by
      rw [← Nat.pow_add]
      refine excessBits_eq ?_ ?_
      · exact Nat.pow_le_pow_right (by decide) (by omega)
      · exact Nat.pow_lt_pow_right (by decide) (by omega)
    rw [significand, Nat.shiftRight_eq_div_pow, hexcess, ← Nat.pow_add,
      Nat.pow_div (by omega) (by decide), show 53 + s - (s + 1) = 51 + 1 by omega, Nat.pow_succ,
      Nat.mul_mod_left]

/-- Rounding is to the nearest representable number, and if two are equally near, to the one with
the even significand. -/
theorem nearest_roundUnits (num : Nat) {den : Nat} (hden : 0 < den) :
    Nearest num den (roundUnits num den) := by
  obtain ⟨hge, hle⟩ := roundHalfEven_bounds num den
  have hrepr := representable_roundUnits num den
  have hbits := @two_pow_le_of_excessBits (num / den)
  have hq := Nat.div_mul_le_self num den
  simp only [roundUnits] at hrepr ⊢
  generalize excessBits (num / den) = s at *
  rw [Nat.shiftLeft_eq] at hge hle
  simp only [Nat.shiftLeft_eq] at hrepr ⊢
  have hunit : 0 < den * 2 ^ s := Nat.mul_pos hden (Nat.two_pow_pos s)
  obtain ⟨hhalf, heven⟩ := two_mul_dist_roundHalfEven num hunit
  generalize roundHalfEven num (den * 2 ^ s) = r at *
  have hscale : ∀ n, n * 2 ^ s * den = n * (den * 2 ^ s) := fun n => by ring
  -- a multiple of `2 ^ s` is an integer on the scale on which `r` is nearest
  have hdvd : ∀ n, Nat.dist num (r * 2 ^ s * den) ≤ Nat.dist num (n * 2 ^ s * den) ∧
      (n ≠ r → Nat.dist num (r * 2 ^ s * den) = Nat.dist num (n * 2 ^ s * den) → r % 2 = 0) := by
    intro n
    rw [hscale, hscale]
    rcases eq_or_ne n r with rfl | hne
    · exact ⟨le_rfl, fun h => absurd rfl h⟩
    · have := le_dist_add_dist hne num (den * 2 ^ s)
      exact ⟨by omega, fun _ htie => heven (by omega)⟩
  have hcases : ∀ R, Representable R → (∃ n, R = n * 2 ^ s) ∨
      Nat.dist num (r * 2 ^ s * den) < Nat.dist num (R * den) := by
    intro R hR
    refine (hR.eq_mul_two_pow_or_lt s).imp_right ?_
    rintro ⟨hs, hlt⟩
    -- `R` lies farther below the quotient than the least multiple with 53 bits
    have hmid := (hdvd (2 ^ 52)).1
    rw [Nat.pow_add] at hbits
    have hfar : R * den < 2 ^ 52 * 2 ^ s * den := Nat.mul_lt_mul_of_pos_right hlt hden
    have hnum : 2 ^ 52 * 2 ^ s * den ≤ num := (Nat.mul_le_mul_right den (hbits hs)).trans hq
    simp only [Nat.dist] at hmid ⊢
    omega
  refine ⟨hrepr, fun R hR => ?_, fun R hR hne htie => ?_⟩
  · rcases hcases R hR with ⟨n, rfl⟩ | hlt
    · exact (hdvd n).1
    · exact hlt.le
  · rcases hcases R hR with ⟨n, rfl⟩ | hlt
    · refine significand_mul_two_pow hle hge ((hdvd n).2 ?_ htie)
      rintro rfl
      exact hne rfl
    · exact absurd htie hlt.ne

/-! ### What follows for all ways of rounding to the nearest -/

theorem roundUnits_of_representable {R den : Nat} (hden : 0 < den) (hR : Representable R) :
    roundUnits (R * den) den = R :=
  le_antisymm (roundUnits_le hden hR le_rfl) (le_roundUnits hden hR le_rfl)

/-- Rounding never changes the order of two numbers. -/
theorem roundUnits_mono {num num' den : Nat} (hden : 0 < den) (h : num ≤ num') :
    roundUnits num den ≤ roundUnits num' den := by
  have hnear := nearest_roundUnits num hden
  have hnear' := nearest_roundUnits num' hden
  rcases Nat.le_total num (roundUnits num' den * den) with hle | hgt
  · exact roundUnits_le hden hnear'.representable hle
  rcases Nat.le_total (roundUnits num den * den) num' with hle | hgt'
  · exact le_roundUnits hden hnear.representable hle
  -- both numbers lie between their roundings, which are the wrong way round, so they are equal
  have hdist := hnear.dist_le _ hnear'.representable
  have hdist' := hnear'.dist_le _ hnear.representable
  simp only [Nat.dist] at hdist hdist'
  obtain rfl : num = num' := by omega
  exact le_rfl

/-- A number below the middle between two representable ones is not rounded to the greater. -/
theorem roundUnits_lt_of_lt_middle {num den P R : Nat} (hden : 0 < den) (hP : Representable P)
    (hlt : P < R) (h : 2 * num < (R + P) * den) : roundUnits num den < R := by
  by_contra hge
  have hR : R * den ≤ roundUnits num den * den := Nat.mul_le_mul_right den (Nat.le_of_not_lt hge)
  have hdist := (nearest_roundUnits num hden).dist_le P hP
  rw [Nat.add_mul] at h
  rcases Nat.le_total num (P * den) with hle | hle
  · exact hge ((roundUnits_le hden hP hle).trans_lt hlt)
  · simp only [Nat.dist] at hdist
    omega

/-- The rounding of a multiple of a power of two is one. -/
theorem two_pow_dvd_roundUnits {k num : Nat} (h : 2 ^ k ∣ num) : 2 ^ k ∣ roundUnits num 1 := by
  simp only [roundUnits, Nat.div_one, Nat.shiftLeft_eq, Nat.one_mul]
  generalize excessBits num = s
  rcases Nat.le_total k s with hks | hsk
  · exact Dvd.dvd.mul_left (Nat.pow_dvd_pow 2 hks) _
  · obtain ⟨n, rfl⟩ := (Nat.pow_dvd_pow 2 hsk).trans h
    rw [roundHalfEven, Nat.mul_mod_right, Nat.mul_div_cancel_left _ (Nat.two_pow_pos s)]
    simp only [Nat.mul_zero, Nat.two_pow_pos, if_true]
    rwa [Nat.mul_comm]

/-! ### How far rounding goes up -/

/-- A number of 53 bits or more with few significant bits is a significand of 53 bits and zeros. -/
theorem Representable.exists_significand {R : Nat} (hR : Representable R) (hlarge : 2 ^ 52 ≤ R) :
    ∃ m s, R = m * 2 ^ s ∧ 2 ^ 52 ≤ m ∧ m < 2 ^ 53 := by
  have hne : R ≠ 0 := by omega
  have hlog : 52 ≤ R.log2 := (Nat.le_log2 hne).2 hlarge
  have hsplit : 52 + (R.log2 - 52) = R.log2 := by omega
  obtain ⟨m, hm⟩ := hR.two_pow_dvd (hsplit ▸ Nat.log2_self_le hne)
  have hhigh : R < 2 ^ (53 + (R.log2 - 52)) :=
    Nat.lt_log2_self.trans_eq (congrArg (2 ^ ·) (by omega))
  have hlow : 2 ^ (52 + (R.log2 - 52)) ≤ R := hsplit.symm ▸ Nat.log2_self_le hne
  have hpos := Nat.two_pow_pos (R.log2 - 52)
  refine ⟨m, R.log2 - 52, by rw [Nat.mul_comm]; exact hm, ?_, ?_⟩
  · rw [Nat.pow_add, Nat.mul_comm] at hlow
    exact Nat.le_of_mul_le_mul_left (hlow.trans_eq hm) hpos
  · rw [Nat.pow_add, Nat.mul_comm] at hhigh
    exact Nat.lt_of_mul_lt_mul_left (hm.symm.trans_lt hhigh)

theorem representable_mul_two_pow {n : Nat} (h : n ≤ 2 ^ 53) (k : Nat) :
    Representable (n * 2 ^ k) := by
  rcases h.lt_or_eq with hlt | rfl
  · exact ⟨n, k, (Nat.shiftLeft_eq n k).symm, hlt⟩
  · rw [← Nat.pow_add]
    exact representable_two_pow _

/-- Close below a large representable number there is another one. -/
theorem Representable.exists_below {R : Nat} (hR : Representable R) (hlarge : 2 ^ 53 ≤ R) :
    ∃ P, Representable P ∧ P < R ∧ 2 ^ 53 * R < 2 ^ 53 * P + 2 * R := by
  obtain ⟨m, s, rfl, hlow, hhigh⟩ := hR.exists_significand (hlarge.trans' (by decide))
  have hpos := Nat.two_pow_pos s
  rcases hlow.lt_or_eq with hlt | rfl
  · refine ⟨(m - 1) * 2 ^ s, representable_mul_two_pow (by omega) s, ?_, ?_⟩
    · exact Nat.mul_lt_mul_of_pos_right (by omega) hpos
    · obtain ⟨n, rfl⟩ : ∃ n, m = n + 1 := ⟨m - 1, by omega⟩
      rw [Nat.add_sub_cancel, Nat.succ_mul]
      have : 2 ^ 52 * 2 ^ s ≤ n * 2 ^ s := Nat.mul_le_mul_right _ (by omega)
      omega
  · -- below a power of two the representable numbers lie twice as close
    obtain ⟨t, rfl⟩ : ∃ t, s = t + 1 := by
      refine ⟨s - 1, ?_⟩
      rcases Nat.eq_zero_or_pos s with rfl | hs
      · exact absurd hlarge (by decide)
      · omega
    refine ⟨(2 ^ 53 - 1) * 2 ^ t, representable_mul_two_pow (by decide) t, ?_, ?_⟩
    all_goals
      rw [Nat.pow_succ] at hpos ⊢
      omega

/-- A number that falls short of a large representable one by a `2 ^ 53`rd part of it, or by more,
is not rounded up to it. -/
theorem roundUnits_lt_of_mul_le {num den R : Nat} (hden : 0 < den) (hR : Representable R)
    (hlarge : 2 ^ 53 ≤ R) (h : 2 ^ 53 * num ≤ (2 ^ 53 - 1) * (R * den)) :
    roundUnits num den < R := by
  obtain ⟨P, hP, hlt, hclose⟩ := hR.exists_below hlarge
  refine roundUnits_lt_of_lt_middle hden hP hlt ?_
  have hscaled := Nat.mul_lt_mul_of_pos_right hclose hden
  rw [Nat.add_mul, Nat.mul_assoc, Nat.mul_assoc, Nat.mul_assoc] at hscaled
  rw [Nat.add_mul]
  omega

/-! ### One nearest number -/

/-- Of two representable numbers, the lesser has a next one above it that does not pass the greater;
of two neighbours one has an odd significand. -/
theorem Representable.exists_next {a b : Nat} (ha : Representable a) (hb : Representable b)
    (hlt : a < b) :
    ∃ c, Representable c ∧ a < c ∧ c ≤ b ∧
      (significand a % 2 = 0 → significand c % 2 = 1) := by
  obtain ⟨k, hk⟩ := ha.two_pow_excessBits_dvd le_rfl
  obtain ⟨m, hm⟩ := hb.two_pow_excessBits_dvd hlt.le
  have hbits := @two_pow_le_of_excessBits a
  have hsignificand : significand a = k := by
    rw [significand, Nat.shiftRight_eq_div_pow]
    exact Nat.div_eq_of_eq_mul_right (Nat.two_pow_pos _) hk
  have hsmall : k < 2 ^ 53 := hsignificand ▸ shiftRight_excess_lt a
  generalize excessBits a = s at *
  have hpos := Nat.two_pow_pos s
  rw [Nat.mul_comm] at hk hm
  subst hk hm
  have hkm : k + 1 ≤ m := Nat.lt_of_mul_lt_mul_right hlt
  refine ⟨(k + 1) * 2 ^ s, representable_mul_two_pow hsmall s, ?_, Nat.mul_le_mul_right _ hkm,
    fun heven => ?_⟩
  · exact Nat.mul_lt_mul_of_pos_right (Nat.lt_succ_self k) hpos
  · rw [hsignificand] at heven
    have hge : 0 < s → 2 ^ 52 ≤ k + 1 := fun hs => by
      have hlow := hbits hs
      rw [Nat.pow_add] at hlow
      exact (Nat.le_of_mul_le_mul_right hlow hpos).trans (Nat.le_succ k)
    rw [significand_of_lt (by omega) hge]
    omega

/-- There is one nearest number. -/
theorem Nearest.unique {num den a b : Nat} (hden : 0 < den) (ha : Nearest num den a)
    (hb : Nearest num den b) : a = b := by
  have hnot : ∀ {a b}, Nearest num den a → Nearest num den b → ¬a < b := by
    intro a b ha hb hlt
    have htie : Nat.dist num (a * den) = Nat.dist num (b * den) :=
      le_antisymm (ha.dist_le b hb.representable) (hb.dist_le a ha.representable)
    obtain ⟨c, hc, hac, hcb, hodd⟩ := ha.representable.exists_next hb.representable hlt
    rcases hcb.lt_or_eq with hcb | rfl
    · -- what lies between two numbers that are equally near is nearer
      have hfar := ha.dist_le c hc
      have hlow : a * den < c * den := Nat.mul_lt_mul_of_pos_right hac hden
      have hhigh : c * den < b * den := Nat.mul_lt_mul_of_pos_right hcb hden
      simp only [Nat.dist] at htie hfar
      omega
    · have heven := ha.even_of_tie c hc hac.ne' htie
      have heven' := hb.even_of_tie a ha.representable hac.ne htie.symm
      have := hodd heven
      omega
  exact le_antisymm (Nat.le_of_not_lt (hnot hb ha)) (Nat.le_of_not_lt (hnot ha hb))

end RollPad.Binary64
