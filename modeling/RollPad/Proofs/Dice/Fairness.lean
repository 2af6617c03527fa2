import Mathlib.Data.Fintype.Fin
import Mathlib.Order.Interval.Finset.Nat
import RollPad.Proofs.Dice.Faces

/-!
How often each face comes up. The draws of a system source are the fractions `j / 2 ^ 53`, all as
likely as each other. Rounding keeps the order of the products, and moves one up to an integer only
from less than the step between neighbouring draws below it (`mul_lt_of_succ_le_fractionFace`). So
of the draws that should show a face at most one at either end shows another, and all faces of a
die come up about equally often (`dieFace_fair`).
-/

namespace RollPad

open Binary64

theorem Binary64.shiftLeft_lt_shiftLeft {a b : Nat} (h : a < b) (k : Nat) : a <<< k < b <<< k := by
  rw [Nat.shiftLeft_eq, Nat.shiftLeft_eq]
  exact Nat.mul_lt_mul_of_pos_right h (Nat.two_pow_pos k)

/-- The double `j / 2 ^ 53`. -/
def Magnitude.fraction (j : Fin (2 ^ 53)) : Magnitude where
  units := j.val <<< 1021
  representable := ⟨j, 1021, rfl, j.isLt.trans_eq (by decide)⟩
  bounded := (shiftLeft_lt_shiftLeft j.isLt 1021).trans (by decide +kernel)

namespace Magnitude

theorem units_fraction (j : Fin (2 ^ 53)) : 2 ^ 53 * (fraction j).units = j * unitsPerOne := by
  have hscale : ∀ k, 2 ^ 53 * (j.val <<< k) = j * (1 <<< (53 + k)) := fun k => by
    rw [Nat.shiftLeft_eq, Nat.shiftLeft_eq, Nat.pow_add]
    ring
  exact hscale 1021

theorem units_fraction_mono {i j : Fin (2 ^ 53)} (h : i ≤ j) :
    (fraction i).units ≤ (fraction j).units := by
  have hi := units_fraction i
  have hj := units_fraction j
  have hmul : i.val * unitsPerOne ≤ j.val * unitsPerOne := Nat.mul_le_mul_right _ h
  omega

theorem inUnitInterval_fraction (j : Fin (2 ^ 53)) :
    (finite false (fraction j)).inUnitInterval = true := by
  have hj := units_fraction j
  have hmul : j.val * unitsPerOne < 2 ^ 53 * unitsPerOne :=
    Nat.mul_lt_mul_of_pos_right j.isLt unitsPerOne_pos
  have hlt : (fraction j).units < unitsPerOne := by omega
  simp [inUnitInterval, hlt]

end Magnitude

/-! ### The face for a fraction -/

/-- The face that a die with so many sides shows for the draw `j / 2 ^ 53`. -/
def fractionFace (sides : Nat) (j : Fin (2 ^ 53)) : Nat :=
  roundUnits ((Magnitude.fraction j).units * (sides * unitsPerOne)) unitsPerOne / unitsPerOne + 1

section Face

variable {sides : Nat}

theorem dieFace_fraction (h : sides ≤ 2 ^ 53) (j : Fin (2 ^ 53)) :
    dieFace sides (.finite false (Magnitude.fraction j)) = .ok (fractionFace sides j : Nat) := by
  obtain ⟨m, hm⟩ := Magnitude.exists_units_eq h
  obtain ⟨size, hsize⟩ := Magnitude.exists_ofNat? (Magnitude.lt_overflow h)
  rw [dieFace_of_inUnitInterval hsize (Magnitude.inUnitInterval_fraction j),
    Magnitude.units_of_ofNat?_of_units_eq hm hsize]
  rfl

theorem fractionFace_mono : Monotone (fractionFace sides) := by
  intro i j h
  have hunits := Nat.mul_le_mul_right (sides * unitsPerOne) (Magnitude.units_fraction_mono h)
  exact Nat.succ_le_succ (Nat.div_le_div_right (roundUnits_mono unitsPerOne_pos hunits))

theorem succ_le_fractionFace_iff {b : Nat} {j : Fin (2 ^ 53)} :
    b + 1 ≤ fractionFace sides j ↔
      b * unitsPerOne ≤
        roundUnits ((Magnitude.fraction j).units * (sides * unitsPerOne)) unitsPerOne := by
  rw [fractionFace, Nat.add_le_add_iff_right, Nat.le_div_iff_mul_le unitsPerOne_pos]

/-- A product that reaches an integer is not rounded below it. -/
theorem succ_le_fractionFace {b : Nat} {j : Fin (2 ^ 53)} (hb : b ≤ 2 ^ 53)
    (h : b * 2 ^ 53 ≤ j * sides) : b + 1 ≤ fractionFace sides j := by
  obtain ⟨m, hm⟩ := Magnitude.exists_units_eq hb
  have hunits := Magnitude.units_fraction j
  rw [succ_le_fractionFace_iff]
  refine le_roundUnits unitsPerOne_pos (hm ▸ m.representable) ?_
  refine Nat.le_of_mul_le_mul_left ?_ (by decide : 0 < 2 ^ 53)
  calc 2 ^ 53 * (b * unitsPerOne * unitsPerOne)
      = b * 2 ^ 53 * (unitsPerOne * unitsPerOne) := by ring
    _ ≤ j * sides * (unitsPerOne * unitsPerOne) := Nat.mul_le_mul_right _ h
    _ = j * unitsPerOne * (sides * unitsPerOne) := by ring
    _ = 2 ^ 53 * ((Magnitude.fraction j).units * (sides * unitsPerOne)) := by
      rw [← hunits, Nat.mul_assoc]

/-- A product is rounded up to an integer only if that of the next draw exceeds it. -/
theorem mul_lt_of_succ_le_fractionFace {b : Nat} {j : Fin (2 ^ 53)} (hpos : 1 ≤ b) (hb : b ≤ sides)
    (hsides : sides ≤ 2 ^ 53) (h : b + 1 ≤ fractionFace sides j) :
    b * 2 ^ 53 < (j + 1) * sides := by
  obtain ⟨m, hm⟩ := Magnitude.exists_units_eq (hb.trans hsides)
  have hunits := Magnitude.units_fraction j
  have hlarge : 2 ^ 53 ≤ b * unitsPerOne := by
    refine le_trans ?_ (Nat.le_mul_of_pos_left _ hpos)
    decide +kernel
  rw [succ_le_fractionFace_iff] at h
  have hgain := mt (roundUnits_lt_of_mul_le unitsPerOne_pos (hm ▸ m.representable) hlarge)
    h.not_gt
  have hproduct : (2 ^ 53 - 1) * b < j * sides := by
    refine Nat.lt_of_mul_lt_mul_right (a := unitsPerOne * unitsPerOne) ?_
    calc (2 ^ 53 - 1) * b * (unitsPerOne * unitsPerOne)
        = (2 ^ 53 - 1) * (b * unitsPerOne * unitsPerOne) := by ring
      _ < 2 ^ 53 * ((Magnitude.fraction j).units * (sides * unitsPerOne)) := Nat.lt_of_not_le hgain
      _ = j * sides * (unitsPerOne * unitsPerOne) := by rw [← Nat.mul_assoc, hunits]; ring
  rw [Nat.succ_mul]
  omega

/-! ### Counting draws -/

/-- The draws that show a face, by their numbers. -/
def drawsOf (sides k : Nat) : Finset Nat :=
  (Finset.univ.filter fun j => fractionFace sides j = k).map Fin.valEmbedding

theorem mem_drawsOf {k n : Nat} :
    n ∈ drawsOf sides k ↔ ∃ j : Fin (2 ^ 53), fractionFace sides j = k ∧ j = n := by
  simp [drawsOf]

/-- Draws inside the range of a face show it, but for the last one. -/
theorem Ico_subset_drawsOf {a : Nat} (ha : a < sides) (hsides : sides ≤ 2 ^ 53) :
    Finset.Ico ((a * 2 ^ 53 + sides - 1) / sides) ((a + 1) * 2 ^ 53 / sides) ⊆
      drawsOf sides (a + 1) := by
  intro n hn
  obtain ⟨hlow, hhigh⟩ := Finset.mem_Ico.1 hn
  have hpos : 0 < sides := by omega
  have hfrom : a * 2 ^ 53 ≤ n * sides := by
    have h := (Nat.div_lt_iff_lt_mul hpos).1 (Nat.lt_succ_of_le hlow)
    rw [Nat.succ_mul] at h
    omega
  have hto : (n + 1) * sides ≤ (a + 1) * 2 ^ 53 := (Nat.le_div_iff_mul_le hpos).1 hhigh
  have hn : n < 2 ^ 53 := by
    have h := hto.trans (Nat.mul_le_mul_right (2 ^ 53) ha)
    rw [Nat.mul_comm sides] at h
    exact Nat.le_of_mul_le_mul_right h hpos
  refine mem_drawsOf.2 ⟨⟨n, hn⟩, le_antisymm ?_ ?_, rfl⟩
  · by_contra hface
    exact absurd (mul_lt_of_succ_le_fractionFace (Nat.le_add_left 1 a) ha hsides
      (Nat.lt_of_not_le hface)) hto.not_gt
  · exact succ_le_fractionFace (by omega) hfrom

/-- Draws that show a face lie in its range, but for one in front. -/
theorem drawsOf_subset_Ico {a : Nat} (ha : a < sides) (hsides : sides ≤ 2 ^ 53) :
    drawsOf sides (a + 1) ⊆
      Finset.Ico (a * 2 ^ 53 / sides) (((a + 1) * 2 ^ 53 + sides - 1) / sides) := by
  intro n hn
  obtain ⟨j, hface, rfl⟩ := mem_drawsOf.1 hn
  have hpos : 0 < sides := by omega
  refine Finset.mem_Ico.2 ⟨?_, ?_⟩
  · rcases Nat.eq_zero_or_pos a with rfl | hapos
    · simp
    · refine Nat.le_of_lt_succ ((Nat.div_lt_iff_lt_mul hpos).2 ?_)
      exact mul_lt_of_succ_le_fractionFace hapos ha.le hsides hface.ge
  · refine (Nat.le_div_iff_mul_le hpos).2 ?_
    have hbelow : j * sides < (a + 1) * 2 ^ 53 := by
      by_contra hge
      have := succ_le_fractionFace (ha.trans_le hsides) (Nat.le_of_not_lt hge)
      omega
    rw [Nat.succ_mul]
    omega

theorem card_drawsOf (k : Nat) :
    (drawsOf sides k).card = (Finset.univ.filter fun j => fractionFace sides j = k).card :=
  Finset.card_map _

/-- Each face has its share of the draws, or one more or less. -/
theorem card_drawsOf_bounds {a : Nat} (ha : a < sides) (hsides : sides ≤ 2 ^ 53) :
    2 ^ 53 / sides - 1 ≤ (drawsOf sides (a + 1)).card ∧
      (drawsOf sides (a + 1)).card ≤ (2 ^ 53 + sides - 1) / sides + 1 := by
  have hpos : 0 < sides := by omega
  have hlow := Finset.card_le_card (Ico_subset_drawsOf ha hsides)
  have hhigh := Finset.card_le_card (drawsOf_subset_Ico ha hsides)
  rw [Nat.card_Ico, Nat.succ_mul] at hlow hhigh
  generalize a * 2 ^ 53 = start at *
  have hstep : start / sides + 2 ^ 53 / sides ≤ (start + 2 ^ 53) / sides := by
    rw [Nat.add_div hpos]
    exact Nat.le_add_right _ _
  have hceil : (start + sides - 1) / sides ≤ start / sides + 1 := by
    rw [← Nat.add_div_right _ hpos]
    exact Nat.div_le_div_right (Nat.sub_le _ _)
  have hlast : (start + 2 ^ 53 + sides - 1) / sides ≤
      start / sides + (2 ^ 53 + sides - 1) / sides + 1 := by
    rw [show start + 2 ^ 53 + sides - 1 = start + (2 ^ 53 + sides - 1) by omega, Nat.add_div hpos]
    split <;> omega
  exact ⟨le_trans (by omega) hlow, hhigh.trans (Nat.sub_le_of_le_add (by omega))⟩

end Face

/-- The draws of a system source give a die with up to `2 ^ 52` sides faces that do not decrease as
the draws grow, all of them from one up to the number of sides, and each of these about as often as
any other. -/
theorem dieFace_fair {sides : Nat} (hpos : 1 ≤ sides) (hsides : sides ≤ 2 ^ 52) :
    ∃ face : Fin (2 ^ 53) → Nat,
      (∀ j, dieFace sides (.finite false (Magnitude.fraction j)) = .ok (face j)) ∧
        Monotone face ∧ (∀ j, 1 ≤ face j ∧ face j ≤ sides) ∧
        ∀ k, 1 ≤ k → k ≤ sides →
          2 ^ 53 / sides - 1 ≤ (Finset.univ.filter fun j => face j = k).card ∧
            (Finset.univ.filter fun j => face j = k).card ≤
              (2 ^ 53 + sides - 1) / sides + 1 ∧
            ∃ j, face j = k := by
  have hdouble : sides ≤ 2 ^ 53 := hsides.trans (by decide)
  refine ⟨fractionFace sides, dieFace_fraction hdouble, fractionFace_mono, fun j => ?_, ?_⟩
  · obtain ⟨size, hsize⟩ := Magnitude.exists_ofNat? (Magnitude.lt_overflow hdouble)
    obtain ⟨m, hm⟩ := Magnitude.exists_units_eq hdouble
    have htop := Magnitude.units_of_ofNat?_of_units_eq hm hsize
    have hle := product_lt hpos hsize (Magnitude.inUnitInterval_fraction j) htop
    rw [htop] at hle
    exact ⟨Nat.le_add_left 1 _, hle⟩
  · intro k hk hle
    obtain ⟨a, rfl⟩ : ∃ a, k = a + 1 := ⟨k - 1, by omega⟩
    obtain ⟨hlow, hhigh⟩ := card_drawsOf_bounds hle hdouble
    have htwo : 2 ≤ 2 ^ 53 / sides := (Nat.le_div_iff_mul_le hpos).2 (by omega)
    obtain ⟨n, hn⟩ := Finset.card_pos.1 (show 0 < (drawsOf sides (a + 1)).card by omega)
    obtain ⟨j, hj, -⟩ := mem_drawsOf.1 hn
    rw [card_drawsOf] at hlow hhigh
    exact ⟨hlow, hhigh, j, hj⟩

/-- A die with three sides: no power of two is a multiple of three. -/
theorem dieFace_fair_three_sides :
    1 ≤ 3 ∧ 3 ≤ 2 ^ 52 ∧ ∃ face : Fin (2 ^ 53) → Nat,
      (∀ j, dieFace 3 (.finite false (Magnitude.fraction j)) = .ok (face j)) ∧ Monotone face ∧
        3002399751580329 ≤ (Finset.univ.filter fun j => face j = 2).card ∧
        (Finset.univ.filter fun j => face j = 2).card ≤ 3002399751580332 := by
  obtain ⟨face, hface, hmono, -, hcount⟩ :=
    dieFace_fair (by decide : 1 ≤ 3) (by decide : 3 ≤ 2 ^ 52)
  obtain ⟨hlow, hhigh, -⟩ := hcount 2 (by decide) (by decide)
  exact ⟨by decide, by decide, face, hface, hmono, hlow, hhigh⟩

end RollPad
