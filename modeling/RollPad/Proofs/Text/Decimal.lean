import Mathlib.Algebra.Order.Ring.Int
import Mathlib.Data.List.Basic
import Mathlib.Data.List.Induction
import RollPad.Text.Integer

/-!
Decimal numerals. `Nat.ofDigitChars` reads a run of digits and `Nat.toDigits` writes a number
without leading zeros; reading after writing is the identity. The other way round a run comes back
exactly if it does not begin with a zero (`toDigits_ofDigitChars`), and a number is below the power
of ten with as many zeros as its run has digits (`ofDigitChars_lt`).
-/

namespace RollPad.Text

/-! ### One digit -/

theorem toNat_of_isDigit {c : Char} (hc : c.isDigit = true) : 48 ≤ c.toNat ∧ c.toNat ≤ 57 :=
  Char.isDigit_iff_toNat.1 hc

theorem digitChar_of_isDigit {c : Char} (hc : c.isDigit = true) :
    (c.toNat - 48).digitChar = c := by
  have := toNat_of_isDigit hc
  rw [← Char.toNat_inj, Nat.toNat_digitChar_of_lt_ten (by omega)]
  omega

theorem isDigit_of_mem_toDigits {n : ℕ} {c : Char} (hc : c ∈ Nat.toDigits 10 n) :
    c.isDigit = true :=
  Nat.isDigit_of_mem_toDigits (by decide) (by decide) hc

/-! ### Runs of digits -/

theorem ofDigitChars_concat (ds : List Char) (c : Char) :
    Nat.ofDigitChars 10 (ds ++ [c]) 0 = 10 * Nat.ofDigitChars 10 ds 0 + (c.toNat - 48) := by
  rw [Nat.ofDigitChars_append, Nat.ofDigitChars_cons, Nat.ofDigitChars_nil]
  rfl

theorem ofDigitChars_lt {ds : List Char} (hds : ∀ c ∈ ds, c.isDigit = true) :
    Nat.ofDigitChars 10 ds 0 < 10 ^ ds.length := by
  induction ds using List.reverseRecOn with
  | nil => simp
  | append_singleton ds c ih =>
    have hlt := ih fun d hd => hds d (List.mem_append_left _ hd)
    have hc := toNat_of_isDigit (hds c (by simp))
    rw [ofDigitChars_concat, List.length_append, List.length_singleton, Nat.pow_succ]
    omega

/-- A run without a leading zero is how its number is written. -/
theorem toDigits_ofDigitChars {ds : List Char} (hne : ds ≠ [])
    (hds : ∀ c ∈ ds, c.isDigit = true) (hzero : ds.head? ≠ some '0') :
    Nat.toDigits 10 (Nat.ofDigitChars 10 ds 0) = ds := by
  induction ds using List.reverseRecOn with
  | nil => exact absurd rfl hne
  | append_singleton ds c ih =>
    have hc := toNat_of_isDigit (hds c (by simp))
    have hlast : Nat.toDigits 10 (c.toNat - 48) = [c] := by
      rw [Nat.toDigits_of_lt_base (by omega), digitChar_of_isDigit (hds c (by simp))]
    rw [ofDigitChars_concat]
    cases hd : ds with
    | nil => simpa using hlast
    | cons d rest =>
      rw [← hd]
      have hhead : ds.head? ≠ some '0' := by
        rwa [List.head?_append_of_ne_nil _ (by simp [hd])] at hzero
      have hwritten := ih (by simp [hd]) (fun e he => hds e (List.mem_append_left _ he)) hhead
      -- the number so far is positive, for zero is written with a leading zero
      have hpos : 0 < Nat.ofDigitChars 10 ds 0 := by
        refine Nat.pos_of_ne_zero fun h => hhead ?_
        rw [← hwritten, h, Nat.toDigits_zero]
        rfl
      rw [← Nat.toDigits_append_toDigits (by decide) hpos (by omega), hwritten, hlast]

/-- No positive number is written with a leading zero. -/
theorem head?_toDigits_ne_zero {n : ℕ} (hn : 0 < n) : (Nat.toDigits 10 n).head? ≠ some '0' := by
  induction n using Nat.strongRecOn with
  | ind n ih =>
    rw [Nat.toDigits_eq_if (by decide)]
    split
    · simpa using Nat.ne_of_gt hn
    · rw [List.head?_append_of_ne_nil _ Nat.toDigits_ne_nil]
      exact ih (n / 10) (by omega) (by omega)

end RollPad.Text
