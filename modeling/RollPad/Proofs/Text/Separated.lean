import RollPad.Proofs.Text.Decimal

/-!
Texts put together from pieces, and taken apart again. A text whose pieces keep to a class of
characters can be cut at the first character outside the class, or before the last, and in no other
way (`append_inj_of_break`, `append_inj_of_break_last`). So pieces between separators that begin
outside the class can be told from the text (`intercalate_inj`), and so can numbers.
-/

namespace RollPad.Text

section Pieces

variable {p : Char → Bool}

/-! ### Cutting -/

theorem takeWhile_append_of_break {u x : List Char} (hu : ∀ c ∈ u, p c = true)
    (hx : ∀ c ∈ x.head?, p c = false) : (u ++ x).takeWhile p = u := by
  rw [List.takeWhile_append_of_pos hu]
  cases x with
  | nil => simp
  | cons c x => simp [hx c rfl]

/-- Two texts that are the same up to where the class is left first are the same there and beyond.
-/
theorem append_inj_of_break {u v x y : List Char} (hu : ∀ c ∈ u, p c = true)
    (hv : ∀ c ∈ v, p c = true) (hx : ∀ c ∈ x.head?, p c = false)
    (hy : ∀ c ∈ y.head?, p c = false) (h : u ++ x = v ++ y) : u = v ∧ x = y := by
  obtain rfl : u = v := by
    rw [← takeWhile_append_of_break hu hx, h, takeWhile_append_of_break hv hy]
  exact ⟨rfl, List.append_cancel_left h⟩

theorem append_inj_of_break_last {u v x y : List Char} (hu : ∀ c ∈ u.getLast?, p c = false)
    (hv : ∀ c ∈ v.getLast?, p c = false) (hx : ∀ c ∈ x, p c = true) (hy : ∀ c ∈ y, p c = true)
    (h : u ++ x = v ++ y) : u = v ∧ x = y := by
  have hreverse : x.reverse ++ u.reverse = y.reverse ++ v.reverse := by
    rw [← List.reverse_append, h, List.reverse_append]
  rw [← List.head?_reverse] at hu hv
  obtain ⟨hxy, huv⟩ := append_inj_of_break (by simpa using hx) (by simpa using hy) hu hv hreverse
  exact ⟨List.reverse_inj.1 huv, List.reverse_inj.1 hxy⟩

/-! ### Pieces between separators -/

theorem mem_intercalate {sep : List Char} {ws : List (List Char)} {c : Char}
    (hc : c ∈ sep.intercalate ws) : c ∈ sep ∨ ∃ w ∈ ws, c ∈ w := by
  induction ws with
  | nil => simp at hc
  | cons w ws ih =>
    by_cases hws : ws = []
    · subst hws
      exact .inr ⟨w, List.mem_cons_self, by simpa using hc⟩
    · rw [List.intercalate_cons_of_ne_nil hws, List.mem_append, List.mem_append] at hc
      rcases hc with (hw | hsep) | hrest
      · exact .inr ⟨w, List.mem_cons_self, hw⟩
      · exact .inl hsep
      · rcases ih hrest with hsep | ⟨v, hv, hcv⟩
        · exact .inl hsep
        · exact .inr ⟨v, List.mem_cons_of_mem _ hv, hcv⟩

/-- What follows the first piece: nothing, or a separator and the other pieces. -/
theorem intercalate_cons_eq (sep w : List Char) (ws : List (List Char)) :
    sep.intercalate (w :: ws) = w ++ if ws = [] then [] else sep ++ sep.intercalate ws := by
  by_cases hws : ws = []
  · simp [hws]
  · simp [List.intercalate_cons_of_ne_nil hws, hws]

/-- Pieces that are not empty and keep to a class can be told from the text, where the separator
begins outside the class. -/
theorem intercalate_inj {sep : List Char} {first : Char} (hsep : sep.head? = some first)
    (hfirst : p first = false) {us vs : List (List Char)}
    (hus : ∀ u ∈ us, u ≠ [] ∧ ∀ c ∈ u, p c = true) (hvs : ∀ v ∈ vs, v ≠ [] ∧ ∀ c ∈ v, p c = true)
    (h : sep.intercalate us = sep.intercalate vs) : us = vs := by
  have hbreak : ∀ ws : List (List Char),
      ∀ c ∈ (if ws = [] then [] else sep ++ sep.intercalate ws).head?, p c = false := by
    intro ws c hc
    by_cases hws : ws = []
    · simp [hws] at hc
    · obtain rfl : first = c := by simpa [hws, hsep] using hc
      exact hfirst
  induction us generalizing vs with
  | nil =>
    cases vs with
    | nil => rfl
    | cons v vs =>
      have hv := (hvs v List.mem_cons_self).1
      rw [intercalate_cons_eq] at h
      simp [hv] at h
  | cons u us ih =>
    obtain ⟨hu, hurest⟩ := List.forall_mem_cons.1 hus
    cases vs with
    | nil =>
      rw [intercalate_cons_eq] at h
      simp [hu.1] at h
    | cons v vs =>
      obtain ⟨hv, hvrest⟩ := List.forall_mem_cons.1 hvs
      rw [intercalate_cons_eq, intercalate_cons_eq] at h
      obtain ⟨rfl, hrest⟩ := append_inj_of_break hu.2 hv.2 (hbreak us) (hbreak vs) h
      have hne : sep ≠ [] := by
        rintro rfl
        simp at hsep
      -- a separator follows on both sides or on neither
      by_cases hunil : us = [] <;> by_cases hvnil : vs = []
      · rw [hunil, hvnil]
      · simp [hunil, hvnil, hne] at hrest
      · simp [hunil, hvnil, hne] at hrest
      · rw [if_neg hunil, if_neg hvnil] at hrest
        rw [ih hurest hvrest (List.append_cancel_left hrest)]

end Pieces

/-! ### Numbers -/

/-- The characters of a number in decimal notation. -/
def isNumeric (c : Char) : Bool :=
  c.isDigit || c == '-'

theorem isNumeric_of_mem_repr {n : Int} {c : Char} (hc : c ∈ n.repr.toList) :
    isNumeric c = true := by
  have hdigits : ∀ {m : Nat}, c ∈ m.repr.toList → isNumeric c = true := by
    intro m hm
    rw [Nat.toList_repr] at hm
    simp [isNumeric, isDigit_of_mem_toDigits hm]
  rw [Int.repr_eq_if] at hc
  split at hc
  · exact hdigits hc
  · rw [String.toList_append, List.mem_append] at hc
    rcases hc with hc | hc
    · obtain rfl : c = '-' := by simpa using hc
      decide
    · exact hdigits hc

theorem repr_ne_nil (n : Int) : n.repr.toList ≠ [] := by
  rw [Int.repr_eq_if]
  split
  · simp [Nat.toDigits_ne_nil]
  · simp

/-- A natural number is told by its digits, which read as it. -/
theorem toDigits_injective : Function.Injective (Nat.toDigits 10) := by
  intro n m h
  rw [← Nat.ofDigitChars_ten_toDigits (n := n), h, Nat.ofDigitChars_ten_toDigits]

/-- An integer is told by its notation: only a negative one begins with a sign. -/
theorem repr_injective : Function.Injective Int.repr := by
  intro n m h
  have hlist := congrArg String.toList h
  have hsign : ∀ k : Nat, ∀ ds : List Char, '-' :: ds ≠ Nat.toDigits 10 k := by
    intro k ds heq
    have hminus : '-' ∈ Nat.toDigits 10 k := heq ▸ List.mem_cons_self
    exact absurd (isDigit_of_mem_toDigits hminus) (by decide)
  rw [Int.repr_eq_if, Int.repr_eq_if] at hlist
  split at hlist <;> split at hlist <;> simp only [String.toList_append, Nat.toList_repr] at hlist
  · have := toDigits_injective hlist
    omega
  · exact absurd hlist.symm (hsign _ _)
  · exact absurd hlist (hsign _ _)
  · have := toDigits_injective (List.append_cancel_left hlist)
    omega

end RollPad.Text
