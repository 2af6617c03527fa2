import RollPad.Proofs.Binary64.Rounding
import RollPad.Proofs.Dice.Roll

/-!
Rolls that fail. As long as all draws lie from zero up to one, nothing can go wrong with a die but
that its number of sides is too large for a double. `FailsOn` says of a roll for the elements of a
list for which of them it fails, and how many draws it takes; it holds of one die
(`failsOn_rollDie`), and `rollEach` carries it over to the dice of a term and to the terms of an
expression.
-/

namespace RollPad

/-- All draws of a source lie from zero up to one. -/
def Source.UnitDraws (s : Source) : Prop :=
  ∀ v ∈ s.values, v.inUnitInterval = true

instance (s : Source) : Decidable s.UnitDraws :=
  inferInstanceAs (Decidable (∀ v ∈ s.values, v.inUnitInterval = true))

/-- With draws from zero up to one, a roll fails exactly for the elements with a property, for
their number of sides and after one draw; for any other it takes so many draws and succeeds. -/
structure FailsOn {α β : Type} (roll : α → Source → Except DieError β × Source) (P : α → Prop)
    (cost : α → Nat) : Prop where
  fails {x : α} {s : Source} : s.UnitDraws → P x → roll x s = (.error .sidesTooLarge, s.advance 1)
  answers {x : α} {s : Source} : s.UnitDraws → ¬P x → ∃ y, roll x s = (.ok y, s.advance (cost x))

/-! ### Sources -/

theorem Source.UnitDraws.advance {s : Source} (h : s.UnitDraws) (n : Nat) :
    (s.advance n).UnitDraws :=
  h

theorem Source.UnitDraws.drawAt {s : Source} (h : s.UnitDraws) (j : Nat) :
    (s.drawAt j).inUnitInterval = true :=
  h _ (List.get_mem _ _)

/-! ### One die -/

theorem dieFace_of_overflow {sides : Nat} (h : Magnitude.overflow ≤ sides) (draw : Binary64) :
    dieFace sides draw = .error .sidesTooLarge := by
  rw [dieFace, Magnitude.ofNat?_eq_none_iff.2 h, faceFor]

/-- A number of sides that is a double gives a finite product with a draw below one. -/
theorem exists_dieFace {sides : Nat} {draw : Binary64} (hdraw : draw.inUnitInterval = true)
    (h : ¬Magnitude.overflow ≤ sides) : ∃ face, dieFace sides draw = .ok face := by
  obtain ⟨size, hsize⟩ := Option.ne_none_iff_exists'.1 (mt Magnitude.ofNat?_eq_none_iff.1 h)
  obtain ⟨negative, m, hmul, -⟩ := Binary64.mul_of_inUnitInterval hdraw size
  exact ⟨_, dieFace_eq_ok_iff.2 ⟨size, _, hsize, by rw [hmul, Binary64.floor], rfl⟩⟩

theorem failsOn_rollDie (sides : Nat) :
    FailsOn (fun _ : Nat => rollDie sides) (fun _ => Magnitude.overflow ≤ sides) fun _ => 1 where
  fails _ h := Prod.ext (dieFace_of_overflow h _) rfl
  answers hs h := by
    obtain ⟨face, hface⟩ := exists_dieFace (hs.drawAt _) h
    exact ⟨face, Prod.ext hface rfl⟩

/-! ### Lists -/

namespace FailsOn

variable {α β : Type} {roll : α → Source → Except DieError β × Source} {P : α → Prop}
  {cost : α → Nat}

theorem rollEach_of_none (hroll : FailsOn roll P cost) {xs : List α} {s : Source}
    (hs : s.UnitDraws) (h : ∀ x ∈ xs, ¬P x) :
    ∃ ys, rollEach roll xs s = (.ok ys, s.advance (xs.map cost).sum) := by
  induction xs generalizing s with
  | nil => exact ⟨[], rfl⟩
  | cons x xs ih =>
    obtain ⟨hx, hxs⟩ := List.forall_mem_cons.1 h
    obtain ⟨y, hy⟩ := hroll.answers hs hx
    obtain ⟨ys, hys⟩ := ih (hs.advance (cost x)) hxs
    refine ⟨y :: ys, rollEach_cons_eq_ok_iff.2 ⟨y, _, ys, hy, ?_, rfl⟩⟩
    rw [hys, Source.advance_advance, List.map_cons, List.sum_cons]

theorem rollEach_of_first (hroll : FailsOn roll P cost) {before after : List α} {x : α}
    {s : Source} (hs : s.UnitDraws) (hbefore : ∀ y ∈ before, ¬P y) (hx : P x) :
    rollEach roll (before ++ x :: after) s =
      (.error .sidesTooLarge, s.advance ((before.map cost).sum + 1)) := by
  induction before generalizing s with
  | nil =>
    rw [List.nil_append, rollEach, hroll.fails hs hx, List.map_nil, List.sum_nil, Nat.zero_add]
  | cons y before ih =>
    obtain ⟨hy, hrest⟩ := List.forall_mem_cons.1 hbefore
    obtain ⟨z, hz⟩ := hroll.answers hs hy
    rw [List.cons_append, rollEach, hz]
    dsimp only
    rw [ih (hs.advance (cost y)) hrest, Source.advance_advance, List.map_cons, List.sum_cons,
      Nat.add_assoc]

/-- Either no element fails, or the first that does ends the list. -/
theorem rollEach_cases (hroll : FailsOn roll P cost) (xs : List α) {s : Source}
    (hs : s.UnitDraws) :
    ((∀ x ∈ xs, ¬P x) ∧ ∃ ys, rollEach roll xs s = (.ok ys, s.advance (xs.map cost).sum)) ∨
      ∃ before x after, xs = before ++ x :: after ∧ (∀ y ∈ before, ¬P y) ∧ P x ∧
        rollEach roll xs s = (.error .sidesTooLarge, s.advance ((before.map cost).sum + 1)) := by
  classical
  cases hfind : xs.find? (decide <| P ·) with
  | none =>
    have hnone : ∀ x ∈ xs, ¬P x := by simpa using hfind
    exact .inl ⟨hnone, hroll.rollEach_of_none hs hnone⟩
  | some x =>
    obtain ⟨hx, before, after, rfl, hbefore⟩ := List.find?_eq_some_iff_append.1 hfind
    have hx : P x := by simpa using hx
    have hbefore : ∀ y ∈ before, ¬P y := by simpa using hbefore
    exact .inr ⟨before, x, after, rfl, hbefore, hx, hroll.rollEach_of_first hs hbefore hx⟩

theorem fst_rollEach_eq_error_iff (hroll : FailsOn roll P cost) {xs : List α} {s : Source}
    (hs : s.UnitDraws) {e : DieError} :
    (rollEach roll xs s).1 = .error e ↔ e = .sidesTooLarge ∧ ∃ x ∈ xs, P x := by
  obtain ⟨hnone, ys, hys⟩ | ⟨before, x, after, rfl, -, hx, hfirst⟩ := hroll.rollEach_cases xs hs
  · rw [hys]
    simpa using fun _ => hnone
  · rw [hfirst]
    have hexists : ∃ y ∈ before ++ x :: after, P y := ⟨x, by simp, hx⟩
    simp only [Except.error.injEq, hexists, and_true, eq_comm]

theorem unitDraws_rollEach (hroll : FailsOn roll P cost) (xs : List α) {s : Source}
    (hs : s.UnitDraws) : (rollEach roll xs s).2.UnitDraws := by
  obtain ⟨-, ys, h⟩ | ⟨before, x, after, -, -, -, h⟩ := hroll.rollEach_cases xs hs
  all_goals
    rw [h]
    exact hs.advance _

end FailsOn

/-! ### Terms -/

theorem failsOn_rollTerm :
    FailsOn rollTerm (fun t => Magnitude.overflow ≤ t.sides) Term.count where
  fails {t s} hs h := by
    obtain ⟨count, hcount⟩ := Nat.exists_eq_add_one_of_ne_zero t.count_pos.ne'
    have hdice : rollDice t.sides t.count s = (.error .sidesTooLarge, s.advance 1) := by
      rw [rollDice, hcount, List.range_succ_eq_map]
      exact (failsOn_rollDie t.sides).rollEach_of_first hs (List.forall_mem_nil _) h
    rw [rollTerm, hdice]
  answers {t s} hs h := by
    obtain ⟨faces, hfaces⟩ := (failsOn_rollDie t.sides).rollEach_of_none hs
      fun x (_ : x ∈ List.range t.count) => h
    have hdice : rollDice t.sides t.count s = (.ok faces, s.advance t.count) := by
      rw [rollDice]
      simpa using hfaces
    rw [rollTerm, hdice]
    exact ⟨_, rfl⟩

/-- With draws from zero up to one, terms fail if and only if one of them has too many sides for a
double. -/
theorem fst_rollTerms_eq_error_iff {ts : List Term} {s : Source} (hs : s.UnitDraws)
    {e : DieError} :
    (rollTerms ts s).1 = .error e ↔
      e = .sidesTooLarge ∧ ∃ t ∈ ts, Magnitude.overflow ≤ t.sides :=
  failsOn_rollTerm.fst_rollEach_eq_error_iff hs

theorem unitDraws_of_rollTerms {ts : List Term} {s s' : Source}
    {answer : Except DieError (List TermRoll)} (h : rollTerms ts s = (answer, s'))
    (hs : s.UnitDraws) : s'.UnitDraws := by
  have hafter : (rollTerms ts s).2.UnitDraws := failsOn_rollTerm.unitDraws_rollEach ts hs
  rwa [h] at hafter

end RollPad
