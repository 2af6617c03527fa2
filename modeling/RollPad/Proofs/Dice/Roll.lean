import Mathlib.Algebra.Order.Ring.Int
import Mathlib.Data.List.Forall2
import RollPad.Dice.Roll

/-!
Rolls and draws. A roll takes the draws of its source in order, one for each die: `Show` says of a
run of dice that they show consecutive draws. `Takes` adds that the source has moved on past these
draws and no others; it composes (`Takes.append`), and `rollEach_spec` carries it over a list once,
for the dice of a term as for the terms of an expression.
-/

namespace RollPad

/-- A die with this many sides shows a face for a draw: the largest integer not above the product of
the draw and the number of sides, both doubles, and one more. -/
def Shows (sides : Nat) (draw : Binary64) (face : Int) : Prop :=
  ∃ size below, Magnitude.ofNat? sides = some size ∧
    (draw.mul (.finite false size)).floor = .ok below ∧ face = below + 1

/-- Dice show the draws of a source from number `n` on, one draw each. -/
def Show (s : Source) : Nat → List (Nat × Int) → Prop
  | _, [] => True
  | n, (sides, face) :: rest => Shows sides (s.drawAt n) face ∧ Show s (n + 1) rest

/-- From one source to another, dice take their draws. -/
structure Takes (s s' : Source) (dice : List (Nat × Int)) : Prop where
  eq_advance : s' = s.advance dice.length
  show_dice : Show s s.position dice

/-- The number of sides and the face of each die of a term. -/
def TermRoll.dice (r : TermRoll) : List (Nat × Int) :=
  r.faces.map fun face => (r.term.sides, face)

/-- The dice of all terms, in the order in which they are rolled. -/
def diceOf (rolls : List TermRoll) : List (Nat × Int) :=
  rolls.flatMap TermRoll.dice

/-- The faces of a term are as many as its count, and the total is their sum. -/
structure TermRoll.Adds (r : TermRoll) : Prop where
  length_faces : r.faces.length = r.term.count
  total_eq : r.total = r.faces.sum

/-! ### One die -/

theorem faceFor_eq_ok_iff {draw : Binary64} {size? : Option Magnitude} {face : Int} :
    faceFor draw size? = .ok face ↔
      ∃ size below, size? = some size ∧ (draw.mul (.finite false size)).floor = .ok below ∧
        face = below + 1 := by
  cases size? with
  | none => exact iff_of_false (fun h => nomatch h) fun ⟨_, _, h, _⟩ => nomatch h
  | some size =>
    rw [faceFor]
    generalize hf : (draw.mul (.finite false size)).floor = below?
    cases below? with
    | error e =>
      refine iff_of_false (fun h => nomatch h) fun ⟨_, _, hs, h, _⟩ => ?_
      obtain rfl := Option.some.inj hs
      exact nomatch hf.symm.trans h
    | ok below =>
      constructor
      · intro h
        exact ⟨size, below, rfl, hf, (Except.ok.inj h).symm⟩
      · rintro ⟨_, _, hs, h, rfl⟩
        obtain rfl := Option.some.inj hs
        obtain rfl := Except.ok.inj (hf.symm.trans h)
        rfl

theorem dieFace_eq_ok_iff {sides : Nat} {draw : Binary64} {face : Int} :
    dieFace sides draw = .ok face ↔ Shows sides draw face := by
  unfold dieFace
  exact faceFor_eq_ok_iff

/-! ### Runs of dice -/

theorem show_append {s : Source} {n : Nat} {xs ys : List (Nat × Int)} :
    Show s n (xs ++ ys) ↔ Show s n xs ∧ Show s (n + xs.length) ys := by
  induction xs generalizing n with
  | nil => simp [Show]
  | cons x xs ih =>
    rw [List.cons_append, Show, Show, ih, List.length_cons, and_assoc]
    rw [show n + 1 + xs.length = n + (xs.length + 1) by omega]

/-- The draws of a source do not depend on how many have been taken. -/
theorem show_advance {s : Source} {m n : Nat} {xs : List (Nat × Int)} :
    Show (s.advance m) n xs ↔ Show s n xs := by
  induction xs generalizing n with
  | nil => simp [Show]
  | cons x xs ih => rw [Show, Show, ih, Source.drawAt_advance]

theorem Show.getElem? {s : Source} {n j : Nat} {xs : List (Nat × Int)} {sides : Nat} {face : Int}
    (h : Show s n xs) (hj : xs[j]? = some (sides, face)) : Shows sides (s.drawAt (n + j)) face := by
  induction xs generalizing n j with
  | nil => simp at hj
  | cons x xs ih =>
    obtain ⟨hx, hxs⟩ := h
    cases j with
    | zero =>
      obtain rfl : x = (sides, face) := by simpa using hj
      exact hx
    | succ j =>
      have hj : xs[j]? = some (sides, face) := by simpa using hj
      rw [show n + (j + 1) = n + 1 + j by omega]
      exact ih hxs hj

theorem Takes.nil (s : Source) : Takes s s [] :=
  ⟨s.advance_zero.symm, trivial⟩

theorem Takes.append {s s₁ s₂ : Source} {xs ys : List (Nat × Int)} (hxs : Takes s s₁ xs)
    (hys : Takes s₁ s₂ ys) : Takes s s₂ (xs ++ ys) := by
  obtain ⟨rfl, hx⟩ := hxs
  obtain ⟨rfl, hy⟩ := hys
  refine ⟨?_, show_append.2 ⟨hx, show_advance.1 hy⟩⟩
  rw [Source.advance_advance, List.length_append]

theorem diceOf_cons (r : TermRoll) (rolls : List TermRoll) :
    diceOf (r :: rolls) = r.dice ++ diceOf rolls := rfl

theorem sumOf_eq_sum (ns : List Int) : sumOf ns = ns.sum := by
  rw [List.sum_eq_foldr]
  rfl

/-! ### Rolling -/

theorem rollEach_cons_eq_ok_iff {α β : Type} {roll : α → Source → Except DieError β × Source}
    {x : α} {xs : List α} {s s' : Source} {ys : List β} :
    rollEach roll (x :: xs) s = (.ok ys, s') ↔
      ∃ y s₁ zs, roll x s = (.ok y, s₁) ∧ rollEach roll xs s₁ = (.ok zs, s') ∧ ys = y :: zs := by
  rw [rollEach]
  rcases roll x s with ⟨_ | y, s₁⟩
  · simp
  · dsimp only
    rcases hxs : rollEach roll xs s₁ with ⟨_ | zs, s₂⟩
    · simp only [Prod.mk.injEq, reduceCtorEq, false_and, false_iff]
      rintro ⟨y', s₁', zs, ⟨-, rfl⟩, hzs, -⟩
      simp [hxs] at hzs
    · constructor
      · intro h
        obtain ⟨hys, rfl⟩ := Prod.mk.inj h
        exact ⟨y, s₁, zs, rfl, hxs, (Except.ok.inj hys).symm⟩
      · rintro ⟨y', s₁', zs', hy, hzs, rfl⟩
        obtain ⟨rfl, rfl⟩ : y = y' ∧ s₁ = s₁' := by simpa using hy
        obtain ⟨rfl, rfl⟩ : zs = zs' ∧ s₂ = s' := by simpa [hxs] using hzs
        rfl

/-- Where each roll takes the draws of its dice and gives what it should, so does the whole list. -/
theorem rollEach_spec {α β : Type} {roll : α → Source → Except DieError β × Source}
    {dice : β → List (Nat × Int)} {R : α → β → Prop}
    (hroll : ∀ {x s y s'}, roll x s = (.ok y, s') → R x y ∧ Takes s s' (dice y)) {xs : List α}
    {s s' : Source} {ys : List β} (h : rollEach roll xs s = (.ok ys, s')) :
    List.Forall₂ R xs ys ∧ Takes s s' (ys.flatMap dice) := by
  induction xs generalizing s ys with
  | nil =>
    obtain ⟨hys, rfl⟩ := Prod.mk.inj h
    obtain rfl := Except.ok.inj hys
    exact ⟨.nil, .nil s⟩
  | cons x xs ih =>
    obtain ⟨y, s₁, zs, hy, hzs, rfl⟩ := rollEach_cons_eq_ok_iff.1 h
    obtain ⟨hR, htakes⟩ := hroll hy
    obtain ⟨hRs, hrest⟩ := ih hzs
    exact ⟨.cons hR hRs, htakes.append hrest⟩

theorem rollDie_spec {sides : Nat} {s s' : Source} {face : Int}
    (h : rollDie sides s = (.ok face, s')) : Takes s s' [(sides, face)] := by
  obtain ⟨hface, rfl⟩ := Prod.mk.inj h
  exact ⟨rfl, dieFace_eq_ok_iff.1 hface, trivial⟩

theorem rollDice_spec {sides count : Nat} {s s' : Source} {faces : List Int}
    (h : rollDice sides count s = (.ok faces, s')) :
    faces.length = count ∧ Takes s s' (faces.map fun face => (sides, face)) := by
  obtain ⟨hlength, htakes⟩ := rollEach_spec (R := fun _ _ => True)
    (fun hroll => ⟨trivial, rollDie_spec hroll⟩) h
  refine ⟨?_, ?_⟩
  · rw [← hlength.length_eq, List.length_range]
  · rwa [List.map_eq_flatMap]

theorem rollTerm_spec {term : Term} {s s' : Source} {r : TermRoll}
    (h : rollTerm term s = (.ok r, s')) : (r.Adds ∧ r.term = term) ∧ Takes s s' r.dice := by
  rw [rollTerm] at h
  rcases hdice : rollDice term.sides term.count s with ⟨_ | faces, s₁⟩
  · simp [hdice] at h
  · obtain ⟨rfl, rfl⟩ : TermRoll.ofFaces term faces = r ∧ s₁ = s' := by simpa [hdice] using h
    obtain ⟨hlength, htakes⟩ := rollDice_spec hdice
    exact ⟨⟨⟨hlength, sumOf_eq_sum faces⟩, rfl⟩, htakes⟩

/-- Rolled terms have all their faces, and their dice take one draw each, in order. -/
theorem rollTerms_spec {ts : List Term} {s s' : Source} {rolls : List TermRoll}
    (h : rollTerms ts s = (.ok rolls, s')) :
    rolls.map TermRoll.term = ts ∧ (∀ r ∈ rolls, r.Adds) ∧ Takes s s' (diceOf rolls) := by
  rw [rollTerms] at h
  obtain ⟨hall, htakes⟩ := rollEach_spec (R := fun t r => r.Adds ∧ r.term = t)
    (fun hroll => rollTerm_spec hroll) h
  have hflip : List.Forall₂ (fun r t => r.Adds ∧ r.term = t) rolls ts := hall.flip
  obtain ⟨hadds, hterms⟩ := (List.forall₂_and_left _ _).1 hflip
  have hmap : List.Forall₂ (· = ·) (rolls.map TermRoll.term) ts :=
    List.forall₂_map_left_iff.2 hterms
  rw [List.forall₂_eq_eq_eq] at hmap
  exact ⟨hmap, hadds, htakes⟩

end RollPad
