import RollPad.Proofs.Dice.Faces

/-!
Sides too large for a double. Rounded to 53 bits without regard to its size, a number reaches
`2 ^ 1024` exactly from `Magnitude.overflow` on (`two_pow_le_units_iff`), and with draws from zero
up to one nothing else breaks a roll off: every product is a finite double, and its integer part is
no less than zero (`exists_product`). So the first term with so many sides ends a roll, after the
draws of the terms before it and one more. The main statement is `rollTerms_fails_at_overflow`.
-/

namespace RollPad

open Binary64

/-! ### One die -/

theorem unitsLimit_eq_mul : unitsLimit = 2 ^ 1024 * unitsPerOne := by
  rw [unitsLimit_eq, unitsPerOne_eq]
  exact two_pow_split rfl

/-- A number is rounded to `2 ^ 1024` or more exactly from `Magnitude.overflow` on. -/
theorem two_pow_le_units_iff {n units : Nat} (h : Nearest (n * unitsPerOne) 1 units) :
    2 ^ 1024 * unitsPerOne ≤ units ↔ Magnitude.overflow ≤ n := by
  have hunits : units = roundUnits (n * unitsPerOne) 1 :=
    h.unique Nat.one_pos (nearest_roundUnits _ Nat.one_pos)
  rw [hunits, ← unitsLimit_eq_mul, ← Nat.not_lt, ← Nat.not_lt,
    Magnitude.roundUnits_lt_unitsLimit_iff]

/-- The product of a draw from zero up to one and a number of sides that is not too large is finite,
and its integer part is not negative. -/
theorem exists_product {draw : Binary64} (hdraw : draw.inUnitInterval = true) {sides : Nat}
    (hsides : sides < Magnitude.overflow) :
    ∃ size negative product, ∃ below : Nat, Magnitude.ofNat? sides = some size ∧
      draw.mul (.finite false size) = .finite negative product ∧
      (Binary64.finite negative product).floor = .ok ↑below := by
  obtain ⟨size, hsize⟩ := Magnitude.exists_ofNat? hsides
  obtain ⟨negative, product, hmul, -⟩ := mul_of_inUnitInterval hdraw size
  cases draw with
  | finite negativeDraw m =>
    -- the face is a positive number, one more than the integer part
    have hface := dieFace_of_inUnitInterval hsize hdraw
    obtain ⟨_, below, hsize', hfloor, hbelow⟩ := dieFace_eq_ok_iff.1 hface
    obtain rfl := Option.some.inj (hsize.symm.trans hsize')
    rw [Nat.cast_succ, add_left_inj] at hbelow
    rw [hmul, ← hbelow] at hfloor
    exact ⟨size, negative, product, _, hsize, hmul, hfloor⟩
  | _ => cases hdraw

/-! ### Rolls -/

/-- A number of sides is too large for a double exactly from `2 ^ 1024 - 2 ^ 970` on, the least
number that is rounded to `2 ^ 1024`. With draws from zero up to one, a roll fails if and only if
some term has so many sides, and the first such term ends it: the draws of the terms before it and
one more are taken. Else every product is finite and has an integer part, and the roll takes one
draw for each die and gives for each term its faces and their sum. -/
theorem rollTerms_fails_at_overflow :
    (∀ n, (Magnitude.ofNat? n = none ↔ Magnitude.overflow ≤ n) ∧
        ∀ units, Nearest (n * unitsPerOne) 1 units →
          (2 ^ 1024 * unitsPerOne ≤ units ↔ Magnitude.overflow ≤ n)) ∧
      ∀ {s : Source}, s.UnitDraws → ∀ ts,
        ((∃ e, (rollTerms ts s).1 = .error e) ↔ ∃ t ∈ ts, Magnitude.overflow ≤ t.sides) ∧
        (∀ before t after, ts = before ++ t :: after →
          (∀ u ∈ before, u.sides < Magnitude.overflow) → Magnitude.overflow ≤ t.sides →
          rollTerms ts s =
            (.error .sidesTooLarge, s.advance ((before.map Term.count).sum + 1))) ∧
        ((∀ t ∈ ts, t.sides < Magnitude.overflow) →
          (∀ t ∈ ts, ∀ j, ∃ size negative product, ∃ below : Nat,
            Magnitude.ofNat? t.sides = some size ∧
              (s.drawAt j).mul (.finite false size) = .finite negative product ∧
              (Binary64.finite negative product).floor = .ok ↑below) ∧
          ∃ rolls, rollTerms ts s = (.ok rolls, s.advance (ts.map Term.count).sum) ∧
            rolls.map TermRoll.term = ts ∧
            ∀ r ∈ rolls, r.faces.length = r.term.count ∧ r.total = r.faces.sum) := by
  refine ⟨fun n => ⟨Magnitude.ofNat?_eq_none_iff, fun units => two_pow_le_units_iff⟩,
    fun {s} hs ts => ⟨?_, ?_, ?_⟩⟩
  · constructor
    · rintro ⟨e, he⟩
      exact ((fst_rollTerms_eq_error_iff hs).1 he).2
    · intro hlarge
      exact ⟨.sidesTooLarge, (fst_rollTerms_eq_error_iff hs).2 ⟨rfl, hlarge⟩⟩
  · rintro before t after rfl hbefore ht
    exact failsOn_rollTerm.rollEach_of_first hs (fun u hu => (hbefore u hu).not_ge) ht
  · intro hfits
    obtain ⟨rolls, hrolls⟩ :=
      failsOn_rollTerm.rollEach_of_none hs fun t ht => (hfits t ht).not_ge
    obtain ⟨hterms, hadds, -⟩ := rollTerms_spec hrolls
    exact ⟨fun t ht j => exists_product (hs.drawAt j) (hfits t ht), rolls, hrolls, hterms,
      fun r hr => ⟨(hadds r hr).length_faces, (hadds r hr).total_eq⟩⟩

/-- With a draw of one half, two dice are rolled before a die with too many sides, and a third draw
is taken for that one; without it, all five dice are rolled. -/
theorem rollTerms_fails_at_overflow_second_term :
    let s : Source := ⟨.cycle, [ofRatio false unitsPerOne 2], List.cons_ne_nil _ _, 0⟩
    let two : Term := ⟨2, 6, by decide, by decide⟩
    let large : Term := ⟨1, Magnitude.overflow, by decide, Magnitude.overflow_pos⟩
    let three : Term := ⟨3, 20, by decide, by decide⟩
    s.UnitDraws ∧ 2 ^ 1024 * unitsPerOne ≤ roundUnits (Magnitude.overflow * unitsPerOne) 1 ∧
      rollTerms [two, large, three] s = (.error .sidesTooLarge, s.advance 3) ∧
      ∃ rolls, rollTerms [two, three] s = (.ok rolls, s.advance 5) ∧
        rolls.map TermRoll.term = [two, three] := by
  intro s two large three
  have hs : s.UnitDraws := by decide +kernel
  have htwo : two.sides < Magnitude.overflow := by decide +kernel
  have hthree : three.sides < Magnitude.overflow := by decide +kernel
  have hthreshold := ((rollTerms_fails_at_overflow.1 Magnitude.overflow).2 _
    (nearest_roundUnits _ Nat.one_pos)).2 le_rfl
  have hfails := (rollTerms_fails_at_overflow.2 hs [two, large, three]).2.1 [two] large [three] rfl
    (List.forall_mem_singleton.2 htwo) le_rfl
  obtain ⟨-, rolls, hrolls, hterms, -⟩ :=
    (rollTerms_fails_at_overflow.2 hs [two, three]).2.2
      (List.forall_mem_cons.2 ⟨htwo, List.forall_mem_singleton.2 hthree⟩)
  exact ⟨hs, hthreshold, hfails, rolls, hrolls, hterms⟩

end RollPad
