import RollPad.Proofs.Binary64.Nearest
import RollPad.Proofs.Dice.Failure

/-!
The faces of a die. A draw below one is at most `1 - 2 ^ -53`, and rounding a product up never gains
back so much of its other factor (`roundUnits_mul_lt`). The number of sides as a double is an
integer, and so every face lies from one up to it. That is the number of sides itself where it needs
no rounding. The main statement is `faces_of_unit_draws`.
-/

namespace RollPad

namespace Binary64

/-! ### Products with a draw below one -/

/-- A number with few significant bits that lies below a power of two keeps a distance to it. -/
theorem Representable.le_of_lt_two_pow {d s : Nat} (hd : Representable d)
    (h : d < 2 ^ 53 * 2 ^ s) : d ≤ (2 ^ 53 - 1) * 2 ^ s := by
  rcases hd.eq_mul_two_pow_or_lt s with ⟨n, rfl⟩ | ⟨-, hlt⟩
  · rw [Nat.mul_lt_mul_right (Nat.two_pow_pos s)] at h
    exact Nat.mul_le_mul_right _ (by omega)
  · have hpos := Nat.two_pow_pos s
    omega

/-- A draw below one is at most `1 - 2 ^ -53`. -/
theorem Representable.exists_part {d : Nat} (hd : Representable d) (hlt : d < unitsPerOne) :
    ∃ part, unitsPerOne = 2 ^ 53 * part ∧ d ≤ (2 ^ 53 - 1) * part := by
  have hsplit : unitsPerOne = 2 ^ 53 * 2 ^ 1021 := by
    rw [unitsPerOne_eq]
    exact two_pow_split rfl
  exact ⟨2 ^ 1021, hsplit, hd.le_of_lt_two_pow (hlt.trans_eq hsplit)⟩

/-- A product with a draw below one is rounded to less than its other factor. -/
theorem roundUnits_mul_lt {d S : Nat} (hd : Representable d) (hlt : d < unitsPerOne)
    (hS : Representable S) (hlarge : unitsPerOne ≤ S) : roundUnits (d * S) unitsPerOne < S := by
  obtain ⟨part, hsplit, hdraw⟩ := hd.exists_part hlt
  have hpos := unitsPerOne_pos
  refine roundUnits_lt_of_mul_le hpos hS (by omega) ?_
  calc 2 ^ 53 * (d * S) ≤ 2 ^ 53 * ((2 ^ 53 - 1) * part * S) :=
        Nat.mul_le_mul_left _ (Nat.mul_le_mul_right S hdraw)
    _ = (2 ^ 53 - 1) * (S * unitsPerOne) := by rw [hsplit]; ring

theorem unitsPerOne_dvd_roundUnits {num : Nat} (h : unitsPerOne ∣ num) :
    unitsPerOne ∣ roundUnits num 1 := by
  rw [unitsPerOne_eq] at h ⊢
  exact two_pow_dvd_roundUnits h

theorem representable_unitsPerOne : Representable unitsPerOne := by
  rw [unitsPerOne_eq]
  exact representable_two_pow _

/-- A draw is a positive double, or a zero. -/
theorem units_eq_zero_of_negative {m : Magnitude}
    (h : (finite true m).inUnitInterval = true) : m.units = 0 := by
  have h : m.units = 0 ∧ m.units < unitsPerOne := by simpa [inUnitInterval] using h
  exact h.1

theorem roundUnits_zero {den : Nat} (hden : 0 < den) : roundUnits 0 den = 0 :=
  Nat.le_zero.1 (roundUnits_le hden representable_zero (Nat.zero_le _))

end Binary64

open Binary64

/-! ### The number of sides as a double -/

namespace Magnitude

theorem units_of_ofNat? {n : Nat} {size : Magnitude} (h : ofNat? n = some size) :
    size.units = roundUnits (n * unitsPerOne) 1 := by
  rw [ofNat?, ofRatio?] at h
  split at h
  · obtain rfl := Option.some.inj h
    rfl
  · cases h

/-- The double nearest to a positive integer is a positive integer. -/
theorem exists_units_eq_mul {n : Nat} (hn : 1 ≤ n) {size : Magnitude}
    (h : ofNat? n = some size) : ∃ k, 1 ≤ k ∧ size.units = k * unitsPerOne := by
  have hunits := units_of_ofNat? h
  obtain ⟨k, hk⟩ := unitsPerOne_dvd_roundUnits (Nat.dvd_mul_left unitsPerOne n)
  have hle : unitsPerOne ≤ size.units := by
    rw [hunits]
    refine le_roundUnits Nat.one_pos representable_unitsPerOne ?_
    rw [Nat.mul_one]
    exact Nat.le_mul_of_pos_left _ hn
  rw [← hunits, Nat.mul_comm] at hk
  refine ⟨k, Nat.pos_of_ne_zero ?_, hk⟩
  rintro rfl
  rw [hk, Nat.zero_mul] at hle
  exact absurd unitsPerOne_pos hle.not_gt

/-- An integer that is a double is the nearest one to itself. -/
theorem units_of_ofNat?_of_units_eq {n : Nat} {m size : Magnitude}
    (hm : m.units = n * unitsPerOne) (h : ofNat? n = some size) :
    size.units = n * unitsPerOne := by
  have hround := roundUnits_of_representable Nat.one_pos m.representable
  rwa [Nat.mul_one, hm, ← units_of_ofNat? h] at hround

theorem lt_overflow {n : Nat} (h : n ≤ 2 ^ 53) : n < overflow := by
  rw [overflow_eq]
  generalize 970 = k
  exact (by omega : n < 2 ^ 54 - 1).trans_le (Nat.le_mul_of_pos_right _ (Nat.two_pow_pos k))

theorem exists_ofNat? {n : Nat} (h : n < overflow) : ∃ size, ofNat? n = some size :=
  Option.ne_none_iff_exists'.1 (mt ofNat?_eq_none_iff.1 h.not_ge)

/-- Integers up to `2 ^ 53` are doubles. -/
theorem exists_units_eq {n : Nat} (h : n ≤ 2 ^ 53) :
    ∃ m : Magnitude, m.units = n * unitsPerOne := by
  have hrepr : Representable (n * unitsPerOne) := by
    rw [unitsPerOne_eq]
    exact representable_mul_two_pow h _
  have hround := roundUnits_of_representable Nat.one_pos hrepr
  rw [Nat.mul_one] at hround
  exact ⟨⟨_, hrepr, hround ▸ roundUnits_lt_unitsLimit_iff.2 (lt_overflow h)⟩, rfl⟩

end Magnitude

/-! ### One die -/

/-- The face for a draw from zero up to one is the integer part of the rounded product, and one
more. -/
theorem dieFace_of_inUnitInterval {sides : Nat} {size : Magnitude}
    (hsize : Magnitude.ofNat? sides = some size) {negative : Bool} {m : Magnitude}
    (hdraw : (finite negative m).inUnitInterval = true) :
    dieFace sides (.finite negative m) =
      .ok (roundUnits (m.units * size.units) unitsPerOne / unitsPerOne + 1 : Nat) := by
  have hround := roundUnits_mul_le (units_lt_of_inUnitInterval hdraw) size
  have hsome := ofRatio?_of_lt (Nat.lt_of_le_of_lt hround size.bounded)
  rw [dieFace, hsize, faceFor, Binary64.mul, ofRatio_of_some hsome, Binary64.floor, floorFinite]
  cases negative with
  | false => rfl
  | true =>
    -- the only draw with a sign is zero, and so is its product
    have hzero := units_eq_zero_of_negative hdraw
    simp [hzero, roundUnits_zero unitsPerOne_pos, Except.map]

/-- The face is at most the number of sides as a double, which is an integer. -/
theorem product_lt {sides : Nat} (hsides : 1 ≤ sides) {size : Magnitude}
    (hsize : Magnitude.ofNat? sides = some size) {negative : Bool} {m : Magnitude}
    (hdraw : (finite negative m).inUnitInterval = true) {top : Nat}
    (htop : size.units = top * unitsPerOne) :
    roundUnits (m.units * size.units) unitsPerOne / unitsPerOne + 1 ≤ top := by
  obtain ⟨k, hk, hunits⟩ := Magnitude.exists_units_eq_mul hsides hsize
  have hlarge : unitsPerOne ≤ size.units := hunits ▸ Nat.le_mul_of_pos_left _ hk
  have hlt := roundUnits_mul_lt m.representable (units_lt_of_inUnitInterval hdraw)
    size.representable hlarge
  rw [htop] at hlt ⊢
  exact (Nat.div_lt_iff_lt_mul unitsPerOne_pos).2 hlt

/-! ### Rolls -/

theorem Show.exists_of_mem {s : Source} {n : Nat} {xs : List (Nat × Int)} {sides : Nat} {face : Int}
    (h : Show s n xs) (hmem : (sides, face) ∈ xs) : ∃ j, Shows sides (s.drawAt j) face := by
  obtain ⟨j, hj⟩ := List.getElem?_of_mem hmem
  exact ⟨n + j, h.getElem? hj⟩

theorem exists_dieFace_of_mem {ts : List Term} {s s' : Source} {rolls : List TermRoll}
    (h : rollTerms ts s = (.ok rolls, s')) {r : TermRoll} (hr : r ∈ rolls) {face : Int}
    (hface : face ∈ r.faces) : ∃ j, dieFace r.term.sides (s.drawAt j) = .ok face := by
  have hmem : (r.term.sides, face) ∈ diceOf rolls :=
    List.mem_flatMap.2 ⟨r, hr, List.mem_map.2 ⟨face, hface, rfl⟩⟩
  obtain ⟨j, hj⟩ := (rollTerms_spec h).2.2.show_dice.exists_of_mem hmem
  exact ⟨j, dieFace_eq_ok_iff.2 hj⟩

/-- For a draw from zero up to one a die with a positive number of sides shows one more than the
integer part of the product, which is rounded to the nearest as the number of sides is before it;
the face lies from one up to that rounded number, which is an integer. So with such draws all
faces of a term lie from one up to its number of sides, if that is at most `2 ^ 53` or a double
itself. -/
theorem faces_of_unit_draws :
    (∀ {sides : Nat} {size : Magnitude} {draw : Binary64}, 1 ≤ sides →
        Magnitude.ofNat? sides = some size → draw.inUnitInterval = true →
        ∃ negative m, draw = .finite negative m ∧
          ∃ product top face : Nat, Nearest (sides * unitsPerOne) 1 size.units ∧
            Nearest (m.units * size.units) unitsPerOne product ∧
            size.units = top * unitsPerOne ∧ face = product / unitsPerOne + 1 ∧
            dieFace sides draw = .ok face ∧ 1 ≤ face ∧ face ≤ top) ∧
      ∀ {ts : List Term} {s s' : Source} {rolls : List TermRoll}, s.UnitDraws →
        rollTerms ts s = (.ok rolls, s') → ∀ r ∈ rolls,
          (r.term.sides ≤ 2 ^ 53 ∨ ∃ m : Magnitude, m.units = r.term.sides * unitsPerOne) →
          ∀ face ∈ r.faces, 1 ≤ face ∧ face ≤ r.term.sides := by
  constructor
  · intro sides size draw hsides hsize hdraw
    cases draw with
    | finite negative m =>
      obtain ⟨top, -, htop⟩ := Magnitude.exists_units_eq_mul hsides hsize
      have hnear := nearest_roundUnits (sides * unitsPerOne) Nat.one_pos
      rw [← Magnitude.units_of_ofNat? hsize] at hnear
      exact ⟨negative, m, rfl, _, top, _, hnear, nearest_roundUnits _ unitsPerOne_pos, htop, rfl,
        dieFace_of_inUnitInterval hsize hdraw, Nat.le_add_left 1 _,
        product_lt hsides hsize hdraw htop⟩
    | _ => cases hdraw
  · intro ts s s' rolls hs hrolls r hr hexact face hface
    obtain ⟨m, hm⟩ := hexact.elim Magnitude.exists_units_eq id
    obtain ⟨j, hj⟩ := exists_dieFace_of_mem hrolls hr hface
    obtain ⟨size, -, hsize, -, -⟩ := dieFace_eq_ok_iff.1 hj
    have hdraw := hs.drawAt j
    have htop := Magnitude.units_of_ofNat?_of_units_eq hm hsize
    cases hd : s.drawAt j with
    | finite negative m' =>
      rw [hd] at hdraw hj
      rw [dieFace_of_inUnitInterval hsize hdraw] at hj
      obtain rfl := Except.ok.inj hj
      have hle := product_lt r.term.sides_pos hsize hdraw htop
      exact ⟨by exact_mod_cast Nat.le_add_left 1 _, by exact_mod_cast hle⟩
    | _ => rw [hd] at hdraw; cases hdraw

/-- The greatest draw, `1 - 2 ^ -53`. -/
def Magnitude.greatestDraw : Magnitude :=
  ⟨(2 ^ 53 - 1) <<< 1021, ⟨_, _, rfl, by decide⟩, by decide +kernel⟩

/-- The greatest draw for a number of sides that is rounded down to `2 ^ 53`, and for six sides. -/
theorem faces_of_unit_draws_greatest :
    let draw : Binary64 := .finite false Magnitude.greatestDraw
    let s : Source := ⟨.cycle, [draw], List.cons_ne_nil _ _, 0⟩
    let t : Term := ⟨1, 6, by decide, by decide⟩
    draw.inUnitInterval = true ∧ s.UnitDraws ∧
      (Magnitude.ofNat? (2 ^ 53 + 1)).map Magnitude.units = some (2 ^ 53 * unitsPerOne) ∧
      (∃ face : Nat, dieFace (2 ^ 53 + 1) draw = .ok face ∧ 1 ≤ face ∧ face ≤ 2 ^ 53) ∧
      (rollTerms [t] s).1 = .ok [.ofFaces t [6]] ∧ (1 ≤ (6 : Int) ∧ (6 : Int) ≤ t.sides) := by
  intro draw s t
  have hdraw : draw.inUnitInterval = true := by decide +kernel
  have hs : s.UnitDraws := by decide +kernel
  have hunits : (Magnitude.ofNat? (2 ^ 53 + 1)).map Magnitude.units =
      some (2 ^ 53 * unitsPerOne) := by decide +kernel
  have hrolls : (rollTerms [t] s).1 = .ok [.ofFaces t [6]] := by decide +kernel
  obtain ⟨size, hsize, hsizeUnits⟩ := Option.map_eq_some_iff.1 hunits
  obtain ⟨-, -, -, -, top, face, -, -, htop, -, hface, hlow, hhigh⟩ :=
    faces_of_unit_draws.1 (by decide) hsize hdraw
  have hsame : top = 2 ^ 53 :=
    Nat.eq_of_mul_eq_mul_right unitsPerOne_pos (htop.symm.trans hsizeUnits)
  have hsix := faces_of_unit_draws.2 hs (Prod.ext hrolls rfl) _ List.mem_cons_self
    (.inl (by decide)) 6 List.mem_cons_self
  exact ⟨hdraw, hs, hunits, ⟨face, hface, hlow, hsame ▸ hhigh⟩, hrolls, hsix⟩

end RollPad
