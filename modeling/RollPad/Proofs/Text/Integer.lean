import Mathlib.Data.List.DropRight
import Mathlib.Data.List.Forall2
import Mathlib.Data.Nat.Digits.Defs
import RollPad.Text.Integer

/-!
Written integers. `SpellsInteger` says which texts are integers and which one each of them is:
groups of digits with one underscore between neighbours, behind at most one sign, with padding
around. The reader goes through the characters one by one and accepts just these texts
(`readInteger?_eq_some_iff`). That the padding, the sign and the digits can be told apart rests on
no digit of any script being white space (`isBlank_of_digitValue?`).
-/

namespace RollPad.Text

/-- Digits of any script in groups, with one underscore between neighbouring groups, and the values
of the digits. -/
def SpellsDigits (cs : List Char) (ds : List Nat) : Prop :=
  ∃ groups : List (List Char), groups ≠ [] ∧ (∀ g ∈ groups, g ≠ []) ∧
    cs = ['_'].intercalate groups ∧
    List.Forall₂ (fun c d => digitValue? c = some d) groups.flatten ds

/-- At most `maxDigits` digits, most significant first, and the number that they denote. -/
def SpellsNatural (cs : List Char) (n : Nat) : Prop :=
  ∃ ds, SpellsDigits cs ds ∧ ds.length ≤ maxDigits ∧ n = Nat.ofDigits 10 ds.reverse

/-- A number with at most one sign in front of it and padding around both, and the integer that they
denote. -/
def SpellsInteger (cs : List Char) (z : Int) : Prop :=
  ∃ before sign body after n, cs = before ++ (sign ++ body) ++ after ∧
    (∀ c ∈ before, isPadding c = true) ∧ (∀ c ∈ after, isPadding c = true) ∧
    SpellsNatural body n ∧
    ((sign = [] ∨ sign = ['+']) ∧ z = n ∨ sign = ['-'] ∧ z = -n)

/-! ### Digits -/

/-- No digit of any script is white space. -/
theorem isBlank_of_digitValue? {c : Char} {d : Nat} (h : digitValue? c = some d) :
    isBlank c = false := by
  have hall : ∀ z ∈ digitZeros, ∀ k < 10, isBlank (Char.ofNat (z + k)) = false := by
    decide +kernel
  obtain ⟨z, hz, -⟩ := Option.map_eq_some_iff.1 h
  have hmem := List.mem_of_find?_eq_some hz
  have hrange : z ≤ c.toNat ∧ c.toNat < z + 10 := by simpa using List.find?_some hz
  have hc := hall z hmem (c.toNat - z) (by omega)
  rwa [Nat.add_sub_cancel' hrange.1, Char.ofNat_toNat] at hc

theorem isPadding_of_digitValue? {c : Char} {d : Nat} (h : digitValue? c = some d) :
    isPadding c = false := by
  rw [isPadding, isBlank_of_digitValue? h, Bool.false_and]

theorem ne_mark_of_digitValue? {c : Char} {d : Nat} (h : digitValue? c = some d) :
    c ≠ '_' ∧ c ≠ '+' ∧ c ≠ '-' := by
  have hmarks : digitValue? '_' = none ∧ digitValue? '+' = none ∧ digitValue? '-' = none := by
    decide +kernel
  refine ⟨?_, ?_, ?_⟩
  all_goals
    rintro rfl
    simp [hmarks] at h

section Digits

variable {c : Char} {cs : List Char} {d : Nat} {ds : List Nat}

theorem SpellsDigits.single (hc : digitValue? c = some d) : SpellsDigits [c] [d] :=
  ⟨[[c]], by simp, by simp, by simp [List.intercalate_singleton], by simpa using hc⟩

/-- A digit in front belongs to the first group. -/
theorem SpellsDigits.cons (hc : digitValue? c = some d) (h : SpellsDigits cs ds) :
    SpellsDigits (c :: cs) (d :: ds) := by
  obtain ⟨groups, hne, hgroups, rfl, hvalues⟩ := h
  obtain ⟨g, gs, rfl⟩ := List.exists_cons_of_ne_nil hne
  refine ⟨(c :: g) :: gs, by simp, ?_, (List.intercalate_cons_cons_left ..).symm, ?_⟩
  · exact List.forall_mem_cons.2 ⟨by simp, (List.forall_mem_cons.1 hgroups).2⟩
  · exact .cons hc hvalues

/-- A digit before an underscore is a group of its own. -/
theorem SpellsDigits.underscore (hc : digitValue? c = some d) (h : SpellsDigits cs ds) :
    SpellsDigits (c :: '_' :: cs) (d :: ds) := by
  obtain ⟨groups, hne, hgroups, rfl, hvalues⟩ := h
  refine ⟨[c] :: groups, by simp, List.forall_mem_cons.2 ⟨by simp, hgroups⟩, ?_,
    .cons hc hvalues⟩
  rw [List.intercalate_cons_of_ne_nil hne]
  rfl

/-- There are no other runs of digits. -/
theorem SpellsDigits.cases (h : SpellsDigits cs ds) :
    ∃ c d, digitValue? c = some d ∧
      ((cs = [c] ∧ ds = [d]) ∨
        ∃ cs' ds', SpellsDigits cs' ds' ∧ ds = d :: ds' ∧
          (cs = c :: cs' ∨ cs = c :: '_' :: cs')) := by
  obtain ⟨groups, hne, hgroups, rfl, hvalues⟩ := h
  obtain ⟨g, gs, rfl⟩ := List.exists_cons_of_ne_nil hne
  obtain ⟨hg, hgs⟩ := List.forall_mem_cons.1 hgroups
  obtain ⟨c, g, rfl⟩ := List.exists_cons_of_ne_nil hg
  rw [List.flatten_cons, List.cons_append, List.forall₂_cons_left_iff] at hvalues
  obtain ⟨d, ds', hc, hvalues, rfl⟩ := hvalues
  refine ⟨c, d, hc, ?_⟩
  cases g with
  | cons e g =>
    refine .inr ⟨_, ds', ⟨(e :: g) :: gs, by simp, ?_, rfl, hvalues⟩, rfl, .inl ?_⟩
    · exact List.forall_mem_cons.2 ⟨by simp, hgs⟩
    · exact List.intercalate_cons_cons_left ..
  | nil =>
    rw [List.nil_append] at hvalues
    cases gs with
    | nil =>
      obtain rfl := List.forall₂_nil_left_iff.1 hvalues
      exact .inl ⟨List.intercalate_singleton, rfl⟩
    | cons g' gs =>
      refine .inr ⟨_, ds', ⟨g' :: gs, by simp, hgs, rfl, hvalues⟩, rfl, .inr ?_⟩
      rw [List.intercalate_cons_cons]
      rfl

theorem SpellsDigits.head (h : SpellsDigits cs ds) :
    ∃ c rest d, cs = c :: rest ∧ digitValue? c = some d := by
  obtain ⟨c, d, hc, ⟨rfl, -⟩ | ⟨cs', ds', -, -, rfl | rfl⟩⟩ := h.cases
  · exact ⟨c, _, d, rfl, hc⟩
  · exact ⟨c, _, d, rfl, hc⟩
  · exact ⟨c, _, d, rfl, hc⟩

/-- What holds of each digit, and is kept with one more digit in front, holds of all of them. -/
theorem SpellsDigits.induction {motive : List Char → List Nat → Prop}
    (single : ∀ {c d}, digitValue? c = some d → motive [c] [d])
    (cons : ∀ {c d cs ds}, digitValue? c = some d → SpellsDigits cs ds → motive cs ds →
      motive (c :: cs) (d :: ds))
    (underscore : ∀ {c d cs ds}, digitValue? c = some d → SpellsDigits cs ds → motive cs ds →
      motive (c :: '_' :: cs) (d :: ds))
    (h : SpellsDigits cs ds) : motive cs ds := by
  induction ds generalizing cs with
  | nil =>
    obtain ⟨_, _, -, ⟨-, hds⟩ | ⟨_, _, -, hds, -⟩⟩ := h.cases
    · cases hds
    · cases hds
  | cons d ds ih =>
    obtain ⟨c, d', hc, ⟨rfl, hds⟩ | ⟨cs', ds', hcs', hds, hcs⟩⟩ := h.cases
    · obtain ⟨rfl, rfl⟩ := List.cons.inj hds
      exact single hc
    · obtain ⟨rfl, rfl⟩ := List.cons.inj hds
      rcases hcs with rfl | rfl
      · exact cons hc hcs' (ih hcs')
      · exact underscore hc hcs' (ih hcs')

theorem digitRun?_cons_underscore (c : Char) (cs : List Char) :
    digitRun? (c :: '_' :: cs) =
      (digitValue? c).bind fun d => (digitRun? cs).map (d :: ·) := by
  rw [digitRun?]
  cases digitValue? c <;> cases digitRun? cs <;> simp

theorem digitRun?_cons_of_ne {d : Char} (hd : d ≠ '_') (c : Char) (cs : List Char) :
    digitRun? (c :: d :: cs) =
      (digitValue? c).bind fun v => (digitRun? (d :: cs)).map (v :: ·) := by
  rw [digitRun?]
  cases digitValue? c <;> cases digitRun? (d :: cs) <;> simp [hd]

theorem spellsDigits_of_digitRun? :
    ∀ {cs : List Char} {ds : List Nat}, digitRun? cs = some ds → SpellsDigits cs ds
  | [], _, h => by cases h
  | [c], _, h => by
    obtain ⟨d, hc, rfl⟩ := Option.map_eq_some_iff.1 h
    exact .single hc
  | c :: e :: rest, _, h => by
    by_cases he : e = '_'
    · subst he
      rw [digitRun?_cons_underscore] at h
      obtain ⟨d, hc, h⟩ := Option.bind_eq_some_iff.1 h
      obtain ⟨ds, hrest, rfl⟩ := Option.map_eq_some_iff.1 h
      exact (spellsDigits_of_digitRun? hrest).underscore hc
    · rw [digitRun?_cons_of_ne he] at h
      obtain ⟨d, hc, h⟩ := Option.bind_eq_some_iff.1 h
      obtain ⟨ds, hrest, rfl⟩ := Option.map_eq_some_iff.1 h
      exact (spellsDigits_of_digitRun? hrest).cons hc

theorem digitRun?_of_spellsDigits (h : SpellsDigits cs ds) : digitRun? cs = some ds := by
  refine h.induction (motive := fun cs ds => digitRun? cs = some ds) (fun hc => ?_)
    (fun hc hcs ih => ?_) (fun hc _ ih => ?_)
  · rw [digitRun?, hc]
    rfl
  · -- the next character is a digit, and so no underscore
    obtain ⟨e, rest, v, rfl, he⟩ := hcs.head
    rw [digitRun?_cons_of_ne (ne_mark_of_digitValue? he).1, hc, ih]
    rfl
  · rw [digitRun?_cons_underscore, hc, ih]
    rfl

theorem SpellsDigits.not_padding (h : SpellsDigits cs ds) : ∀ c ∈ cs, isPadding c = false := by
  have hunderscore : isPadding '_' = false := by decide
  refine h.induction (motive := fun cs _ => ∀ c ∈ cs, isPadding c = false) (fun hc => ?_)
    (fun hc _ ih => ?_) (fun hc _ ih => ?_)
  · exact List.forall_mem_singleton.2 (isPadding_of_digitValue? hc)
  · exact List.forall_mem_cons.2 ⟨isPadding_of_digitValue? hc, ih⟩
  · exact List.forall_mem_cons.2
      ⟨isPadding_of_digitValue? hc, List.forall_mem_cons.2 ⟨hunderscore, ih⟩⟩

end Digits

/-- The reader of numbers accepts just the groups of digits that are not too many. -/
theorem readNatural?_eq_some_iff {cs : List Char} {n : Nat} :
    readNatural? cs = some n ↔ SpellsNatural cs n := by
  have hvalue : ∀ ds : List Nat, ofDigitValues ds = Nat.ofDigits 10 ds.reverse := fun ds => by
    rw [ofDigitValues, List.foldl_eq_foldr_reverse, Nat.ofDigits_eq_foldr]
    simp [Nat.add_comm]
  constructor
  · intro h
    obtain ⟨ds, hds, h⟩ := Option.bind_eq_some_iff.1 h
    split at h
    · next hlength =>
      refine ⟨ds, spellsDigits_of_digitRun? hds, hlength, ?_⟩
      rw [← Option.some.inj h, hvalue]
    · cases h
  · rintro ⟨ds, hds, hlength, rfl⟩
    refine Option.bind_eq_some_iff.2 ⟨ds, digitRun?_of_spellsDigits hds, ?_⟩
    rw [if_pos hlength, hvalue]

/-! ### Padding -/

theorem exists_trimPadding (cs : List Char) :
    ∃ before after, cs = before ++ trimPadding cs ++ after ∧
      (∀ c ∈ before, isPadding c = true) ∧ ∀ c ∈ after, isPadding c = true := by
  have hfront := List.takeWhile_append_dropWhile (p := isPadding) (l := cs)
  have hback := @List.rdropWhile_append_rtakeWhile _ isPadding (cs.dropWhile isPadding)
  refine ⟨cs.takeWhile isPadding, (cs.dropWhile isPadding).rtakeWhile isPadding, ?_,
    fun c hc => List.mem_takeWhile_imp hc, fun c hc => List.mem_rtakeWhile_imp hc⟩
  rw [List.append_assoc]
  exact (hfront.symm).trans (congrArg _ hback.symm)

/-- What holds no padding is left over. -/
theorem trimPadding_append {before cs after : List Char} (hne : cs ≠ [])
    (hbefore : ∀ c ∈ before, isPadding c = true) (hcs : ∀ c ∈ cs, isPadding c = false)
    (hafter : ∀ c ∈ after, isPadding c = true) : trimPadding (before ++ cs ++ after) = cs := by
  have hdrop : ∀ {front rest : List Char}, (∀ c ∈ front, isPadding c = true) →
      (∀ c ∈ rest.head?, isPadding c = false) → (front ++ rest).dropWhile isPadding = rest := by
    intro front rest hfront hrest
    rw [List.dropWhile_append_of_pos hfront]
    cases rest with
    | nil => rfl
    | cons c rest => rw [List.dropWhile_cons_of_neg (by simp [hrest c rfl])]
  have hhead : ∀ c ∈ (cs ++ after).head?, isPadding c = false := fun c hc => by
    rw [List.head?_append_of_ne_nil _ hne] at hc
    exact hcs c (List.mem_of_head? hc)
  have hlast : ∀ c ∈ cs.reverse.head?, isPadding c = false := fun c hc =>
    hcs c (List.mem_reverse.1 (List.mem_of_head? hc))
  rw [trimPadding, List.append_assoc, hdrop hbefore hhead, List.reverse_append,
    hdrop (fun c hc => hafter c (List.mem_reverse.1 hc)) hlast, List.reverse_reverse]

/-! ### Integers -/

/-- The reader of integers accepts just the texts that are integers. -/
theorem readInteger?_eq_some_iff {s : String} {z : Int} :
    readInteger? s = some z ↔ SpellsInteger s.toList z := by
  constructor
  · intro h
    obtain ⟨before, after, hs, hbefore, hafter⟩ := exists_trimPadding s.toList
    unfold readInteger? at h
    split at h
    · next cs hcs =>
      obtain ⟨n, hn, rfl⟩ := Option.map_eq_some_iff.1 h
      rw [hcs] at hs
      exact ⟨before, ['+'], cs, after, n, hs, hbefore, hafter, readNatural?_eq_some_iff.1 hn,
        .inl ⟨.inr rfl, rfl⟩⟩
    · next cs hcs =>
      obtain ⟨n, hn, rfl⟩ := Option.map_eq_some_iff.1 h
      rw [hcs] at hs
      exact ⟨before, ['-'], cs, after, n, hs, hbefore, hafter, readNatural?_eq_some_iff.1 hn,
        .inr ⟨rfl, rfl⟩⟩
    · obtain ⟨n, hn, rfl⟩ := Option.map_eq_some_iff.1 h
      exact ⟨before, [], trimPadding s.toList, after, n, hs, hbefore, hafter,
        readNatural?_eq_some_iff.1 hn, .inl ⟨.inl rfl, rfl⟩⟩
  · rintro ⟨before, sign, body, after, n, hs, hbefore, hafter, hn, hz⟩
    have hread := readNatural?_eq_some_iff.2 hn
    obtain ⟨ds, hds, -⟩ := hn
    obtain ⟨c, rest, d, hbody, hc⟩ := hds.head
    have hsign : ∀ c ∈ sign, isPadding c = false := by
      rcases hz with ⟨rfl | rfl, -⟩ | ⟨rfl, -⟩
      · exact List.forall_mem_nil _
      · exact List.forall_mem_singleton.2 (by decide)
      · exact List.forall_mem_singleton.2 (by decide)
    have htrim : trimPadding s.toList = sign ++ body := by
      rw [hs]
      refine trimPadding_append (by simp [hbody]) hbefore ?_ hafter
      exact List.forall_mem_append.2 ⟨hsign, hds.not_padding⟩
    rw [readInteger?, htrim]
    rcases hz with ⟨rfl | rfl, rfl⟩ | ⟨rfl, rfl⟩
    · -- the first digit is no sign
      obtain ⟨-, hplus, hminus⟩ := ne_mark_of_digitValue? hc
      subst hbody
      rw [List.nil_append]
      split
      · next heq => exact absurd (List.cons.inj heq).1 hplus
      · next heq => exact absurd (List.cons.inj heq).1 hminus
      · rw [hread]
        rfl
    · exact congrArg (Option.map Int.ofNat) hread
    · exact congrArg (Option.map fun n => -Int.ofNat n) hread

theorem isBlankText_of_spellsInteger {s : String} {z : Int} (h : SpellsInteger s.toList z) :
    isBlankText s = false := by
  obtain ⟨before, sign, body, after, n, hs, -, -, ⟨ds, hds, -⟩, -⟩ := h
  obtain ⟨c, rest, d, rfl, hc⟩ := hds.head
  rw [isBlankText, hs]
  simp [isBlank_of_digitValue? hc]

end RollPad.Text
