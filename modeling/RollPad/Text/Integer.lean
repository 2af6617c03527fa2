import RollPad.Text.Blank

/-!
Integers as people write them into settings: one sign, digits of any script, and single underscores
between digits. A numeral has at most `maxDigits` digits, leading zeros included, so reading one
never takes long; nor are integers with more digits written out (`IsWritable`). What has been read
can be written (`isWritable_of_readInteger?`).
-/

namespace RollPad.Text

/-! ### Decimal digits -/

/-- The digit zero of each script, in increasing order. The characters of general category Nd come
in runs of ten, from the zero to the nine of a script, so these are the whole table. -/
def digitZeros : List Nat := [
  0x30, 0x660, 0x6F0, 0x7C0, 0x966, 0x9E6, 0xA66, 0xAE6, 0xB66, 0xBE6, 0xC66, 0xCE6, 0xD66,
  0xDE6, 0xE50, 0xED0, 0xF20, 0x1040, 0x1090, 0x17E0, 0x1810, 0x1946, 0x19D0, 0x1A80, 0x1A90,
  0x1B50, 0x1BB0, 0x1C40, 0x1C50, 0xA620, 0xA8D0, 0xA900, 0xA9D0, 0xA9F0, 0xAA50, 0xABF0, 0xFF10,
  0x104A0, 0x10D30, 0x11066, 0x110F0, 0x11136, 0x111D0, 0x112F0, 0x11450, 0x114D0, 0x11650,
  0x116C0, 0x11730, 0x118E0, 0x11950, 0x11C50, 0x11D50, 0x11DA0, 0x16A60, 0x16AC0, 0x16B50,
  0x1D7CE, 0x1D7D8, 0x1D7E2, 0x1D7EC, 0x1D7F6, 0x1E140, 0x1E2F0, 0x1E950, 0x1FBF0]

/-- The value of a decimal digit of any script. -/
def digitValue? (c : Char) : Option Nat :=
  (digitZeros.find? fun z => z ≤ c.toNat && c.toNat < z + 10).map fun z => c.toNat - z

theorem digitValue?_lt {c : Char} {v : Nat} (h : digitValue? c = some v) : v < 10 := by
  obtain ⟨z, hz, rfl⟩ := Option.map_eq_some_iff.1 h
  have hrun := List.find?_some hz
  simp only [Bool.and_eq_true, decide_eq_true_eq] at hrun
  omega

/-! ### Numerals -/

/-- The most digits a numeral may have. -/
def maxDigits : Nat := 4300

/-- White space that may stand around a number: all but the four ASCII separator controls. -/
def isPadding (c : Char) : Bool :=
  isBlank c && !(0x1C ≤ c.toNat && c.toNat ≤ 0x1F)

/-- The text without the padding at its two ends. -/
def trimPadding (cs : List Char) : List Char :=
  ((cs.dropWhile isPadding).reverse.dropWhile isPadding).reverse

/-- The digit values of a run of digits with single underscores between them. -/
def digitRun? : List Char → Option (List Nat)
  | [] => none
  | [c] => (digitValue? c).map ([·])
  | c :: d :: rest => do
    let v ← digitValue? c
    let vs ← if d = '_' then digitRun? rest else digitRun? (d :: rest)
    return v :: vs

/-- The number that a run of digit values denotes. -/
def ofDigitValues (ds : List Nat) : Nat :=
  ds.foldl (fun n d => 10 * n + d) 0

/-- A number without a sign. -/
def readNatural? (cs : List Char) : Option Nat := do
  let ds ← digitRun? cs
  if ds.length ≤ maxDigits then some (ofDigitValues ds) else none

/-- An integer with padding around it and at most one sign. -/
def readInteger? (s : String) : Option Int :=
  match trimPadding s.toList with
  | '+' :: cs => (readNatural? cs).map Int.ofNat
  | '-' :: cs => (readNatural? cs).map fun n => -Int.ofNat n
  | cs => (readNatural? cs).map Int.ofNat

/-! ### Writing -/

/-- An integer that can be written out: it has at most `maxDigits` digits. -/
def IsWritable (n : Int) : Prop :=
  n.natAbs < Nat.pow 10 maxDigits

instance (n : Int) : Decidable (IsWritable n) :=
  inferInstanceAs (Decidable (n.natAbs < Nat.pow 10 maxDigits))

/-- An integer in decimal notation, if it can be written out. -/
def numeral? (n : Int) : Option String :=
  if IsWritable n then some n.repr else none

theorem digitRun?_lt {cs : List Char} {vs : List Nat} (h : digitRun? cs = some vs) :
    ∀ v ∈ vs, v < 10 := by
  fun_induction digitRun? cs generalizing vs with
  | case1 => cases h
  | case2 c =>
    obtain ⟨v, hv, rfl⟩ := Option.map_eq_some_iff.1 h
    simpa using digitValue?_lt hv
  | case3 c d rest ih₁ ih₂ =>
    cases hv : digitValue? c with
    | none => simp [hv] at h
    | some v =>
      simp only [hv, Option.bind_eq_bind, Option.bind_some] at h
      split at h
      · obtain ⟨ws, hws, he⟩ := Option.bind_eq_some_iff.1 h
        cases he
        exact List.forall_mem_cons.2 ⟨digitValue?_lt hv, ih₁ hws⟩
      · obtain ⟨ws, hws, he⟩ := Option.bind_eq_some_iff.1 h
        cases he
        exact List.forall_mem_cons.2 ⟨digitValue?_lt hv, ih₂ hws⟩

theorem foldl_digits_lt {ds : List Nat} (h : ∀ d ∈ ds, d < 10) (n : Nat) :
    ds.foldl (fun n d => 10 * n + d) n < (n + 1) * Nat.pow 10 ds.length := by
  induction ds generalizing n with
  | nil => simp
  | cons d ds ih =>
    obtain ⟨hd, hds⟩ := List.forall_mem_cons.1 h
    refine Nat.lt_of_lt_of_le (ih hds _) ?_
    have hpow : Nat.pow 10 (ds.length + 1) = 10 * Nat.pow 10 ds.length := Nat.pow_succ'
    rw [List.length_cons, hpow, ← Nat.mul_assoc]
    refine Nat.mul_le_mul_right _ ?_
    dsimp only
    omega

/-- A number that has been read has no more digits than a numeral may have. -/
theorem readNatural?_lt {cs : List Char} {n : Nat} (h : readNatural? cs = some n) :
    n < Nat.pow 10 maxDigits := by
  obtain ⟨ds, hds, hn⟩ := Option.bind_eq_some_iff.1 h
  split at hn
  · next hlength =>
    cases hn
    have hpow : ∀ m, ds.length ≤ m → Nat.pow 10 ds.length ≤ Nat.pow 10 m :=
      fun m hm => Nat.pow_le_pow_right (by decide) hm
    refine Nat.lt_of_lt_of_le (foldl_digits_lt (digitRun?_lt hds) 0) ?_
    rw [Nat.zero_add, Nat.one_mul]
    exact hpow maxDigits hlength
  · cases hn

theorem isWritable_of_readInteger? {s : String} {n : Int} (h : readInteger? s = some n) :
    IsWritable n := by
  unfold readInteger? at h
  split at h <;> obtain ⟨m, hm, rfl⟩ := Option.map_eq_some_iff.1 h
  · simpa [IsWritable] using readNatural?_lt hm
  · simpa [IsWritable] using readNatural?_lt hm
  · simpa [IsWritable] using readNatural?_lt hm

end RollPad.Text
