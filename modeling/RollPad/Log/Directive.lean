/-!
Directives, as patterns for log lines write them: a percent sign, the name of a field in
parentheses, flags, a width, a precision, perhaps a letter for the size of a number, and a
conversion letter, as in `%(levelname)-10s`. A pattern is read into pieces: characters that stand
for themselves, and directives; two percent signs stand for one.
-/

namespace RollPad.Log

/-- A directive as it is written. -/
structure Directive where
  field : Option (List Char)
  flags : List Char
  width : List Char
  precision : Option (List Char)
  conversion : Char
  deriving DecidableEq

/-- The characters that change how a value is filled up. -/
def isFlag (c : Char) : Bool :=
  ['#', '0', '+', ' ', '-'].contains c

/-- The letters that tell the size of a number, and change nothing. -/
def isSizeLetter (c : Char) : Bool :=
  ['h', 'l', 'L'].contains c

/-- The name in parentheses, if the text begins with one. A parenthesis that is not closed is a
fault. -/
def fieldName? : List Char → Option (Option (List Char) × List Char)
  | '(' :: cs =>
    match cs.dropWhile (· ≠ ')') with
    | [] => none
    | _ :: rest => some (some (cs.takeWhile (· ≠ ')')), rest)
  | cs => some (none, cs)

/-- A width or precision: a star or digits, perhaps none. -/
def amount : List Char → List Char × List Char
  | '*' :: cs => (['*'], cs)
  | cs => (cs.takeWhile Char.isDigit, cs.dropWhile Char.isDigit)

/-- A precision after its point, if the text begins with one. -/
def precision : List Char → Option (List Char) × List Char
  | '.' :: cs => ((some (amount cs).1), (amount cs).2)
  | cs => (none, cs)

/-- What follows a size letter, if the text begins with one. -/
def skipSizeLetter : List Char → List Char
  | [] => []
  | c :: cs => if isSizeLetter c then cs else c :: cs

/-- The directive after a percent sign, and the text after it. -/
def directive? (cs : List Char) : Option (Directive × List Char) := do
  let (field, cs) ← fieldName? cs
  let flags := cs.takeWhile isFlag
  let (width, cs) := amount (cs.dropWhile isFlag)
  let (precision, cs) := precision cs
  match skipSizeLetter cs with
  | [] => none
  | conversion :: rest => some (⟨field, flags, width, precision, conversion⟩, rest)

/-! ### Every directive has a length -/

theorem length_fieldName? {cs rest : List Char} {f : Option (List Char)}
    (h : fieldName? cs = some (f, rest)) : rest.length ≤ cs.length := by
  unfold fieldName? at h
  split at h
  · rename_i ds
    split at h
    · simp at h
    · rename_i c tail hd
      have := (List.dropWhile_sublist (fun c : Char => decide (c ≠ ')')) (l := ds)).length_le
      rw [hd] at this
      simp only [Option.some.injEq, Prod.mk.injEq] at h
      obtain ⟨-, rfl⟩ := h
      simp only [List.length_cons] at this ⊢
      omega
  · simp only [Option.some.injEq, Prod.mk.injEq] at h
    obtain ⟨-, rfl⟩ := h
    exact Nat.le_refl _

theorem length_amount (cs : List Char) : (amount cs).2.length ≤ cs.length := by
  unfold amount
  split
  · simp
  · exact (List.dropWhile_sublist _).length_le

theorem length_precision (cs : List Char) : (precision cs).2.length ≤ cs.length := by
  unfold precision
  split
  · rename_i ds
    have := length_amount ds
    simp only [List.length_cons]
    omega
  · exact Nat.le_refl _

theorem length_skipSizeLetter (cs : List Char) : (skipSizeLetter cs).length ≤ cs.length := by
  unfold skipSizeLetter
  split
  · exact Nat.le_refl _
  · split
    · simp
    · exact Nat.le_refl _

/-- Reading a directive uses at least its conversion letter. -/
theorem length_directive? {cs rest : List Char} {d : Directive}
    (h : directive? cs = some (d, rest)) : rest.length < cs.length := by
  unfold directive? at h
  cases hf : fieldName? cs with
  | none => simp [hf, bind, Option.bind] at h
  | some p =>
    obtain ⟨f, ds⟩ := p
    simp only [hf, bind, Option.bind] at h
    have h₁ := length_fieldName? hf
    have h₂ := (List.dropWhile_sublist isFlag (l := ds)).length_le
    have h₃ := length_amount (ds.dropWhile isFlag)
    have h₄ := length_precision (amount (ds.dropWhile isFlag)).2
    have h₅ := length_skipSizeLetter (precision (amount (ds.dropWhile isFlag)).2).2
    split at h
    · simp at h
    · rename_i c tail hc
      simp only [Option.some.injEq, Prod.mk.injEq] at h
      obtain ⟨-, rfl⟩ := h
      rw [hc] at h₅
      simp only [List.length_cons] at h₅
      omega

/-! ### Pieces -/

/-- A piece of a pattern: one character of text, or a directive. -/
inductive Piece where
  | char (c : Char)
  | directive (d : Directive)
  deriving DecidableEq

/-- The piece that a percent sign begins, and the text after it. -/
def percentPiece? : List Char → Option (Piece × List Char)
  | '%' :: rest => some (.char '%', rest)
  | cs => (directive? cs).map fun (d, rest) => (.directive d, rest)

theorem length_percentPiece? {cs rest : List Char} {p : Piece}
    (h : percentPiece? cs = some (p, rest)) : rest.length < cs.length := by
  unfold percentPiece? at h
  split at h
  · simp only [Option.some.injEq, Prod.mk.injEq] at h
    obtain ⟨-, rfl⟩ := h
    simp
  · obtain ⟨⟨d, tail⟩, hd, he⟩ := Option.map_eq_some_iff.1 h
    simp only [Prod.mk.injEq] at he
    obtain ⟨-, rfl⟩ := he
    exact length_directive? hd

/-- The pieces of a pattern in order; a percent sign that begins no piece is a fault. -/
def pieces? : List Char → Option (List Piece)
  | [] => some []
  | c :: cs =>
    if c = '%' then
      match _h : percentPiece? cs with
      | none => none
      | some (p, rest) => (pieces? rest).map (p :: ·)
    else (pieces? cs).map (.char c :: ·)
termination_by cs => cs.length
decreasing_by
  · have := length_percentPiece? _h
    simp only [List.length_cons]
    omega
  · simp

end RollPad.Log
