import RollPad.Keypad.Buffer

/-!
The caret of the edit buffer. No operation moves it past the end of the text, so a buffer that
starts out valid stays valid.
-/

namespace RollPad

namespace Buffer

/-- The caret is not past the end of the text. -/
def Valid (b : Buffer) : Prop :=
  b.caret ≤ b.text.length

theorem valid_ofText (text : String) : (ofText text).Valid :=
  Nat.le_refl _

theorem valid_clamp (b : Buffer) : b.clamp.Valid :=
  Nat.min_le_right _ _

theorem Valid.deleteBefore {b : Buffer} (h : b.Valid) : b.deleteBefore.Valid := by
  unfold Buffer.deleteBefore
  split
  · exact h
  · exact valid_clamp _

theorem Valid.moveRight {b : Buffer} (h : b.Valid) : b.moveRight.Valid := by
  unfold Buffer.moveRight
  split
  · next hlt => exact hlt
  · exact h

/-- Every operation keeps the caret within the text. -/
theorem Valid.apply {b : Buffer} (h : b.Valid) (e : Edit) : (b.apply e).Valid := by
  cases e with
  | insert text => exact valid_clamp _
  | deleteBefore => exact h.deleteBefore
  | clear => exact Nat.le_refl _
  | setText text => exact valid_ofText text
  | moveLeft => exact Nat.le_trans (Nat.sub_le _ _) h
  | moveRight => exact h.moveRight
  | moveHome => exact Nat.zero_le _
  | moveEnd => exact Nat.le_refl _

end Buffer

end RollPad
