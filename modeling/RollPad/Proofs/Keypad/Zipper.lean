import Mathlib.Data.List.Induction
import Mathlib.Logic.Function.Iterate
import RollPad.Proofs.Keypad.Buffer

/-!
The edit buffer as a zipper. A zipper keeps the characters before the caret apart from those after
it, so its operations only touch the cut, and no caret can lie outside the text. The buffer works
with one text and an index instead; `Zipper.toBuffer_apply` says that each of its operations does
what the zipper does, and `buffer_refines_zipper` that so does every run of them, with what follows
for the buffers that are reached.
-/

namespace RollPad

/-- A text that is cut at the caret: the characters before the caret and those after it. -/
structure Zipper where
  left : List Char
  right : List Char

namespace Zipper

/-- The zipper of a text, with the caret at its end. -/
def ofText (text : String) : Zipper :=
  ⟨text.toList, []⟩

/-- The text and the caret of a zipper. -/
def toBuffer (z : Zipper) : Buffer :=
  ⟨String.ofList (z.left ++ z.right), z.left.length⟩

/-- The last character on the left goes over to the right, if there is one. -/
def moveLeft (z : Zipper) : Zipper :=
  match z.left.getLast? with
  | none => z
  | some c => ⟨z.left.dropLast, c :: z.right⟩

/-- The first character on the right goes over to the left, if there is one. -/
def moveRight (z : Zipper) : Zipper :=
  match z.right with
  | [] => z
  | c :: right => ⟨z.left ++ [c], right⟩

/-- Carry out an operation. -/
def apply (z : Zipper) : Edit → Zipper
  | .insert text => ⟨z.left ++ text.toList, z.right⟩
  | .deleteBefore => ⟨z.left.dropLast, z.right⟩
  | .clear => ⟨[], []⟩
  | .setText text => ofText text
  | .moveLeft => z.moveLeft
  | .moveRight => z.moveRight
  | .moveHome => ⟨[], z.left ++ z.right⟩
  | .moveEnd => ⟨z.left ++ z.right, []⟩

end Zipper

namespace Edit

/-- What an operation needs in order to do anything. -/
def Ready (b : Buffer) : Edit → Prop
  | deleteBefore => 0 < b.caret
  | moveLeft => 0 < b.caret
  | moveRight => b.caret < b.text.length
  | _ => True

/-- Does an operation only move the caret? -/
def isMove : Edit → Bool
  | moveLeft => true
  | moveRight => true
  | moveHome => true
  | moveEnd => true
  | _ => false

end Edit

/-- Carry out an operation, but leave the caret where the operation itself has put it. -/
def Buffer.applyUnclamped (b : Buffer) : Edit → Buffer
  | .insert text =>
    ⟨String.ofList (b.before ++ text.toList ++ b.after), b.caret + text.length⟩
  | .deleteBefore =>
    if b.caret = 0 then b
    else ⟨String.ofList (b.text.toList.take (b.caret - 1) ++ b.after), b.caret - 1⟩
  | e => b.apply e

/-! ### Cutting at the caret -/

namespace Zipper

theorem ofText_toBuffer (text : String) : (ofText text).toBuffer = .ofText text := by
  simp [ofText, toBuffer, Buffer.ofText, String.length_toList]

theorem toBuffer_text (z : Zipper) : z.toBuffer.text.toList = z.left ++ z.right :=
  String.toList_ofList

theorem toBuffer_before (z : Zipper) : z.toBuffer.before = z.left := by
  rw [Buffer.before, toBuffer_text]
  exact List.take_left

theorem toBuffer_after (z : Zipper) : z.toBuffer.after = z.right := by
  rw [Buffer.after, toBuffer_text]
  exact List.drop_left

theorem valid_toBuffer (z : Zipper) : z.toBuffer.Valid := by
  rw [Buffer.Valid, toBuffer, String.length_ofList, List.length_append]
  exact Nat.le_add_right _ _

end Zipper

/-- A caret within the text cuts it. -/
theorem Buffer.Valid.exists_zipper {b : Buffer} (h : b.Valid) : ∃ z : Zipper, z.toBuffer = b := by
  refine ⟨⟨b.before, b.after⟩, ?_⟩
  have hcaret : b.before.length = b.caret := List.length_take_of_le (by
    rw [String.length_toList]
    exact h)
  rw [Zipper.toBuffer, hcaret, before, after, List.take_append_drop, String.ofList_toList]

/-- Clamping does nothing to a caret within the text. -/
theorem Buffer.Valid.clamp_eq {b : Buffer} (h : b.Valid) : b.clamp = b := by
  rw [clamp, Nat.min_eq_left h]

/-! ### One operation -/

namespace Zipper

theorem toBuffer_moveLeft (z : Zipper) : z.moveLeft.toBuffer = z.toBuffer.moveLeft := by
  obtain ⟨left, right⟩ := z
  cases left using List.reverseRecOn with
  | nil => rfl
  | append_singleton left c => simp [moveLeft, toBuffer, Buffer.moveLeft]

theorem toBuffer_moveRight (z : Zipper) : z.moveRight.toBuffer = z.toBuffer.moveRight := by
  obtain ⟨left, right⟩ := z
  cases right with
  | nil => simp [moveRight, toBuffer, Buffer.moveRight]
  | cons c right => simp [moveRight, toBuffer, Buffer.moveRight]

/-- Before its caret is clamped, a buffer is what the zipper says. -/
theorem toBuffer_apply_eq_unclamped (z : Zipper) (e : Edit) :
    (z.apply e).toBuffer = z.toBuffer.applyUnclamped e := by
  cases e with
  | insert text =>
    rw [Buffer.applyUnclamped, toBuffer_before, toBuffer_after]
    simp [apply, toBuffer, String.length_toList]
  | deleteBefore =>
    rw [Buffer.applyUnclamped, toBuffer_after, toBuffer_text]
    obtain ⟨left, right⟩ := z
    cases left using List.reverseRecOn with
    | nil => rfl
    | append_singleton left c => simp [apply, toBuffer]
  | clear => rfl
  | setText text => exact ofText_toBuffer text
  | moveLeft => exact z.toBuffer_moveLeft
  | moveRight => exact z.toBuffer_moveRight
  | moveHome => rfl
  | moveEnd => simp [apply, toBuffer, Buffer.applyUnclamped, Buffer.apply, Buffer.moveEnd]

end Zipper

/-- No operation puts the caret outside the text, so there is nothing to clamp. -/
theorem Buffer.Valid.apply_eq_unclamped {b : Buffer} (h : b.Valid) (e : Edit) :
    b.apply e = b.applyUnclamped e := by
  obtain ⟨z, rfl⟩ := h.exists_zipper
  have hvalid := (z.apply e).valid_toBuffer
  rw [z.toBuffer_apply_eq_unclamped] at hvalid
  cases e with
  | insert text => exact hvalid.clamp_eq
  | deleteBefore =>
    rw [applyUnclamped] at hvalid ⊢
    rw [Buffer.apply, Buffer.deleteBefore]
    split
    · rfl
    · next hcaret =>
      rw [if_neg hcaret] at hvalid
      exact hvalid.clamp_eq
  | _ => rfl

/-- An operation on the buffer is the operation on the zipper. -/
theorem Zipper.toBuffer_apply (z : Zipper) (e : Edit) :
    (z.apply e).toBuffer = z.toBuffer.apply e := by
  rw [z.toBuffer_apply_eq_unclamped, z.valid_toBuffer.apply_eq_unclamped]

/-! ### What operations leave alone -/

namespace Buffer

theorem apply_of_not_ready {b : Buffer} {e : Edit} (h : ¬e.Ready b) : b.apply e = b := by
  cases e with
  | deleteBefore =>
    have hcaret : b.caret = 0 := Nat.eq_zero_of_not_pos h
    rw [apply, deleteBefore, if_pos hcaret]
  | moveLeft =>
    have hcaret : b.caret = 0 := Nat.eq_zero_of_not_pos h
    rw [apply, moveLeft, hcaret, Nat.zero_sub, ← hcaret]
  | moveRight =>
    have hcaret : ¬b.caret < b.text.length := h
    rw [apply, moveRight, if_neg hcaret]
  | _ => exact absurd trivial h

theorem text_apply_of_isMove {b : Buffer} {e : Edit} (h : e.isMove = true) :
    (b.apply e).text = b.text := by
  cases e with
  | moveRight =>
    rw [apply, moveRight]
    split <;> rfl
  | moveLeft | moveHome | moveEnd => rfl
  | _ => cases h

/-- Texts that are inserted one after the other are inserted as one. -/
theorem Valid.insert_insert {b : Buffer} (h : b.Valid) (s t : String) :
    (b.insert s).insert t = b.insert (s ++ t) := by
  obtain ⟨z, rfl⟩ := h.exists_zipper
  change (z.toBuffer.apply (.insert s)).apply (.insert t) = z.toBuffer.apply (.insert (s ++ t))
  rw [← Zipper.toBuffer_apply, ← Zipper.toBuffer_apply, ← Zipper.toBuffer_apply]
  simp [Zipper.apply]

end Buffer

/-- Deleting takes characters off the left, from the last one on. -/
theorem Zipper.iterate_deleteBefore (left cs right : List Char) :
    (fun z : Zipper => z.apply .deleteBefore)^[cs.length] ⟨left ++ cs, right⟩ = ⟨left, right⟩ := by
  induction cs using List.reverseRecOn with
  | nil => simp
  | append_singleton cs c ih =>
    rw [List.length_append, List.length_singleton, Function.iterate_succ_apply]
    have hlast : Zipper.apply ⟨left ++ (cs ++ [c]), right⟩ .deleteBefore = ⟨left ++ cs, right⟩ := by
      simp [apply, ← List.append_assoc]
    rw [hlast]
    exact ih

/-- What has been inserted is deleted again by as many deletions as it has characters. -/
theorem Buffer.Valid.deleteBefore_insert {b : Buffer} (h : b.Valid) (s : String) :
    Buffer.deleteBefore^[s.length] (b.insert s) = b := by
  obtain ⟨z, rfl⟩ := h.exists_zipper
  have hdelete : Function.Semiconj Zipper.toBuffer (fun z => z.apply .deleteBefore)
      Buffer.deleteBefore := fun z => z.toBuffer_apply .deleteBefore
  have hinsert : z.toBuffer.insert s = (z.apply (.insert s)).toBuffer :=
    (z.toBuffer_apply (.insert s)).symm
  rw [hinsert, ← (hdelete.iterate_right s.length).eq, ← String.length_toList]
  exact congrArg Zipper.toBuffer (Zipper.iterate_deleteBefore z.left s.toList z.right)

/-! ### A run of operations -/

/-- A run of operations on the buffer is the run on the zipper. -/
theorem Zipper.toBuffer_foldl (edits : List Edit) (z : Zipper) :
    (edits.foldl apply z).toBuffer = edits.foldl Buffer.apply z.toBuffer := by
  induction edits generalizing z with
  | nil => rfl
  | cons e rest ih => rw [List.foldl_cons, List.foldl_cons, ih, z.toBuffer_apply]

/-- From any text on, the buffer goes through the states of the zipper. So in every state that is
reached the caret is within the text and is never clamped; an operation that is not ready does
nothing, and one that moves the caret does nothing to the text; insertions add up, and deletions
take them back. -/
theorem buffer_refines_zipper (text : String) (edits : List Edit) :
    let b := edits.foldl Buffer.apply (.ofText text)
    b = (edits.foldl Zipper.apply (.ofText text)).toBuffer ∧
      b.caret ≤ b.text.length ∧
      (∀ e, b.apply e = b.applyUnclamped e ∧ (b.applyUnclamped e).clamp = b.applyUnclamped e) ∧
      (∀ e, ¬e.Ready b → b.apply e = b) ∧
      (∀ e, e.isMove = true → (b.apply e).text = b.text) ∧
      (∀ s t, (b.insert s).insert t = b.insert (s ++ t)) ∧
      ∀ s, Buffer.deleteBefore^[s.length] (b.insert s) = b := by
  intro b
  have hzipper : b = (edits.foldl Zipper.apply (.ofText text)).toBuffer := by
    rw [Zipper.toBuffer_foldl, Zipper.ofText_toBuffer]
  have hvalid : b.Valid := by
    rw [hzipper]
    exact Zipper.valid_toBuffer _
  refine ⟨hzipper, hvalid, fun e => ⟨hvalid.apply_eq_unclamped e, ?_⟩,
    fun _ => Buffer.apply_of_not_ready, fun _ => Buffer.text_apply_of_isMove,
    hvalid.insert_insert, hvalid.deleteBefore_insert⟩
  rw [← hvalid.apply_eq_unclamped e]
  exact (hvalid.apply e).clamp_eq

/-- An insertion between two characters, and a caret that is at neither end. -/
theorem buffer_refines_zipper_inside :
    let b := [Edit.moveLeft, .moveLeft, .insert "0", .moveHome].foldl Buffer.apply (.ofText "3d6")
    b = ⟨"30d6", 0⟩ ∧ ¬Edit.deleteBefore.Ready b ∧ b.apply .deleteBefore = b ∧
      Edit.moveRight.isMove = true ∧ (b.apply .moveRight).text = b.text := by
  intro b
  have hready : ¬Edit.deleteBefore.Ready b := Nat.lt_irrefl 0
  obtain ⟨-, -, -, hidle, hmove, -⟩ :=
    buffer_refines_zipper "3d6" [.moveLeft, .moveLeft, .insert "0", .moveHome]
  exact ⟨by decide +kernel, hready, hidle .deleteBefore hready, rfl, hmove .moveRight rfl⟩

end RollPad
