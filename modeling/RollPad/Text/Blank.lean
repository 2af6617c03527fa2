/-!
White space and words. A text is cut at every white-space character; the non-empty pieces, in
order, are its words. The normal form of a text has no white space at its ends and one space for
every run of white space inside, and the tokens of a text are the pieces of its normal form between
the spaces.
-/

namespace RollPad.Text

/-- White space: the ASCII layout and separator controls, the space, and the Unicode spaces and
line separators. -/
def isBlank (c : Char) : Bool :=
  let n := c.toNat
  (0x09 ≤ n && n ≤ 0x0D) || (0x1C ≤ n && n ≤ 0x20) || n == 0x85 || n == 0xA0 || n == 0x1680 ||
    (0x2000 ≤ n && n ≤ 0x200A) || n == 0x2028 || n == 0x2029 || n == 0x202F || n == 0x205F ||
    n == 0x3000

/-- The maximal runs of characters that are no white space, in order. -/
def wordLists (cs : List Char) : List (List Char) :=
  (cs.splitOnP isBlank).filter fun w => !w.isEmpty

/-- The words of a text, in order. -/
def words (s : String) : List String :=
  (wordLists s.toList).map String.ofList

/-- A text is blank when it holds nothing but white space. -/
def isBlankText (s : String) : Bool :=
  s.toList.all isBlank

/-- The text without the white space at its two ends. -/
def trim (cs : List Char) : List Char :=
  ((cs.dropWhile isBlank).reverse.dropWhile isBlank).reverse

/-- The text with one space in place of every run of white space. -/
def squeeze : List Char → List Char
  | [] => []
  | c :: cs =>
    if isBlank c then if cs.head?.any isBlank then squeeze cs else ' ' :: squeeze cs
    else c :: squeeze cs

/-- The normal form of a text. -/
def normalize (s : String) : String :=
  String.ofList (squeeze (trim s.toList))

/-- The pieces of the normal form of a text between its spaces; a blank text has one, which is
empty. -/
def tokens (s : String) : List String :=
  ((normalize s).toList.splitOn ' ').map String.ofList

/-! ### Words of pieces -/

theorem wordLists_nil : wordLists [] = [] := by
  simp [wordLists]

/-- White space separates: the words on both sides of it are independent. -/
theorem wordLists_append_cons (a b : List Char) {c : Char} (hc : isBlank c = true) :
    wordLists (a ++ c :: b) = wordLists a ++ wordLists b := by
  rw [wordLists, List.splitOnP_append_cons _ _ hc, List.filter_append]
  rfl

/-- A non-empty run without white space is one word. -/
theorem wordLists_of_forall {w : List Char} (hw : ∀ c ∈ w, isBlank c = false) (hne : w ≠ []) :
    wordLists w = [w] := by
  rw [wordLists, List.splitOnP_eq_singleton hw]
  simp [hne]

end RollPad.Text
