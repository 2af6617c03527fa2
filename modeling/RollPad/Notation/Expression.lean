import RollPad.Text.Blank
import RollPad.Text.Integer
import RollPad.Notation.Term
import RollPad.Notation.Error

/-!
Reading dice expressions. The tokens of a text are read in order, each as a term within the limits,
while the dice of the terms so far are added up; the first token at fault refuses the whole
expression. Only the tokens matter, not the white space between them.
-/

namespace RollPad

/-- The largest count and number of sides of one term, and the most dice of an expression. -/
structure Limits where
  maxCount : Int
  maxSides : Int
  maxTotal : Int
  deriving DecidableEq

/-- All three limits can be written out. -/
structure Limits.AreWritable (limits : Limits) : Prop where
  maxCount : Text.IsWritable limits.maxCount
  maxSides : Text.IsWritable limits.maxSides
  maxTotal : Text.IsWritable limits.maxTotal

instance (limits : Limits) : Decidable limits.AreWritable :=
  decidable_of_iff
    (Text.IsWritable limits.maxCount ∧ Text.IsWritable limits.maxSides ∧
      Text.IsWritable limits.maxTotal)
    ⟨fun ⟨hc, hs, ht⟩ => ⟨hc, hs, ht⟩, fun h => ⟨h.maxCount, h.maxSides, h.maxTotal⟩⟩

namespace Term

/-- The two digit runs of a word made of ASCII digits, the letter `d` in either case, and ASCII
digits. -/
def parts? (token : List Char) : Option (List Char × List Char) :=
  let count := token.takeWhile Char.isDigit
  match token.dropWhile Char.isDigit with
  | [] => none
  | mark :: sides =>
    if (mark = 'd' ∨ mark = 'D') ∧ count ≠ [] ∧ sides ≠ [] ∧ sides.all Char.isDigit then
      some (count, sides)
    else none

/-- The number that a digit run denotes, if the run is not too long. -/
def number (part : TermPart) (token : String) (ds : List Char) : Except NotationError Nat :=
  if ds.length ≤ Text.maxDigits then .ok (Nat.ofDigitChars 10 ds 0)
  else .error (.tooLong part token)

/-- The term with these numbers, if they are positive and within the limits. -/
def within (limits : Limits) (token : String) (count sides : Nat) : Except NotationError Term :=
  if hc : count = 0 then .error (.noDice token)
  else if hs : sides = 0 then .error (.noSides token)
  else if limits.maxCount < count then .error (.tooManyDice token limits.maxCount)
  else if limits.maxSides < sides then .error (.tooManySides token limits.maxSides)
  else .ok ⟨count, sides, Nat.pos_of_ne_zero hc, Nat.pos_of_ne_zero hs⟩

/-- The term that one word denotes. -/
def read (limits : Limits) (token : String) : Except NotationError Term :=
  match parts? token.toList with
  | none => .error (.notATerm token)
  | some (count, sides) => do
    let count ← number .count token count
    let sides ← number .sides token sides
    within limits token count sides

end Term

/-- The terms of the tokens, given the dice of the terms before them. -/
def readTermsFrom (limits : Limits) : Nat → List String → Except NotationError (List Term)
  | _, [] => .ok []
  | before, token :: rest => do
    let term ← Term.read limits token
    let dice := before + term.count
    if limits.maxTotal < dice then .error (.tooManyInTotal limits.maxTotal)
    let terms ← readTermsFrom limits dice rest
    return term :: terms

/-- The terms of an expression, or the cause for which it is refused. -/
def readTerms (limits : Limits) (text : String) : Except NotationError (List Term) :=
  if Text.isBlankText text then .error .empty else readTermsFrom limits 0 (Text.tokens text)

/-- The dice of all terms together. -/
def diceTotal (ts : List Term) : Nat :=
  (ts.map Term.count).foldr (· + ·) 0

end RollPad
