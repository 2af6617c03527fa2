import RollPad.Dice.Source
import RollPad.Notation.Term

/-!
Rolling terms. A die takes one draw and shows `⌊draw · sides⌋ + 1`, where the number of sides is
first rounded to a double and the product is one. The dice of a term, and the terms of an
expression, are rolled in order. The draw is taken before anything can go wrong, so a failure has
used it up.
-/

namespace RollPad

/-- Why a die shows no face. -/
inductive DieError where
  /-- No double is near enough to the number of sides. -/
  | sidesTooLarge
  /-- The product of draw and sides is not a number. -/
  | notANumber
  /-- The product of draw and sides is infinite. -/
  | infinite
  deriving DecidableEq

namespace DieError

/-- What is wrong, in words. -/
def message : DieError → String
  | sidesTooLarge => "int too large to convert to float"
  | notANumber => "cannot convert float NaN to integer"
  | infinite => "cannot convert float infinity to integer"

end DieError

/-- The largest integer not above a double. -/
def Binary64.floor : Binary64 → Except DieError Int
  | nan => .error .notANumber
  | infinite _ => .error .infinite
  | finite negative m => .ok (floorFinite negative m)

/-- The face for a draw of a die whose number of sides is this double, if there is one. -/
def faceFor (draw : Binary64) : Option Magnitude → Except DieError Int
  | none => .error .sidesTooLarge
  | some size => (draw.mul (.finite false size)).floor.map (· + 1)

/-- The face that a die with this many sides shows for a draw. -/
def dieFace (sides : Nat) (draw : Binary64) : Except DieError Int :=
  faceFor draw (Magnitude.ofNat? sides)

/-- The sum of numbers. -/
def sumOf (ns : List Int) : Int :=
  ns.foldr (· + ·) 0

/-- What the dice of one term showed. -/
structure TermRoll where
  term : Term
  faces : List Int
  total : Int
  deriving DecidableEq

namespace TermRoll

/-- The roll of a term that showed these faces. -/
def ofFaces (term : Term) (faces : List Int) : TermRoll :=
  ⟨term, faces, sumOf faces⟩

end TermRoll

/-- The sum of the totals of all terms. -/
def grandTotal (rolls : List TermRoll) : Int :=
  sumOf (rolls.map TermRoll.total)

/-- Roll one die. -/
def rollDie (sides : Nat) (s : Source) : Except DieError Int × Source :=
  (dieFace sides s.draw.1, s.draw.2)

/-- Roll for every element of a list in order; the first roll that fails ends it. -/
def rollEach {α β : Type} (roll : α → Source → Except DieError β × Source) :
    List α → Source → Except DieError (List β) × Source
  | [], s => (.ok [], s)
  | x :: xs, s =>
    match roll x s with
    | (.error e, s) => (.error e, s)
    | (.ok y, s) =>
      match rollEach roll xs s with
      | (.error e, s) => (.error e, s)
      | (.ok ys, s) => (.ok (y :: ys), s)

/-- Roll `count` dice in order. -/
def rollDice (sides count : Nat) (s : Source) : Except DieError (List Int) × Source :=
  rollEach (fun _ => rollDie sides) (List.range count) s

/-- Roll the dice of a term. -/
def rollTerm (term : Term) (s : Source) : Except DieError TermRoll × Source :=
  match rollDice term.sides term.count s with
  | (.error e, s) => (.error e, s)
  | (.ok faces, s) => (.ok (.ofFaces term faces), s)

/-- Roll the terms in order. -/
def rollTerms (terms : List Term) (s : Source) : Except DieError (List TermRoll) × Source :=
  rollEach rollTerm terms s

end RollPad
