/-!
Roll terms. A term asks for a positive number of dice with a positive number of sides; it is written
with the letter `d` between the two numbers, as in `3d6`, and an expression is written as its terms
with one space between neighbours.
-/

namespace RollPad

/-- A number of dice with a number of sides, both positive. -/
structure Term where
  count : Nat
  sides : Nat
  count_pos : 0 < count
  sides_pos : 0 < sides
  deriving DecidableEq

/-- A count and a number of sides of which one is not positive. -/
structure NotPositive where
  count : Int
  sides : Int
  deriving DecidableEq

namespace NotPositive

/-- What is wrong, in words. -/
def message (e : NotPositive) : String :=
  "Roll terms need a positive count and sides, got " ++ e.count.repr ++ "d" ++ e.sides.repr

end NotPositive

namespace Term

/-- The term with this count and these sides, if both are positive. -/
def ofInts (count sides : Int) : Except NotPositive Term :=
  if h : 1 ≤ count ∧ 1 ≤ sides then .ok ⟨count.toNat, sides.toNat, by omega, by omega⟩
  else .error ⟨count, sides⟩

/-- The terms with these counts and sides; the first pair that is not positive is the error. -/
def listOfInts : List (Int × Int) → Except NotPositive (List Term)
  | [] => .ok []
  | (count, sides) :: rest => do return (← ofInts count sides) :: (← listOfInts rest)

/-- A term in canonical notation. -/
def text (t : Term) : String :=
  t.count.repr ++ "d" ++ t.sides.repr

end Term

/-- An expression in canonical notation. -/
def formatTerms (ts : List Term) : String :=
  " ".intercalate (ts.map Term.text)

end RollPad
