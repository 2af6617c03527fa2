import RollPad.Binary64.Shortest

/-!
Sources of draws. A source replays a list of doubles in order and starts over at its end, so draw
number `j` of a source is the value at `j` modulo the length of the list. A cycle has been checked
to hold only draws from zero up to one; the values of a system source are taken as they come.
-/

namespace RollPad

/-- Where draws come from. -/
inductive SourceKind where
  | cycle
  | system
  deriving DecidableEq

/-- A replay of draws and how many have been taken. -/
structure Source where
  kind : SourceKind
  values : List Binary64
  values_ne_nil : values ≠ []
  position : Nat := 0
  deriving DecidableEq

/-- Why values make no cycle. -/
inductive SourceError where
  | noValues
  | outOfRange (value : Binary64)
  deriving DecidableEq

namespace SourceError

/-- What is wrong, in words. -/
def message : SourceError → String
  | noValues => "CycleSource needs at least one value"
  | outOfRange value => "Draws must lie in [0, 1), got " ++ value.text

end SourceError

namespace Source

/-- The cycle of these values, if they can be draws; the first that cannot is the error. -/
def cycle (values : List Binary64) : Except SourceError Source :=
  if h : values = [] then .error .noValues
  else
    match values.find? (!·.inUnitInterval) with
    | some value => .error (.outOfRange value)
    | none => .ok { kind := .cycle, values, values_ne_nil := h }

/-- The system source that replays these values; without any, it draws zeros. -/
def system (values : List Binary64) : Source :=
  if h : values = [] then
    { kind := .system, values := [.finite false Magnitude.zero], values_ne_nil := by simp }
  else { kind := .system, values, values_ne_nil := h }

/-- The name that a report gives to the source. -/
def name (s : Source) : String :=
  match s.kind with
  | .cycle => "cycle"
  | .system => "secrets.SystemRandom"

/-- Draw number `j`. -/
def drawAt (s : Source) (j : Nat) : Binary64 :=
  s.values.get ⟨j % s.values.length, Nat.mod_lt _ (List.length_pos_iff.2 s.values_ne_nil)⟩

/-- The source after `n` more draws. -/
def advance (s : Source) (n : Nat) : Source :=
  { s with position := s.position + n }

/-- Take a draw. -/
def draw (s : Source) : Binary64 × Source :=
  (s.drawAt s.position, s.advance 1)

/-! ### Moving along -/

theorem advance_zero (s : Source) : s.advance 0 = s := rfl

theorem advance_advance (s : Source) (m n : Nat) : (s.advance m).advance n = s.advance (m + n) := by
  simp [advance, Nat.add_assoc]

theorem drawAt_advance (s : Source) (n j : Nat) : (s.advance n).drawAt j = s.drawAt j := rfl

end Source

end RollPad
