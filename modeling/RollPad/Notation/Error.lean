import RollPad.Text.Integer

/-!
Why an expression is refused. Every cause has one message, and every message begins with the same
words, so that a user sees at once that the notation is at fault. A cause that names a limit with
more digits than are written out has no message, and is no refusal.
-/

namespace RollPad

/-- The two numbers of a term. -/
inductive TermPart where
  | count
  | sides
  deriving DecidableEq

/-- The cause for which an expression is refused; `token` is the word at fault. -/
inductive NotationError where
  /-- There is no word at all. -/
  | empty
  /-- The word is no count, `d` and number of sides. -/
  | notATerm (token : String)
  /-- A number of the word has too many digits to be read. -/
  | tooLong (part : TermPart) (token : String)
  | noDice (token : String)
  | noSides (token : String)
  | tooManyDice (token : String) (limit : Int)
  | tooManySides (token : String) (limit : Int)
  /-- The words up to this one ask for too many dice together. -/
  | tooManyInTotal (limit : Int)
  deriving DecidableEq

namespace NotationError

/-- How every message begins. -/
def opening : String := "Invalid dice notation: "

/-- The specific part of the message, unless it names a limit that cannot be written out. -/
def reason? : NotationError → Option String
  | empty => some "empty input. Example: '3d6' or '2d6 1d20'."
  | notATerm token => some ("could not understand '" ++ token ++ "'. Example: '3d6 2d8'.")
  | tooLong .count token => some ("count in '" ++ token ++ "' is too long")
  | tooLong .sides token => some ("sides in '" ++ token ++ "' is too long")
  | noDice token => some ("dice count must be at least 1 in '" ++ token ++ "'")
  | noSides token => some ("dice need at least 1 side in '" ++ token ++ "'")
  | tooManyDice token limit =>
    (Text.numeral? limit).map ("too many dice in '" ++ token ++ "' (max " ++ · ++ ")")
  | tooManySides token limit =>
    (Text.numeral? limit).map ("too many sides in '" ++ token ++ "' (max " ++ · ++ ")")
  | tooManyInTotal limit => (Text.numeral? limit).map ("too many dice in total (max " ++ · ++ ")")

/-- The message that a user sees. -/
def message? (e : NotationError) : Option String :=
  e.reason?.map (opening ++ ·)

/-- The limit that a cause names. -/
def limit? : NotationError → Option Int
  | tooManyDice _ limit | tooManySides _ limit | tooManyInTotal limit => some limit
  | _ => none

/-- There is a message unless the limit that it names is too long for one. -/
theorem isSome_message?_iff (e : NotationError) :
    e.message?.isSome = true ↔ ∀ limit ∈ e.limit?, Text.IsWritable limit := by
  have hnumeral : ∀ n, (Text.numeral? n).isSome = true ↔ Text.IsWritable n := by
    intro n
    rw [Text.numeral?]
    split <;> simp [*]
  rw [message?, Option.isSome_map]
  cases e with
  | tooLong part token => cases part <;> simp [reason?, limit?]
  | tooManyDice token limit => simp [reason?, limit?, hnumeral]
  | tooManySides token limit => simp [reason?, limit?, hnumeral]
  | tooManyInTotal limit => simp [reason?, limit?, hnumeral]
  | _ => simp [reason?, limit?]

end NotationError

/-- The refusal of an expression: a cause that has a message. -/
structure Refusal where
  cause : NotationError
  told : cause.message?.isSome = true
  deriving DecidableEq

namespace Refusal

/-- The refusal of a text without words. -/
def empty : Refusal :=
  ⟨.empty, rfl⟩

/-- The message that a user sees. -/
def message (r : Refusal) : String :=
  r.cause.message?.get r.told

/-- Every message begins with the same words. -/
theorem exists_message_eq (r : Refusal) :
    ∃ reason, r.message = NotationError.opening ++ reason := by
  have hmessage : r.cause.message? = some r.message := (Option.some_get r.told).symm
  obtain ⟨reason, -, hreason⟩ := Option.map_eq_some_iff.1 hmessage
  exact ⟨reason, hreason.symm⟩

end Refusal

end RollPad
