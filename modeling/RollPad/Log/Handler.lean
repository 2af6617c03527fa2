import RollPad.Log.Pattern

/-!
Log handlers. A handler takes the records from its threshold on and writes each as one line, to the
console or at the end of a file; it fails at a record that its pattern cannot show. All handlers are
given the same record. One that shows colours colours the record itself, and takes the colours back
before the next handler is given it.
-/

namespace RollPad.Log

/-- Where a handler writes. -/
inductive Sink where
  | console
  | file (name : String)
  deriving DecidableEq

/-- A sink, the least level it takes, and how it shows a record. -/
structure Handler where
  sink : Sink
  threshold : Int
  pattern : Pattern
  colored : Bool
  deriving DecidableEq

/-- What comes of giving a record to a handler. -/
inductive Handled where
  /-- The record does not reach the threshold. -/
  | passed
  | line (text : String)
  /-- The pattern of the handler cannot be carried out. -/
  | failed
  deriving DecidableEq

namespace Handler

/-- Show a record as it stands. -/
def shown (h : Handler) (r : Record) : Handled :=
  match h.pattern.format r with
  | some text => .line (text ++ "\n")
  | none => .failed

/-- Handle a record: what comes of it, and the record as it is passed on. Also a failure takes the
colours back. -/
def handle (h : Handler) (r : Record) : Handled × Record :=
  if h.threshold ≤ r.level then
    if h.colored then (h.shown r.inColor, { r.inColor with levelText := r.levelText })
    else (h.shown r, r)
  else (.passed, r)

/-- What comes of giving a record to a handler. -/
def outcome (h : Handler) (r : Record) : Handled :=
  (h.handle r).1

/-- A record is passed on as it was found. -/
theorem snd_handle (h : Handler) (r : Record) : (h.handle r).2 = r := by
  unfold handle
  split
  · split <;> rfl
  · rfl

end Handler

/-- The handler of a log that is not set up: it shows warnings on the console. -/
def lastResort : Handler :=
  ⟨.console, warning, ⟨Pattern.messageOnly⟩, false⟩

end RollPad.Log
