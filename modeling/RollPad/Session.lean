/-!
Sessions: steps carried out one after another. A step answers and changes the state, and the state
after a step is where the next one begins, also when the step has failed.
-/

namespace RollPad

variable {σ α β : Type}

/-- The answer of every step and the state after it, in order. -/
def trace (step : σ → α → β × α) : List σ → α → List (β × α)
  | [], _ => []
  | s :: rest, a => step s a :: trace step rest (step s a).2

/-- The state after all steps. -/
def stateAfter (step : σ → α → β × α) (steps : List σ) (a : α) : α :=
  steps.foldl (fun a s => (step s a).2) a

theorem trace_append (step : σ → α → β × α) (xs ys : List σ) (a : α) :
    trace step (xs ++ ys) a = trace step xs a ++ trace step ys (stateAfter step xs a) := by
  induction xs generalizing a with
  | nil => rfl
  | cons x xs ih => simp [trace, stateAfter, ih]

theorem stateAfter_append (step : σ → α → β × α) (xs ys : List σ) (a : α) :
    stateAfter step (xs ++ ys) a = stateAfter step ys (stateAfter step xs a) := by
  simp [stateAfter]

theorem stateAfter_concat (step : σ → α → β × α) (xs : List σ) (x : σ) (a : α) :
    stateAfter step (xs ++ [x]) a = (step x (stateAfter step xs a)).2 :=
  stateAfter_append step xs [x] a

/-- What every step keeps, a session keeps. -/
theorem stateAfter_induction {step : σ → α → β × α} {P : α → Prop}
    (hstep : ∀ s a, P a → P (step s a).2) (steps : List σ) {a : α} (ha : P a) :
    P (stateAfter step steps a) := by
  induction steps generalizing a with
  | nil => exact ha
  | cons s rest ih => exact ih (hstep s a ha)

end RollPad
