import RollPad.Proofs.Log.Delivery

/-!
What one set-up of the log does (`SetUp.effect`): without a file and with a level that is none it
fails at once and leaves the log alone; every other set-up drops the handlers there were. When it
has failed there is at most a handler for the console, when it has succeeded there is one, and one
for the log file behind it if there is a log file (`SetUp.arranged_result`). A set-up writes nothing
itself (`SetUp.contentAt_result`).
-/

namespace RollPad

open Log

namespace SetUp

/-- The name of the log file; an empty name is none. -/
def fileName? (u : SetUp) : Option String :=
  u.request.file.filter (· ≠ "")

/-- Does a set-up drop the handlers there were? -/
def restarts (u : SetUp) : Bool :=
  u.fileName?.isSome || (levelOfName u.request.level).isOk

/-- Does a set-up succeed? -/
def succeeds (u : SetUp) : Bool :=
  u.result.1.isOk

/-- The log file of a set-up that succeeds with one. -/
def file? (u : SetUp) : Option String :=
  if u.succeeds then
    u.fileName?.bind fun name =>
      match u.host.logPlace name with
      | .file file => some file
      | _ => none
  else none

/-- What a set-up does. -/
inductive Effect (u : SetUp) : Prop where
  | nothing {e : LogError} (hkeeps : u.restarts = false) (hresult : u.result = (.error e, u.host))
  | failed {e : LogError} {rootLevel : Int} {handlers : List Handler} (hdrops : u.restarts = true)
      (harranged : Arranged handlers none)
      (hresult : u.result = (.error e, { u.host with rootLevel, handlers }))
  | console {rootLevel : Int} {handlers : List Handler} (hdrops : u.restarts = true)
      (hname : u.fileName? = none) (harranged : Arranged handlers none)
      (hresult : u.result = (.ok (), { u.host with rootLevel, handlers }))
  | file {rootLevel : Int} {handlers : List Handler} {name file : String}
      (hname : u.fileName? = some name) (hplace : u.host.logPlace name = .file file)
      (harranged : Arranged handlers (some file))
      (hresult : u.result =
        (.ok (), { u.host with rootLevel, handlers, files := u.host.files.append file "" }))

end SetUp

theorem Host.openLog_cases (h : Host) (name : String) (pattern : Pattern) :
    (∃ e, h.openLog name pattern = (.error e, h)) ∨
      ∃ file, h.logPlace name = .file file ∧ h.openLog name pattern =
        (.ok (), { h with
          files := h.files.append file ""
          handlers := h.handlers ++ [⟨.file file, debug, pattern, false⟩] }) := by
  rw [Host.openLog]
  split
  · exact .inl ⟨_, rfl⟩
  · cases hplace : h.logPlace name with
    | file file => exact .inr ⟨file, rfl, rfl⟩
    | _ => exact .inl ⟨_, rfl⟩

namespace SetUp

theorem effect_setUpHandlers {u : SetUp} {rootLevel level : Int} (hdrops : u.restarts = true)
    (hresult : u.result =
      (u.host.restartLog rootLevel).setUpHandlers u.request level u.fileName?) : u.Effect := by
  rw [Host.setUpHandlers] at hresult
  cases hp : Pattern.ofString? (u.request.pattern.getD Pattern.standard) with
  | none =>
    rw [hp] at hresult
    exact .failed hdrops .none hresult
  | some pattern =>
    rw [hp] at hresult
    cases hname : u.fileName? with
    | none =>
      rw [hname] at hresult
      exact .console hdrops hname (.console rfl) hresult
    | some name =>
      rw [hname] at hresult
      dsimp only at hresult
      rcases Host.openLog_cases _ name pattern with ⟨e, ho⟩ | ⟨file, hplace, ho⟩
      · rw [ho] at hresult
        exact .failed hdrops (.console rfl) hresult
      · rw [ho] at hresult
        have hfound : u.host.logPlace name = .file file := by
          rw [← hplace]
          refine (Host.logPlace_congr (h := u.host) ?_ ?_ name).symm <;> rfl
        exact .file hname hfound (.file rfl rfl) hresult

theorem effect (u : SetUp) : u.Effect := by
  have hresult : u.result = u.host.setUpLog u.request := rfl
  rw [Host.setUpLog] at hresult
  cases hl : levelOfName u.request.level with
  | error thing =>
    rw [hl] at hresult
    cases hn : u.fileName?.isSome with
    | true =>
      have hdrops : u.restarts = true := by rw [restarts, hn, Bool.true_or]
      exact .failed hdrops .none (hresult.trans (congrArg (Prod.mk _) (if_pos hn)))
    | false =>
      have hkeeps : u.restarts = false := by rw [restarts, hn, hl]; rfl
      have hno : ¬u.fileName?.isSome = true := Bool.eq_false_iff.1 hn
      exact .nothing hkeeps (hresult.trans (congrArg (Prod.mk _) (if_neg hno)))
  | ok level =>
    rw [hl] at hresult
    have hdrops : u.restarts = true := by rw [restarts, hl]; exact Bool.or_true _
    exact effect_setUpHandlers hdrops hresult

theorem restarts_of_fileName {u : SetUp} {name : String} (hname : u.fileName? = some name) :
    u.restarts = true := by
  rw [restarts, hname]
  rfl

/-- A set-up that keeps the handlers there were has failed and changed nothing. -/
theorem result_of_not_restarts {u : SetUp} (hkeeps : u.restarts = false) :
    u.succeeds = false ∧ u.result.2 = u.host := by
  cases u.effect with
  | nothing _ hresult => exact ⟨by rw [succeeds, hresult]; rfl, by rw [hresult]⟩
  | failed hdrops => exact absurd hdrops (Bool.eq_false_iff.1 hkeeps)
  | console hdrops => exact absurd hdrops (Bool.eq_false_iff.1 hkeeps)
  | file hname => exact absurd (restarts_of_fileName hname) (Bool.eq_false_iff.1 hkeeps)

theorem file?_of_not_succeeds {u : SetUp} (hfails : u.succeeds = false) : u.file? = none := by
  rw [file?, hfails, if_neg Bool.false_ne_true]

/-- The handlers after a set-up that has dropped those before it. -/
theorem arranged_result {u : SetUp} (hdrops : u.restarts = true) :
    Arranged u.result.2.handlers u.file? := by
  cases u.effect with
  | nothing hkeeps => exact absurd hdrops (Bool.eq_false_iff.1 hkeeps)
  | failed _ harranged hresult =>
    have hfails : u.succeeds = false := by rw [succeeds, hresult]; rfl
    rw [file?_of_not_succeeds hfails, hresult]
    exact harranged
  | console _ hname harranged hresult =>
    rw [file?, hname, Option.bind_none, ite_self, hresult]
    exact harranged
  | file hname hplace harranged hresult =>
    have hworks : u.succeeds = true := by rw [succeeds, hresult]; rfl
    rw [file?, if_pos hworks, hname, Option.bind_some, hplace, hresult]
    exact harranged

theorem contentAt_result (u : SetUp) (sink : Sink) :
    u.result.2.contentAt sink = u.host.contentAt sink := by
  cases u.effect with
  | nothing _ hresult => rw [hresult]
  | failed _ _ hresult => rw [hresult]; cases sink <;> rfl
  | console _ _ _ hresult => rw [hresult]; cases sink <;> rfl
  | @file _ _ _ file _ _ _ hresult =>
    -- Opening a file is writing nothing to it.
    have hopen := u.host.contentAt_write "" (.file file) sink
    rw [ite_self, String.append_empty] at hopen
    rw [hresult, ← hopen]
    cases sink <;> rfl

theorem extends_result (u : SetUp) : u.host.files.Extends u.result.2.files := by
  cases u.effect with
  | nothing _ hresult => rw [hresult]; exact .refl _
  | failed _ _ hresult => rw [hresult]; exact .refl _
  | console _ _ _ hresult => rw [hresult]; exact .refl _
  | file _ _ _ hresult => rw [hresult]; exact NameTable.extends_append _ _ _

end SetUp

end RollPad
