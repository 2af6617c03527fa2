import RollPad.Dice.Report
import RollPad.Host.Logging

/-!
The steps of a session with the host: its variables and files change, its settings are read, used
and dropped, its log is set up and written, and texts are read and rolled.
-/

namespace RollPad

open Log

/-- A step of a session with the host. -/
inductive HostStep where
  | setVariable (name : String) (value : Option String) (drop : Bool)
  | writeFile (name content : String)
  | deleteFile (name : String)
  /-- Tell the program's own variables. -/
  | variables
  /-- Read settings afresh, without using them. -/
  | readSettings (file : Option String)
  | useSettings
  | dropSettings
  | parse (text : Option String) (request : LimitRequest)
  | roll (text : Option String) (source : Source)
  /-- Log a message that was written outside the program. -/
  | log (level : Int) (logger message : String) (origin : Origin := .outside)
  | setUpLog (request : LogRequest)
  | start

/-- What a step answers. -/
inductive HostReply where
  | done
  | variables (table : NameTable)
  | settings (settings : Settings)
  /-- The settings in use, and how often they had been read afresh by then. -/
  | inUse (settings : Settings) (generation : Nat)
  | parsed (terms : List Term)
  | refused (refusal : Refusal)
  | rolled (report : Report)
  deriving DecidableEq

/-- What a step answers that parses a text. -/
def HostReply.ofParse : Except Refusal (List Term) → HostReply
  | .ok terms => .parsed terms
  | .error refusal => .refused refusal

/-- Why a step fails. -/
inductive HostError where
  | failed (cause : Failure)
  | roll (cause : RollError)
  | setUp (cause : LogError)
  deriving DecidableEq

/-- Why a step fails that is to start the program. -/
def HostError.ofStart : StartError → HostError
  | .settings cause => .failed (.settings cause)
  | .log cause => .setUp cause

namespace Host

/-- The answer of an operation. -/
def replyOf {ε α : Type} (error : ε → HostError) (reply : α → HostReply) :
    Except ε α × Host → Except HostError HostReply × Host
  | (.error e, h) => (.error (error e), h)
  | (.ok x, h) => (.ok (reply x), h)

/-- Log a message that was written outside the program. A record with a level that cannot be written
out cannot be made. -/
def logMessage (h : Host) (level : Int) (logger message : String) (origin : Origin) :
    Except Failure Unit × Host :=
  if writable : Text.IsWritable level then
    (.ok (), h.emit (.ofMessage level logger message origin writable))
  else if 0 < level ∧ h.rootLevel ≤ level then (.error .longNumber, h)
  else (.ok (), h)

/-- A message from outside is a call of the log, or changes nothing. -/
theorem snd_logMessage (h : Host) (level : Int) (logger message : String) (origin : Origin) :
    (∃ writable, (h.logMessage level logger message origin).2 =
        h.emit (.ofMessage level logger message origin writable)) ∨
      (h.logMessage level logger message origin).2 = h := by
  rw [logMessage]
  split
  · next writable => exact .inl ⟨writable, rfl⟩
  · split <;> exact .inr rfl

/-- Carry out a step. -/
def step : HostStep → Host → Except HostError HostReply × Host
  | .setVariable name value drop, h =>
    replyOf (.failed ∘ .environment) (fun _ => .done) (h.setVariable name value drop)
  | .writeFile name content, h => (.ok .done, h.writeFile name content)
  | .deleteFile name, h => (.ok .done, h.deleteFile name)
  | .variables, h => (.ok (.variables h.ownVariables), h)
  | .readSettings file, h => replyOf (.failed ∘ .settings) .settings (h.readSettings file)
  | .useSettings, h =>
    match h.useSettings with
    | (.error e, h) => (.error (.failed (.settings e)), h)
    | (.ok settings, h) => (.ok (.inUse settings h.generation), h)
  | .dropSettings, h => (.ok .done, h.dropSettings)
  | .parse text request, h => replyOf .failed .ofParse (h.parse text request)
  | .roll text source, h =>
    match rollText text source h with
    | (.error e, _, h) => (.error (.roll e), h)
    | (.ok report, _, h) => (.ok (.rolled report), h)
  | .log level logger message origin, h =>
    replyOf .failed (fun _ => .done) (h.logMessage level logger message origin)
  | .setUpLog request, h => replyOf .setUp (fun _ => .done) (h.setUpLog request)
  | .start, h => replyOf .ofStart (fun _ => .done) h.start

end Host

end RollPad
