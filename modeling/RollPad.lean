import RollPad.Text.Blank
import RollPad.Text.Printable
import RollPad.Text.Quoted
import RollPad.Text.Upper
import RollPad.Text.Alphanumeric
import RollPad.Text.Integer
import RollPad.Binary64.Basic
import RollPad.Binary64.Literal
import RollPad.Binary64.Shortest
import RollPad.Binary64.Rounded
import RollPad.NameTable
import RollPad.Notation.Term
import RollPad.Notation.Error
import RollPad.Notation.Expression
import RollPad.Settings.Basic
import RollPad.Settings.Loader
import RollPad.Settings.EnvFile
import RollPad.Settings.Binding
import RollPad.Log.Level
import RollPad.Log.Record
import RollPad.Log.Directive
import RollPad.Log.Placement
import RollPad.Log.Pattern
import RollPad.Log.Handler
import RollPad.Host.Basic
import RollPad.Host.FileName
import RollPad.Host.Settings
import RollPad.Host.Notation
import RollPad.Host.Logging
import RollPad.Dice.Source
import RollPad.Dice.Roll
import RollPad.Dice.Report
import RollPad.Keypad.Buffer
import RollPad.Keypad.Key
import RollPad.Keypad.Session
import RollPad.Session
import RollPad.Keypad.Desk
import RollPad.Host.Step
import RollPad.Service
import RollPad.Main
import RollPad.Proofs.Text.Words
import RollPad.Proofs.Notation.Grammar
import RollPad.Proofs.Notation.Canonical
import RollPad.Proofs.Dice.Roll
import RollPad.Proofs.Keypad.Buffer
import RollPad.Proofs.Keypad.Draws
import RollPad.Proofs.Keypad.Outcome
import RollPad.Proofs.Keypad.Zipper
import RollPad.Proofs.Keypad.Typing
import RollPad.Proofs.Service.Agreement
import RollPad.Proofs.Binary64.Rounding
import RollPad.Proofs.Dice.Failure
import RollPad.Proofs.Service.Boundary
import RollPad.Proofs.Keypad.Reachable
import RollPad.Proofs.Service.Independence
import RollPad.Proofs.Settings.Loading
import RollPad.Proofs.Settings.InUse
import RollPad.Proofs.Notation.Concatenation
import RollPad.Proofs.Binary64.Nearest
import RollPad.Proofs.Dice.Faces
import RollPad.Proofs.Dice.Fairness
import RollPad.Proofs.Log.Records
import RollPad.Proofs.Log.Delivery
import RollPad.Proofs.Log.SetUp
import RollPad.Proofs.Log.Output
import RollPad.Proofs.Notation.Spacing
import RollPad.Proofs.Text.Integer
import RollPad.Proofs.Settings.Limits
import RollPad.Proofs.Dice.Overflow
import RollPad.Proofs.Service.Interruption
import RollPad.Proofs.Text.Separated
import RollPad.Proofs.Dice.Replay
import RollPad.Proofs.Dice.Rendering
import RollPad.Proofs.Text.Lines
import RollPad.Proofs.Log.Lines
import RollPad.Proofs.Log.Colors
import RollPad.Proofs.Log.Files
