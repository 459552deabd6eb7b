import Chip8.Alu
import Chip8.CallStack
import Chip8.CommandLine
import Chip8.CommandLine.Arguments
import Chip8.Config
import Chip8.Cycle
import Chip8.Decimal.Binary
import Chip8.Decimal.Fixed
import Chip8.Decimal.Numeral
import Chip8.Decimal.Shortest
import Chip8.Digit
import Chip8.Event
import Chip8.Execute
import Chip8.Files
import Chip8.Files.Path
import Chip8.Font
import Chip8.Instruction
import Chip8.Keypad
import Chip8.Logger
import Chip8.Machine
import Chip8.Main
import Chip8.Memory
import Chip8.Observer
import Chip8.Operation
import Chip8.Profile
import Chip8.Proofs.AddressSpace
import Chip8.Proofs.Arithmetic
import Chip8.Proofs.Atomicity
import Chip8.Proofs.Batch
import Chip8.Proofs.Convention
import Chip8.Proofs.DecimalDigits
import Chip8.Proofs.Diagnostics
import Chip8.Proofs.Drawing
import Chip8.Proofs.Encoding
import Chip8.Proofs.ExitCodes
import Chip8.Proofs.Extension
import Chip8.Proofs.FaultKinds
import Chip8.Proofs.Footprint
import Chip8.Proofs.Frames
import Chip8.Proofs.Headless
import Chip8.Proofs.History
import Chip8.Proofs.Interleaving
import Chip8.Proofs.Isolation
import Chip8.Proofs.KeyWait
import Chip8.Proofs.Life
import Chip8.Proofs.LitPixels
import Chip8.Proofs.Lockstep
import Chip8.Proofs.Noninterference
import Chip8.Proofs.Notification
import Chip8.Proofs.OperationTable
import Chip8.Proofs.Overlay
import Chip8.Proofs.PlainWord
import Chip8.Proofs.Precedence
import Chip8.Proofs.ProgramCounter
import Chip8.Proofs.ProgramImage
import Chip8.Proofs.RandomStream
import Chip8.Proofs.Ranking
import Chip8.Proofs.Reachable
import Chip8.Proofs.RecentCalls
import Chip8.Proofs.RegisterBlock
import Chip8.Proofs.Rendering
import Chip8.Proofs.Repertoire
import Chip8.Proofs.ReportText
import Chip8.Proofs.Reporting
import Chip8.Proofs.Scatter
import Chip8.Proofs.Session
import Chip8.Proofs.SingleStep
import Chip8.Proofs.Stretches
import Chip8.Proofs.Subroutine
import Chip8.Proofs.Suppression
import Chip8.Proofs.TimerHistory
import Chip8.Proofs.Transcript
import Chip8.Proofs.WordSettings
import Chip8.Proofs.WriteSet
import Chip8.Random
import Chip8.Screen
import Chip8.Screen.Text
import Chip8.Settings
import Chip8.Settings.Content
import Chip8.Settings.Content.Document
import Chip8.Settings.Content.Part
import Chip8.Settings.Draft
import Chip8.Settings.Draft.Config
import Chip8.Settings.Fault
import Chip8.Settings.Field
import Chip8.Settings.Interpolation
import Chip8.Settings.Interpolation.Coercion
import Chip8.Settings.Interpolation.Function
import Chip8.Settings.Interpolation.Lookup
import Chip8.Settings.Interpolation.Reader
import Chip8.Settings.Interpolation.Result
import Chip8.Settings.Interpolation.Simple
import Chip8.Settings.Interpolation.Token
import Chip8.Settings.Interpolation.Value
import Chip8.Settings.KeyPath
import Chip8.Settings.Override
import Chip8.Settings.Override.Update
import Chip8.Settings.Place
import Chip8.Sprite
import Chip8.State
import Chip8.Tally
import Chip8.Text.Base64
import Chip8.Text.CaseRun
import Chip8.Text.Hex
import Chip8.Text.Integer
import Chip8.Text.Lowercase
import Chip8.Text.Printable
import Chip8.Text.Quoted
import Chip8.Text.Similarity
import Chip8.Text.Template
import Chip8.Text.Uppercase
import Chip8.Word
import Chip8.Yaml.Atom
import Chip8.Yaml.Cursor
import Chip8.Yaml.Error
import Chip8.Yaml.Mark
import Chip8.Yaml.Node
import Chip8.Yaml.Node.Document
import Chip8.Yaml.Node.Merge
import Chip8.Yaml.Scalar
import Chip8.Yaml.Token
import Chip8.Yaml.Token.Block
import Chip8.Yaml.Token.Lexer
import Chip8.Yaml.Token.Name
import Chip8.Yaml.Token.Plain
import Chip8.Yaml.Token.Quoted
import Chip8.Yaml.Value
import Chip8.Yaml.Value.Document
import Chip8.Yaml.Value.Moment
import Chip8.Yaml.Value.Number
