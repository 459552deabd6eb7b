import Chip8.Files
import Chip8.Logger
import Chip8.Observer

set_option autoImplicit false

/-! # Machines

A machine is what a front end owns: a state, the observers that are told of skipped words, and the
log for messages about the life of the machine. An operation either fails and changes nothing, or
changes the state, tells the observers and writes to the log, in this order. -/

namespace Chip8

/-- A machine with its observers and its log. -/
structure Machine where
  state : State
  observers : List Observer
  logger : Logger

/-- Why an operation of the host fails. -/
inductive HostError where
  | program (cause : LoadError)
  | file (path : String) (cause : FileError)
  | unknownKey (cause : UnknownKey)
  | negativeCycles (count : Int)
deriving DecidableEq

/-- What is said of a failed operation. -/
def HostError.message : HostError → String
  | program cause => cause.message
  | file path cause => cause.message path
  | unknownKey cause => cause.message
  | negativeCycles count => "Cycle count must be non-negative, got " ++ toString count

/-- The outcomes of a batch of cycles, counted. -/
structure Summary where
  executed : Nat
  unsupported : Nat
deriving DecidableEq

/-- How many cycles a batch had. -/
def Summary.cycles (s : Summary) : Nat := s.executed + s.unsupported

namespace Machine

/-- A new machine. Without a list of observers, every skipped word is reported to the log. -/
def make (config : Config) (rng : RandomKey) (observers? : Option (List Observer))
    (logger : Logger) : Machine where
  state := State.initial config rng
  observers := observers?.getD [.console (ConsoleReport.fresh false)]
  logger := logger

/-- Tell the observers, and log what they report: all of them report to the log of the machine. -/
def notify (m : Machine) (notice : Notice) : Machine :=
  let (observers, lines) := Observer.observeAll m.observers notice
  { m with observers := observers, logger := m.logger.warnAll lines }

/-- Tell the observers, if there are any, of a run's skipped words, in order. -/
def report (m : Machine) (run : Run) : Machine :=
  if m.observers.isEmpty then m
  else run.events.foldl (fun m e => m.notify (.unsupported e)) m

/-- Start afresh, keeping the configuration and the random stream. -/
def reset (m : Machine) : Machine :=
  let m := { m with state := m.state.reset }.notify .reset
  { m with logger := m.logger.logAt .debug "Machine reset" }

/-- Start afresh with a program, or with its first `size?` bytes. -/
def load (m : Machine) (program : List UInt8) (size? : Option Int) : Except LoadError Machine := do
  let state ← m.state.load program size?
  let m := { m with state := state }.notify .reset
  let size := size?.getD program.length
  return { m with
    logger := m.logger.logAt .debug ("Loaded program (" ++ toString size ++ " bytes)") }

/-- Start afresh with the program in a file. -/
def loadRom (m : Machine) (files : Files) (path : String) : Except HostError Machine := do
  let program ← (files.read path).mapError (HostError.file path)
  let m ← (m.load program none).mapError HostError.program
  return { m with
    logger := m.logger.logAt .info
      ("Loaded ROM " ++ path ++ " (" ++ toString program.length ++ " bytes)") }

/-- Run exactly `n` cycles and tell the observers of the skipped ones. -/
def advance (m : Machine) (n : Nat) : Machine × Run :=
  let run := m.state.trace n
  ({ m with state := run.state }.report run, run)

/-- Run one cycle. -/
def cycle (m : Machine) : Machine × Outcome :=
  let outcome := m.state.nextCycle.outcome
  ((m.advance 1).1, outcome)

/-- Run a batch of cycles. An empty batch ends at once. -/
def cycles (m : Machine) (count : Int) : Except HostError (Machine × Summary) :=
  if count < 0 then .error (.negativeCycles count)
  else if count = 0 then .ok (m, ⟨0, 0⟩)
  else
    let (m, run) := m.advance count.toNat
    let unsupported := run.cycles.countP (·.outcome = .unsupported)
    .ok (m, ⟨count.toNat - unsupported, unsupported⟩)

/-- Press or release a key. -/
def setKey (m : Machine) (key : Int) (pressed : Bool) : Except HostError Machine := do
  let state ← (m.state.setKey key pressed).mapError HostError.unknownKey
  return { m with state := state }

/-- One tick of the 60 Hz clock. -/
def tick (m : Machine) : Machine := { m with state := m.state.tick }

end Machine

/-- The operations of a front end. -/
inductive HostOp where
  | reset
  | load (program : List UInt8) (size? : Option Int)
  | loadRom (path : String)
  | cycle
  | cycles (count : Int)
  | setKey (key : Int) (pressed : Bool)
  | tick

/-- What an operation answers. -/
inductive Reply where
  | done
  | outcome (outcome : Outcome)
  | summary (summary : Summary)
deriving DecidableEq

namespace Machine

/-- Perform an operation; a failed one leaves no machine. -/
def perform (files : Files) (m : Machine) : HostOp → Except HostError (Machine × Reply)
  | .reset => .ok (m.reset, .done)
  | .load program size? =>
    ((m.load program size?).mapError HostError.program).map fun m => (m, .done)
  | .loadRom path => (m.loadRom files path).map fun m => (m, .done)
  | .cycle => let (m, outcome) := m.cycle; .ok (m, .outcome outcome)
  | .cycles count => (m.cycles count).map fun (m, summary) => (m, .summary summary)
  | .setKey key pressed => (m.setKey key pressed).map fun m => (m, .done)
  | .tick => .ok (m.tick, .done)

/-- Perform an operation; after a failure the machine goes on as it was. -/
def apply (files : Files) (m : Machine) (op : HostOp) : Machine × Except HostError Reply :=
  match m.perform files op with
  | .ok (next, reply) => (next, .ok reply)
  | .error e => (m, .error e)

/-- Perform operations one after the other. -/
def applyAll (files : Files) (m : Machine) (ops : List HostOp) :
    Machine × List (Except HostError Reply) :=
  match ops with
  | [] => (m, [])
  | op :: rest =>
    let (m, reply) := m.apply files op
    let (m, replies) := m.applyAll files rest
    (m, reply :: replies)

end Machine

end Chip8
