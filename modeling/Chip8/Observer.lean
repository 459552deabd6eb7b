import Chip8.Event
import Chip8.Tally

set_option autoImplicit false

/-! # Observers

Observers are told of skipped words and of fresh starts. Some count, some report to the log, some
keep a record. They only listen: nothing that they do reaches the state of the machine.

The log that an observer reports to is the log of the machine that tells it. An observer that brings
a log of its own is none of these kinds: its report and its log stand beside the machine. -/

namespace Chip8

/-- Counts of skipped words since the last fresh start, by family and by word. -/
structure Statistics where
  families : Tally String
  opcodes : Tally Int

namespace Statistics

/-- Nothing was skipped yet. -/
def empty : Statistics := ⟨Tally.empty, Tally.empty⟩

/-- Count an event, or start afresh. -/
def observe (s : Statistics) : Notice → Statistics
  | .unsupported e => ⟨s.families.add e.family, s.opcodes.add e.opcode⟩
  | .reset => empty

/-- How many words were skipped. -/
def total (s : Statistics) : Nat := s.families.total

/-- Counts by family, the most frequent first. -/
def ranking (s : Statistics) : List (String × Nat) := s.families.ranked

end Statistics

/-- Reports to the log: every event, or each word only once until the next fresh start. -/
structure ConsoleReport where
  once : Bool
  seen : List Int

namespace ConsoleReport

/-- A report that has seen nothing. -/
def fresh (once : Bool) : ConsoleReport := ⟨once, []⟩

/-- Take notice, and say which line is to be logged. -/
def observe (c : ConsoleReport) : Notice → ConsoleReport × Option String
  | .unsupported e =>
    if c.once then
      if e.opcode ∈ c.seen then (c, none) else ({ c with seen := e.opcode :: c.seen }, some e.text)
    else (c, some e.text)
  | .reset => ({ c with seen := [] }, none)

end ConsoleReport

/-- The kinds of observer. -/
inductive Observer where
  /-- does nothing -/
  | silent
  /-- counts -/
  | counting (statistics : Statistics)
  /-- reports to the log of the machine -/
  | console (report : ConsoleReport)
  /-- keeps every notice, the latest first -/
  | recording (notices : List Notice)

namespace Observer

/-- Take notice, and say which line is to be logged. -/
def observe : Observer → Notice → Observer × Option String
  | silent, _ => (silent, none)
  | counting s, notice => (counting (s.observe notice), none)
  | console c, notice =>
    let (c, line?) := c.observe notice
    (console c, line?)
  | recording ns, notice => (recording (notice :: ns), none)

/-- Tell every observer in turn; the lines to be logged come in the same order. -/
def observeAll : List Observer → Notice → List Observer × List String
  | [], _ => ([], [])
  | o :: rest, notice =>
    let (o, line?) := o.observe notice
    let (rest, lines) := observeAll rest notice
    (o :: rest, line?.toList ++ lines)

end Observer

end Chip8
