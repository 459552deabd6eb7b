import Chip8.Execute

set_option autoImplicit false

/-! # Cycles

A cycle fetches the word at the program counter, moves the counter past it and executes it. Words
that the configuration does not execute are skipped and flagged; a cycle never fails. A run records
each of its cycles. -/

namespace Chip8

/-- How a cycle ended. -/
inductive Outcome where
  | executed
  | unsupported
deriving DecidableEq

/-- The number of an outcome. -/
def Outcome.number : Outcome → Nat
  | executed => 0
  | unsupported => 1

/-- The symbolic name of an outcome. -/
def Outcome.name : Outcome → String
  | executed => "EXECUTED"
  | unsupported => "UNSUPPORTED"

/-- What one cycle fetched, from where, and how it ended. -/
structure Cycle where
  address : UInt16
  word : Word
  operation : Operation
  outcome : Outcome
deriving DecidableEq

namespace State

/-- The word at the program counter. -/
def nextWord (s : State) : Word := s.memory.readWord s.pc.toNat

/-- Take the word at the program counter and move the counter past it. -/
def fetch (s : State) : State × Word := ({ s with pc := s.pc + 2 }, s.nextWord)

/-- The record of the cycle that a state is about to run. -/
def nextCycle (s : State) : Cycle where
  address := s.pc
  word := s.nextWord
  operation := Operation.ofWord s.nextWord
  outcome := if s.config.executes (Instruction.decode s.nextWord) then .executed else .unsupported

/-- The state after one cycle. -/
def afterCycle (s : State) : State := s.fetch.1.executeWord s.fetch.2

/-- Run one cycle. -/
def step (s : State) : State × Outcome := (s.afterCycle, s.nextCycle.outcome)

end State

/-- A finished run: its cycles in order and the state in which it ended. -/
structure Run where
  cycles : List Cycle
  state : State

namespace State

/-- Run `n` cycles on top of cycles that are already recorded, the latest first. -/
def traceFrom : Nat → List Cycle → State → Run
  | 0, recorded, s => ⟨recorded.reverse, s⟩
  | n + 1, recorded, s => traceFrom n (s.nextCycle :: recorded) s.afterCycle

/-- Run exactly `n` cycles and record each one. -/
def trace (s : State) (n : Nat) : Run := traceFrom n [] s

/-- Run exactly `n` cycles and tell how each one ended. -/
def run (s : State) (n : Nat) : State × List Outcome :=
  let r := s.trace n
  (r.state, r.cycles.map (·.outcome))

/-! ## Runs and single cycles -/

theorem traceFrom_eq (n : Nat) (recorded : List Cycle) (s : State) :
    traceFrom n recorded s = ⟨recorded.reverse ++ (s.trace n).cycles, (s.trace n).state⟩ := by
  induction n generalizing recorded s with
  | zero => simp [trace, traceFrom]
  | succ n ih =>
    have hs : s.trace (n + 1) = traceFrom n [s.nextCycle] s.afterCycle := rfl
    rw [traceFrom, ih, hs, ih]
    simp

theorem trace_zero (s : State) : s.trace 0 = ⟨[], s⟩ := rfl

theorem trace_succ (s : State) (n : Nat) :
    s.trace (n + 1) =
      ⟨s.nextCycle :: (s.afterCycle.trace n).cycles, (s.afterCycle.trace n).state⟩ := by
  have hs : s.trace (n + 1) = traceFrom n [s.nextCycle] s.afterCycle := rfl
  rw [hs, traceFrom_eq]
  simp

theorem length_cycles_trace (s : State) (n : Nat) : (s.trace n).cycles.length = n := by
  induction n generalizing s with
  | zero => rfl
  | succ n ih => simp [trace_succ, ih]

end State

/-- The cycles of a run that were skipped, in order. -/
def Run.unsupported (r : Run) : List Cycle := r.cycles.filter (·.outcome = .unsupported)

end Chip8
