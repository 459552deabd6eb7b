import Chip8.Cycle
import Mathlib.Data.List.Forall2
import Mathlib.Logic.Function.Iterate

set_option autoImplicit false

/-! # Runs are repeated single steps

A program can be stepped, run in a batch or traced. All three agree: a trace of `n` cycles is the
list of what the `n` states on the way were about to do (`cycles_trace`), and it ends in the last
of these states (`state_trace`). Each state is looked at when it is reached, so a program that
rewrites itself is recorded as it is by then. -/

namespace Chip8

namespace State

/-- The state after `n` single steps. -/
def after (s : State) (n : Nat) : State := (fun t : State => t.step.1)^[n] s

@[simp] theorem after_zero (s : State) : s.after 0 = s := rfl

theorem after_succ (s : State) (n : Nat) : s.after (n + 1) = s.afterCycle.after n :=
  Function.iterate_succ_apply _ n s

theorem after_add (s : State) (m n : Nat) : s.after (m + n) = (s.after m).after n := by
  unfold after
  rw [Nat.add_comm, Function.iterate_add_apply]

/-! ## Traces -/

theorem state_trace (s : State) (n : Nat) : (s.trace n).state = s.after n := by
  induction n generalizing s with
  | zero => rfl
  | succ n ih => rw [trace_succ, after_succ, ih]

theorem cycles_trace (s : State) (n : Nat) :
    (s.trace n).cycles = (List.range n).map fun i => (s.after i).nextCycle := by
  induction n generalizing s with
  | zero => rfl
  | succ n ih =>
      rw [trace_succ, ih, List.range_succ_eq_map, List.map_cons, List.map_map]
      rfl

/-- A run goes on where it was interrupted. -/
theorem trace_add (s : State) (m n : Nat) :
    s.trace (m + n) =
      ⟨(s.trace m).cycles ++ ((s.trace m).state.trace n).cycles,
        ((s.trace m).state.trace n).state⟩ := by
  induction m generalizing s with
  | zero => rw [Nat.zero_add, trace_zero, List.nil_append]
  | succ m ih =>
      rw [Nat.succ_add, trace_succ, ih, trace_succ]
      rfl

theorem run_eq (s : State) (n : Nat) :
    s.run n = (s.after n, (List.range n).map fun i => (s.after i).step.2) := by
  simp only [run, state_trace, cycles_trace, List.map_map]
  rfl

theorem run_add (s : State) (m n : Nat) :
    s.run (m + n) = (((s.run m).1.run n).1, (s.run m).2 ++ ((s.run m).1.run n).2) := by
  simp only [run, trace_add, List.map_append]

end State

/-! ## Records -/

/-- What the record of a cycle says of the state that the cycle started from: the address and the
    big-endian word there, what the word decodes to, and the outcome that a single step has. -/
structure Cycle.Describes (c : Cycle) (s : State) : Prop where
  address : c.address = s.pc
  word : c.word.toNat =
    256 * (s.memory.cells[s.pc.toNat % 4096]).toNat +
      (s.memory.cells[(s.pc.toNat + 1) % 4096]).toNat
  operation : c.operation = (Instruction.decode c.word).operation
  outcome : c.outcome = s.step.2

theorem State.nextCycle_describes (s : State) : s.nextCycle.Describes s where
  address := rfl
  word := by
    show (Word.ofBytes _ _).toNat = _
    rw [Word.toNat_ofBytes, Nat.mul_comm]
    rfl
  operation := rfl
  outcome := rfl

/-- The places of the skipped cycles of a run, in order. -/
def Run.skippedPlaces (r : Run) : List Nat :=
  (List.range r.cycles.length).filter fun i => (r.cycles[i]?).any (·.outcome = .unsupported)

theorem Run.mem_skippedPlaces (r : Run) (i : Nat) :
    i ∈ r.skippedPlaces ↔ (r.cycles[i]?).map (·.outcome) = some .unsupported := by
  unfold skippedPlaces
  rw [List.mem_filter, List.mem_range]
  by_cases hi : i < r.cycles.length
  · simp [hi]
  · simp [hi]

theorem Run.unsupported_eq_map_places (r : Run) :
    r.unsupported.map some = r.skippedPlaces.map (r.cycles[·]?) := by
  -- the cycles are what stands at all places, so choosing among them is choosing places
  have hcycles : r.cycles.map some = (List.range r.cycles.length).map (r.cycles[·]?) := by
    apply List.ext_getElem?
    intro i
    by_cases hi : i < r.cycles.length <;> simp [hi]
  unfold unsupported skippedPlaces
  rw [← Function.comp_def (fun o : Option Cycle => o.any (·.outcome = .unsupported)),
    ← List.filter_map, ← hcycles, List.filter_map]
  rfl

/-- Running, tracing and stepping agree, for every state, configuration and length. A batch and a
    trace end where `n` single steps end and tell their outcomes in order; each record describes the
    state that its cycle started from; runs of `m` and of `n` cycles make a run of `m + n`; and of
    any run, the list of skipped cycles has exactly the records marked so, each once and in order. -/
theorem run_and_trace_eq_steps (s : State) (m n : Nat) (r : Run) :
    (s.trace n).state = s.after n ∧
      s.run n = (s.after n, (List.range n).map fun i => (s.after i).step.2) ∧
      List.Forall₂ Cycle.Describes (s.trace n).cycles ((List.range n).map s.after) ∧
      s.trace (m + n) =
        ⟨(s.trace m).cycles ++ ((s.trace m).state.trace n).cycles,
          ((s.trace m).state.trace n).state⟩ ∧
      s.run (m + n) = (((s.run m).1.run n).1, (s.run m).2 ++ ((s.run m).1.run n).2) ∧
      ∃ places : List Nat, places.Pairwise (· < ·) ∧
        (∀ i, i ∈ places ↔ (r.cycles[i]?).map (·.outcome) = some .unsupported) ∧
        r.unsupported.map some = places.map (r.cycles[·]?) := by
  refine ⟨s.state_trace n, s.run_eq n, ?_, s.trace_add m n, s.run_add m n, r.skippedPlaces, ?_,
    r.mem_skippedPlaces, r.unsupported_eq_map_places⟩
  · rw [State.cycles_trace, List.forall₂_map_left_iff, List.forall₂_map_right_iff,
      List.forall₂_same]
    exact fun i _ => (s.after i).nextCycle_describes
  · exact List.pairwise_lt_range.filter _

/-- A program that rewrites the operand of its last instruction, and is recorded with the new one. -/
example :
    let s : State := { State.initial ⟨.extended, true⟩ .zero with
      memory := Memory.zero.writeBlock 0x200 [0xA2, 0x07, 0x60, 0x07, 0xF0, 0x55, 0x61, 0x00] }
    (s.trace 4).cycles.map (·.word) = [0xA207, 0x6007, 0xF055, 0x6107] := by decide +kernel

end Chip8
