import Chip8.Proofs.Notification
import Mathlib.Algebra.BigOperators.Group.List.Basic
import Mathlib.Algebra.GroupWithZero.Nat

set_option autoImplicit false

/-! # Batches can be split

A front end runs its cycles in batches, one for each frame, or one by one. How they are split is
invisible: the machine, its observers and its log end up the same, because the notices of a run are
those of its portions (`advance_add`), and the counts in the answers add up. -/

namespace Chip8

/-- The outcomes of a run, counted. -/
def Run.summary (r : Run) : Summary where
  executed := r.cycles.countP (·.outcome = .executed)
  unsupported := r.cycles.countP (·.outcome = .unsupported)

theorem Outcome.ne_executed_iff (o : Outcome) : o ≠ .executed ↔ o = .unsupported := by
  cases o <;> decide

theorem Run.cycles_summary (r : Run) : r.summary.cycles = r.cycles.length := by
  rw [List.length_eq_countP_add_countP (l := r.cycles) fun c => c.outcome = .executed]
  simp only [decide_eq_true_eq, Outcome.ne_executed_iff]
  rfl

/-- The runs of batches that follow one another. -/
def State.batches (s : State) : List Nat → List Run
  | [] => []
  | k :: sizes => s.trace k :: (s.after k).batches sizes

theorem State.flatten_batches (s : State) (sizes : List Nat) :
    ((s.batches sizes).map (·.cycles)).flatten = (s.trace sizes.sum).cycles := by
  induction sizes generalizing s with
  | nil => rfl
  | cons k sizes ih =>
      rw [batches, List.map_cons, List.flatten_cons, ih, List.sum_cons, trace_add, state_trace]

theorem State.length_batches (s : State) (sizes : List Nat) :
    (s.batches sizes).map (·.cycles.length) = sizes := by
  induction sizes generalizing s with
  | nil => rfl
  | cons k sizes ih => rw [batches, List.map_cons, ih, length_cycles_trace]

/-- What is counted in the batches, one by one, is what is counted in the whole run. -/
theorem State.sum_countP_batches (s : State) (sizes : List Nat) (p : Cycle → Bool) :
    ((s.batches sizes).map (·.cycles.countP p)).sum = (s.trace sizes.sum).cycles.countP p := by
  rw [← flatten_batches, List.countP_flatten, List.map_map]
  rfl

namespace Machine

/-! ## Batches and single cycles -/

theorem advance_zero (m : Machine) : (m.advance 0).1 = m := advance_eq m 0

/-- A batch may stop early when it is empty; it does what any batch does. -/
theorem cycles_eq (m : Machine) (k : Nat) :
    m.cycles k = .ok ((m.advance k).1, (m.state.trace k).summary) := by
  unfold cycles
  rw [if_neg (by omega)]
  by_cases hzero : (k : Int) = 0
  · obtain rfl : k = 0 := by omega
    -- ending at once leads where a run of no cycles leads
    rw [if_pos hzero, advance_zero]
    rfl
  · rw [if_neg hzero]
    have hcount := (m.state.trace k).cycles_summary
    rw [State.length_cycles_trace] at hcount
    have hexecuted : k - (m.state.trace k).summary.unsupported =
        (m.state.trace k).summary.executed := by
      unfold Summary.cycles at hcount
      omega
    show Except.ok ((m.advance k).1, Summary.mk (k - (m.state.trace k).summary.unsupported) _) = _
    rw [hexecuted]
    rfl

theorem apply_cycles (files : Files) (m : Machine) (k : Nat) :
    m.apply files (.cycles k) =
      ((m.advance k).1, .ok (.summary (m.state.trace k).summary)) := by
  simp only [apply, perform, cycles_eq]
  rfl

theorem apply_cycle (files : Files) (m : Machine) :
    m.apply files .cycle = ((m.advance 1).1, .ok (.outcome m.state.nextCycle.outcome)) := rfl

theorem state_advance (m : Machine) (n : Nat) : (m.advance n).1.state = m.state.after n := by
  rw [advance_eq, state_withState]

theorem applyAll_batches (files : Files) (m : Machine) (sizes : List Nat) :
    m.applyAll files (sizes.map fun k : Nat => .cycles k) =
      ((m.advance sizes.sum).1, (m.state.batches sizes).map fun r => .ok (.summary r.summary)) := by
  induction sizes generalizing m with
  | nil => rw [List.sum_nil, advance_zero]; rfl
  | cons k sizes ih =>
      rw [List.map_cons, applyAll, apply_cycles, List.sum_cons, advance_add]
      simp only [ih, state_advance]
      rfl

theorem applyAll_singles (files : Files) (m : Machine) (n : Nat) :
    m.applyAll files (List.replicate n .cycle) =
      ((m.advance n).1, (m.state.trace n).cycles.map fun c => .ok (.outcome c.outcome)) := by
  induction n generalizing m with
  | zero => rw [advance_zero]; rfl
  | succ n ih =>
      rw [List.replicate_succ, applyAll, apply_cycle, Nat.add_comm n 1, advance_add]
      simp only [ih, state_advance]
      rw [Nat.add_comm 1 n, State.trace_succ]
      rfl

/-- Whatever the state of a machine, its observers and its log: batches of any sizes, one batch of
    their sum, and that many single cycles lead to the same machine, observers and log included.
    The batches and the one batch count the same executed and skipped cycles in total, and these are
    the outcomes of the single cycles. Every batch counts as many cycles as were asked for. -/
theorem applyAll_split (files : Files) (m : Machine) (sizes : List Nat) :
    ∃ (final : Machine) (split : List Summary) (whole : Summary) (outcomes : List Outcome),
      m.applyAll files (sizes.map fun k : Nat => .cycles k) =
          (final, split.map fun summary => .ok (.summary summary)) ∧
        m.applyAll files [.cycles sizes.sum] = (final, [.ok (.summary whole)]) ∧
        m.applyAll files (List.replicate sizes.sum .cycle) =
          (final, outcomes.map fun outcome => .ok (.outcome outcome)) ∧
        (split.map (·.executed)).sum = whole.executed ∧
        (split.map (·.unsupported)).sum = whole.unsupported ∧
        outcomes.count .executed = whole.executed ∧
        outcomes.count .unsupported = whole.unsupported ∧
        split.map (·.cycles) = sizes ∧ whole.cycles = sizes.sum := by
  refine ⟨(m.advance sizes.sum).1, (m.state.batches sizes).map Run.summary,
    (m.state.trace sizes.sum).summary, (m.state.trace sizes.sum).cycles.map (·.outcome),
    ?_, ?_, ?_, ?_, ?_, ?_, ?_, ?_, ?_⟩
  · rw [applyAll_batches, List.map_map]
    rfl
  · rw [applyAll, apply_cycles]
    rfl
  · rw [applyAll_singles, List.map_map]
    rfl
  · rw [List.map_map]
    exact m.state.sum_countP_batches sizes _
  · rw [List.map_map]
    exact m.state.sum_countP_batches sizes _
  · rw [List.count, List.countP_map]
    rfl
  · rw [List.count, List.countP_map]
    rfl
  · rw [List.map_map]
    exact (List.map_congr_left fun r _ => r.cycles_summary).trans (m.state.length_batches sizes)
  · rw [Run.cycles_summary, State.length_cycles_trace]

end Machine

end Chip8
