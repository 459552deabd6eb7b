import Chip8.Cycle
import Mathlib.Data.List.Forall2

set_option autoImplicit false

/-! # Runs in lockstep

Many laws compare two machines that run side by side: what one cycle keeps of the relation between
them, a run of any length keeps. The laws differ only in the relation, in what they say about the
records of the two cycles, and in which cycles they admit, so the induction over the run is done
here, once, for all of them. -/

namespace Chip8.State

/-- The state under another configuration. -/
def under (s : State) (c : Config) : State := { s with config := c }

@[simp] theorem config_under (s : State) (c : Config) : (s.under c).config = c := rfl

@[simp] theorem reg_under (s : State) (c : Config) (r : Fin 16) : (s.under c).reg r = s.reg r := rfl

/-- Two runs of the same length, cycle by cycle. `admits` restricts the cycles of the first run;
    the second run is not looked at beforehand. -/
theorem trace_lockstep {related : State → State → Prop} {matching : Cycle → Cycle → Prop}
    {admits : Cycle → Prop}
    (step : ∀ s t, related s t → admits s.nextCycle →
      matching s.nextCycle t.nextCycle ∧ related s.afterCycle t.afterCycle)
    {s t : State} (h : related s t) (n : Nat) (hadmits : ∀ c ∈ (s.trace n).cycles, admits c) :
    List.Forall₂ matching (s.trace n).cycles (t.trace n).cycles ∧
      related (s.trace n).state (t.trace n).state := by
  induction n generalizing s t with
  | zero => exact ⟨List.Forall₂.nil, h⟩
  | succ n ih =>
      rw [trace_succ] at hadmits
      obtain ⟨hcycle, hnext⟩ := step s t h (hadmits _ (List.mem_cons_self ..))
      obtain ⟨hcycles, hstate⟩ := ih hnext fun c hc => hadmits c (List.mem_cons_of_mem _ hc)
      rw [trace_succ, trace_succ]
      exact ⟨List.Forall₂.cons hcycle hcycles, hstate⟩

/-- If the records of related states are equal, so are whole traces. -/
theorem trace_lockstep_eq {related : State → State → Prop} {admits : Cycle → Prop}
    (step : ∀ s t, related s t → admits s.nextCycle →
      t.nextCycle = s.nextCycle ∧ related s.afterCycle t.afterCycle)
    {s t : State} (h : related s t) (n : Nat) (hadmits : ∀ c ∈ (s.trace n).cycles, admits c) :
    (t.trace n).cycles = (s.trace n).cycles ∧ related (s.trace n).state (t.trace n).state := by
  have hstep : ∀ s t, related s t → admits s.nextCycle →
      s.nextCycle = t.nextCycle ∧ related s.afterCycle t.afterCycle := by
    intro s t hst hs
    obtain ⟨hcycle, hnext⟩ := step s t hst hs
    exact ⟨hcycle.symm, hnext⟩
  obtain ⟨hcycles, hstate⟩ := trace_lockstep hstep h n hadmits
  rw [List.forall₂_eq_eq_eq] at hcycles
  exact ⟨hcycles.symm, hstate⟩

end Chip8.State
