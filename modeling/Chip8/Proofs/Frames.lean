import Chip8.CommandLine
import Chip8.Proofs.Batch
import Chip8.Proofs.Isolation
import Chip8.Proofs.Session

set_option autoImplicit false

/-! # Frames

A frame is a batch of cycles and a tick of the timers. Frames of a machine do what they do to its
bare state, tell its observers of the cycles that were skipped, and count the ones that were not
(`CommandLine.runFrames_eq`). On a core machine a tick changes nothing, so all that matters is how
many cycles there are altogether (`State.Intact.play_frames`). -/

namespace Chip8

/-- A run that went on. -/
def Run.append (r later : Run) : Run := ⟨r.cycles ++ later.cycles, later.state⟩

theorem Run.notices_append (r later : Run) :
    (r.append later).notices = r.notices ++ later.notices := by
  simp only [notices, events, unsupported, append, List.filter_append, List.map_append]

/-- The moves of frames: some cycles and a tick of the timers each. -/
def frameMoves (cycles frames : Nat) : List Move :=
  (List.replicate frames (List.replicate cycles .cycle ++ [.input .tick])).flatten

theorem frameMoves_succ (cycles frames : Nat) :
    frameMoves cycles (frames + 1) =
      (List.replicate cycles .cycle ++ [.input .tick]) ++ frameMoves cycles frames := by
  rw [frameMoves, List.replicate_succ, List.flatten_cons, frameMoves]

namespace State

theorem play_append (s : State) (moves later : List Move) :
    s.play (moves ++ later) = (s.play moves).append ((s.play moves).state.play later) := by
  induction moves generalizing s with
  | nil => rfl
  | cons move moves ih =>
      cases move with
      | cycle =>
          rw [List.cons_append, play, ih]
          rfl
      | input given => exact ih (s.receive given)

theorem play_frame (s : State) (cycles : Nat) :
    s.play (List.replicate cycles .cycle ++ [.input .tick]) =
      ⟨(s.trace cycles).cycles, (s.after cycles).tick⟩ := by
  rw [play_append, play_replicate_cycle, state_trace]
  show Run.mk ((s.trace cycles).cycles ++ []) _ = _
  rw [List.append_nil]
  rfl

theorem play_frames_succ (s : State) (cycles frames : Nat) :
    s.play (frameMoves cycles (frames + 1)) =
      Run.append ⟨(s.trace cycles).cycles, (s.after cycles).tick⟩
        ((s.after cycles).tick.play (frameMoves cycles frames)) := by
  rw [frameMoves_succ, play_append, play_frame]

theorem length_cycles_play_frames (s : State) (cycles frames : Nat) :
    (s.play (frameMoves cycles frames)).cycles.length = frames * cycles := by
  induction frames generalizing s with
  | zero => rw [Nat.zero_mul]; rfl
  | succ frames ih =>
      rw [play_frames_succ, Run.append, List.length_append, length_cycles_trace, ih, Nat.succ_mul,
        Nat.add_comm]

section Core

variable {s : State} {image : List UInt8} {key : RandomKey}

theorem Intact.after (h : Intact image key s) (n : Nat) : Intact image key (s.after n) := by
  induction n with
  | zero => exact h
  | succ n ih =>
      rw [after_succ_last]
      exact ih.afterCycle

/-- On a core machine, frames are as good as one batch. -/
theorem Intact.play_frames (h : Intact image key s) (cycles frames : Nat) :
    s.play (frameMoves cycles frames) = s.trace (frames * cycles) := by
  induction frames generalizing s with
  | zero => rw [Nat.zero_mul]; rfl
  | succ frames ih =>
      have hafter : Intact image key (s.after cycles) := h.after cycles
      rw [play_frames_succ, hafter.tick_eq, ih hafter, Nat.succ_mul, Nat.add_comm, trace_add,
        state_trace]
      rfl

/-- Nor does the mode of a core machine show in a batch. -/
theorem trace_under_of_core {c : Config} (hs : s.config.extended = false)
    (hc : c.extended = false) (n : Nat) :
    ((s.under c).trace n).cycles = (s.trace n).cycles ∧
      ((s.under c).trace n).state = (s.trace n).state.under c := by
  have hswitches : Switches c s (s.under c) := ⟨hs, rfl⟩
  have hstep : ∀ s t, Switches c s t → True →
      t.nextCycle = s.nextCycle ∧ Switches c s.afterCycle t.afterCycle :=
    fun s t hst _ => hst.cycle hc
  obtain ⟨hcycles, -, hstate⟩ := trace_lockstep_eq hstep hswitches n fun _ _ => trivial
  exact ⟨hcycles, hstate⟩

end Core

end State

/-! ## Frames of a machine -/

namespace Machine

/-- A machine whose state took a run, and whose observers were told of it. -/
def follow (m : Machine) (r : Run) : Machine := (m.tell r.notices).withState r.state

theorem follow_append (m : Machine) (r later : Run) :
    (m.follow r).follow later = m.follow (r.append later) := by
  simp only [follow, Run.notices_append, tell_append, tell_withState]
  rfl

theorem tick_advance (m : Machine) (cycles : Nat) :
    (m.advance cycles).1.tick =
      m.follow ⟨(m.state.trace cycles).cycles, (m.state.after cycles).tick⟩ := by
  rw [advance_eq]
  rfl

end Machine

/-- Frames lead where they lead the bare state, and the executed cycles are counted. -/
theorem CommandLine.runFrames_eq (cycles frames : Nat) (m : Machine) (executed : Nat) :
    runFrames cycles frames m executed =
      (m.follow (m.state.play (frameMoves cycles frames)),
        .ok (executed + (m.state.play (frameMoves cycles frames)).summary.executed)) := by
  induction frames generalizing m executed with
  | zero => rfl
  | succ frames ih =>
      have hstate : (m.advance cycles).1.tick.state = (m.state.after cycles).tick := by
        rw [Machine.tick_advance]
        rfl
      rw [runFrames, Machine.cycles_eq]
      simp only [ih, hstate]
      rw [Machine.tick_advance, Machine.follow_append, State.play_frames_succ, Nat.add_assoc]
      simp only [Run.summary, Run.append, List.countP_append]

end Chip8
