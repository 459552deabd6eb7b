import Chip8.Cycle

set_option autoImplicit false

/-! # Sessions

A host that drives a machine presses keys and ticks the timers between cycles, in any order. A
session is such a sequence of moves; playing it records the cycles, as a run does. A session
without inputs is a run (`play_replicate_cycle`). -/

namespace Chip8

/-- What a host does to a machine between cycles. -/
inductive HostInput where
  | setKey (key : Int) (pressed : Bool)
  | tick

/-- A move of a session. -/
inductive Move where
  | cycle
  | input (given : HostInput)

namespace State

/-- The state after an input; an unknown key is refused, and the state stays. -/
def receive (s : State) : HostInput → State
  | .setKey key pressed =>
    match s.setKey key pressed with
    | .ok next => next
    | .error _ => s
  | .tick => s.tick

/-- Play a session, recording its cycles. -/
def play (s : State) : List Move → Run
  | [] => ⟨[], s⟩
  | .cycle :: moves =>
    let rest := s.afterCycle.play moves
    ⟨s.nextCycle :: rest.cycles, rest.state⟩
  | .input given :: moves => (s.receive given).play moves

theorem play_replicate_cycle (s : State) (n : Nat) :
    s.play (List.replicate n .cycle) = s.trace n := by
  induction n generalizing s with
  | zero => rfl
  | succ n ih => rw [List.replicate_succ, play, ih, trace_succ]

/-- Inputs touch the keypad and the timers only. -/
theorem receive_eq (s : State) (given : HostInput) :
    s.receive given =
      { s with
        delay := (s.receive given).delay
        sound := (s.receive given).sound
        keypad := (s.receive given).keypad } := by
  cases given with
  | tick => rfl
  | setKey key pressed =>
      simp only [receive, setKey]
      cases Keypad.key? key <;> rfl

end State

end Chip8
