import Chip8.Machine
import Chip8.Proofs.SingleStep

set_option autoImplicit false

/-! # What observers are told

All observers of a machine are told the same notices, in the same order, and telling them changes
nothing but themselves and the log. So a state may be put in before or after (`tell_withState`),
and what is told in two portions might as well be told at once (`tell_append`). -/

namespace Chip8

/-- An observer that was told notices, one after the other. -/
def Observer.told (o : Observer) (notices : List Notice) : Observer :=
  notices.foldl (fun o notice => (o.observe notice).1) o

theorem Observer.told_append (o : Observer) (ns ms : List Notice) :
    o.told (ns ++ ms) = (o.told ns).told ms :=
  List.foldl_append

theorem Observer.observeAll_observers (os : List Observer) (notice : Notice) :
    (observeAll os notice).1 = os.map (·.told [notice]) := by
  induction os with
  | nil => rfl
  | cons o os ih =>
      show (o.observe notice).1 :: (observeAll os notice).1 = _
      rw [ih]
      rfl

/-- An observer that keeps a record has all that it was told on it, the latest first. -/
theorem Observer.told_recording (record ns : List Notice) :
    (recording record).told ns = recording (ns.reverse ++ record) := by
  induction ns generalizing record with
  | nil => rfl
  | cons n ns ih =>
      rw [List.reverse_cons, List.append_assoc]
      exact ih (n :: record)

/-- The notices that a run gives rise to. -/
def Run.notices (r : Run) : List Notice := r.events.map .unsupported

namespace Machine

/-- Tell the observers notices, one after the other. -/
def tell (m : Machine) (notices : List Notice) : Machine := notices.foldl notify m

/-- The machine in another state. -/
def withState (m : Machine) (s : State) : Machine := { m with state := s }

theorem tell_append (m : Machine) (ns ms : List Notice) :
    m.tell (ns ++ ms) = (m.tell ns).tell ms :=
  List.foldl_append

theorem tell_cons (m : Machine) (n : Notice) (ns : List Notice) :
    m.tell (n :: ns) = (m.notify n).tell ns := rfl

@[simp] theorem state_withState (m : Machine) (s : State) : (m.withState s).state = s := rfl

@[simp] theorem observers_withState (m : Machine) (s : State) :
    (m.withState s).observers = m.observers := rfl

@[simp] theorem state_tell (m : Machine) (ns : List Notice) : (m.tell ns).state = m.state := by
  induction ns generalizing m with
  | nil => rfl
  | cons n ns ih => rw [tell_cons, ih]; rfl

theorem observers_tell (m : Machine) (ns : List Notice) :
    (m.tell ns).observers = m.observers.map (·.told ns) := by
  induction ns generalizing m with
  | nil => exact (List.map_id m.observers).symm
  | cons n ns ih =>
      have hnotify : (m.notify n).observers = m.observers.map (·.told [n]) :=
        Observer.observeAll_observers m.observers n
      rw [tell_cons, ih, hnotify, List.map_map]
      rfl

theorem tell_withState (m : Machine) (s : State) (ns : List Notice) :
    (m.withState s).tell ns = (m.tell ns).withState s := by
  induction ns generalizing m with
  | nil => rfl
  | cons n ns ih =>
      rw [tell_cons, tell_cons, ← ih]
      rfl

/-- Where nobody observes, telling changes nothing. -/
theorem tell_of_unobserved {m : Machine} (h : m.observers = []) (ns : List Notice) :
    m.tell ns = m := by
  induction ns with
  | nil => rfl
  | cons n ns ih =>
      have hnotify : m.notify n = m := by
        unfold notify
        rw [h]
        cases m
        cases h
        rfl
      rw [tell_cons, hnotify, ih]

/-- Reporting is telling, also on machines without observers, which do not look at the run. -/
theorem report_eq (m : Machine) (r : Run) : m.report r = m.tell r.notices := by
  unfold report
  split
  · next hempty => exact (tell_of_unobserved (List.isEmpty_iff.1 hempty) _).symm
  · rw [Run.notices, tell, List.foldl_map]

/-! ## Running and telling -/

theorem advance_eq (m : Machine) (n : Nat) :
    (m.advance n).1 = (m.tell (m.state.trace n).notices).withState (m.state.after n) := by
  rw [← tell_withState, ← State.state_trace]
  exact report_eq _ _

theorem notices_trace_add (s : State) (k n : Nat) :
    (s.trace (k + n)).notices = (s.trace k).notices ++ ((s.after k).trace n).notices := by
  simp only [Run.notices, Run.events, Run.unsupported, State.trace_add, State.state_trace,
    List.filter_append, List.map_append]

/-- Cycles may be run in two portions. -/
theorem advance_add (m : Machine) (k n : Nat) :
    (m.advance (k + n)).1 = ((m.advance k).1.advance n).1 := by
  -- on the right, the state of the first portion is put in before the second one is told
  simp only [advance_eq, tell_withState, state_withState, notices_trace_add, tell_append,
    State.after_add]
  rfl

end Machine

end Chip8
