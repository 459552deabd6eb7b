import Chip8.Proofs.Footprint
import Chip8.Proofs.Life
import Mathlib.Data.List.DropRight

set_option autoImplicit false

/-! # Laws of whole lives

A law that holds of a machine at every moment, about its state and all that has happened to it, is
proved by looking at what can happen next: a fresh start, a cycle or a tick. Between these only the
keypad changes. That a law is kept by each of them (`Lasting`) is enough; batches of cycles, failed
operations and observers are dealt with here, once for all laws (`Lasting.applyAll`). -/

namespace Chip8

/-- Whether this is a fresh start. -/
def Happening.isFresh : Happening → Bool
  | fresh => true
  | _ => false

/-- Whether this is a tick of the timers. -/
def Happening.isTick : Happening → Bool
  | ticked => true
  | _ => false

/-- Whether an operation asks for a fresh start. -/
def HostOp.startsAfresh : HostOp → Bool
  | reset | load _ _ | loadRom _ => true
  | _ => false

/-! ## Since the last fresh start -/

/-- What has happened since the last fresh start, or at all if there was none. -/
def sinceFresh (life : List Happening) : List Happening := life.rtakeWhile fun h => !h.isFresh

theorem sinceFresh_fresh (life : List Happening) : sinceFresh (life ++ [.fresh]) = [] :=
  List.rtakeWhile_concat_neg _ _ _ (by decide)

theorem sinceFresh_concat (life : List Happening) {last : Happening}
    (h : last.isFresh = false) : sinceFresh (life ++ [last]) = sinceFresh life ++ [last] :=
  List.rtakeWhile_concat_pos _ _ _ (by rw [h]; rfl)

/-! ## Laws -/

/-- A law about the past of a machine and its state that lasts, whatever happens next. A fresh start
    brings a memory of its own. Key events do not belong to the past; they change the keypad. -/
structure Lasting (law : List Happening → State → Prop) : Prop where
  fresh : ∀ past s (memory : Memory), law past s →
    law (past ++ [.fresh]) { s.reset with memory := memory }
  ran : ∀ past s, law past s → law (past ++ [.ran s]) s.afterCycle
  ticked : ∀ past s, law past s → law (past ++ [.ticked]) s.tick
  keyed : ∀ past s (keypad : Keypad), law past s → law past { s with keypad := keypad }

namespace State

theorem after_succ_last (s : State) (n : Nat) : s.after (n + 1) = (s.after n).afterCycle :=
  s.after_add n 1

/-- A key event changes the keypad, if anything. -/
theorem respond_setKey (s : State) (files : Files) (key : Int) (pressed : Bool) :
    ∃ keypad, (s.respond files (.setKey key pressed)).1 = { s with keypad := keypad } := by
  rcases hkey : s.setKey key pressed with cause | next
  · simp only [respond, hkey]
    exact ⟨s.keypad, rfl⟩
  · simp only [respond, hkey]
    exact ⟨next.keypad, eq_of_setKey hkey⟩

end State

theorem HostOp.happenings_setKey (s : State) (key : Int) (pressed : Bool)
    (reply : Except HostError Reply) : (setKey key pressed).happenings s reply = [] := by
  cases reply <;> rfl

namespace Lasting

variable {law : List Happening → State → Prop} {past : List Happening} {s : State}

theorem after (hlaw : Lasting law) (h : law past s) (n : Nat) :
    law (past ++ (List.range n).map fun i => .ran (s.after i)) (s.after n) := by
  induction n with
  | zero =>
      rw [List.range_zero, List.map_nil, List.append_nil]
      exact h
  | succ n ih =>
      rw [List.range_succ, List.map_append, ← List.append_assoc, State.after_succ_last]
      exact hlaw.ran _ _ ih

theorem load (hlaw : Lasting law) (h : law past s) {program : List UInt8} {size? : Option Int}
    {next : State} (hload : s.load program size? = .ok next) : law (past ++ [.fresh]) next := by
  rw [State.eq_of_load hload]
  exact hlaw.fresh past s next.memory h

/-- One operation, whether it succeeds or not. -/
theorem respond (hlaw : Lasting law) (files : Files) (h : law past s) (op : HostOp) :
    law (past ++ op.happenings s (s.respond files op).2) (s.respond files op).1 := by
  have hidle : law (past ++ []) s := by rwa [List.append_nil]
  cases op with
  | reset => exact hlaw.fresh past s State.initialMemory h
  | tick => exact hlaw.ticked past s h
  | cycle => exact hlaw.ran past s h
  | cycles count =>
      by_cases hnegative : count < 0
      · simp only [State.respond, if_pos hnegative]
        exact hidle
      · simp only [State.respond, if_neg hnegative]
        exact hlaw.after h count.toNat
  | setKey key pressed =>
      obtain ⟨keypad, hstate⟩ := s.respond_setKey files key pressed
      rw [hstate, HostOp.happenings_setKey]
      exact hlaw.keyed _ s keypad hidle
  | load program size? =>
      rcases hload : s.load program size? with cause | next
      · simp only [State.respond, hload]
        exact hidle
      · simp only [State.respond, hload]
        exact hlaw.load h hload
  | loadRom path =>
      rcases hread : files.read path with cause | program
      · simp only [State.respond, hread]
        exact hidle
      rcases hload : s.load program none with cause | next
      · simp only [State.respond, hread, hload]
        exact hidle
      · simp only [State.respond, hread, hload]
        exact hlaw.load h hload

/-- Any operations, one after the other. -/
theorem applyAll (hlaw : Lasting law) (files : Files) {m : Machine} (h : law past m.state)
    (ops : List HostOp) :
    law (past ++ m.life files ops) (m.applyAll files ops).1.state := by
  induction ops generalizing m past with
  | nil =>
      rw [Machine.life, List.append_nil]
      exact h
  | cons op ops ih =>
      have hfollows := Machine.follows_apply files m op
      have hnext := hlaw.respond files h op
      rw [← hfollows.reply, ← hfollows.state] at hnext
      rw [Machine.life, ← List.append_assoc]
      exact ih hnext

/-! Laws about what happens from now on -/

theorem respond_now (hlaw : Lasting law) (files : Files) (h : law [] s) (op : HostOp) :
    law (op.happenings s (s.respond files op).2) (s.respond files op).1 :=
  hlaw.respond files h op

theorem applyAll_now (hlaw : Lasting law) (files : Files) {m : Machine} (h : law [] m.state)
    (ops : List HostOp) : law (m.life files ops) (m.applyAll files ops).1.state :=
  hlaw.applyAll files h ops

end Lasting

end Chip8
