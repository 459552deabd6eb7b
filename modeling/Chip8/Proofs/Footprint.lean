import Chip8.Cycle

set_option autoImplicit false

/-! # What an instruction leaves alone

The operations that decide something before they write are restated as a single update of the
state, which names every field they can touch; all others are such an update already. From these
follows, field by field, which instructions can change it. -/

namespace Chip8.State

/-! ## Footprints of the compound operations -/

theorem skipIf_eq (s : State) (holds : Bool) :
    s.skipIf holds = { s with pc := (s.skipIf holds).pc } := by
  cases holds <;> rfl

theorem applyAlu_eq (s : State) (op : AluOp) (x y : Fin 16) :
    s.applyAlu op x y = { s with registers := (s.applyAlu op x y).registers } := by
  simp only [applyAlu]
  split <;> rfl

theorem draw_eq (s : State) (x y height : Fin 16) :
    s.draw x y height =
      { s with
        registers := (s.draw x y height).registers
        screen := s.screen.flip (s.spriteLayer x y height) } := by
  unfold draw
  split <;> rfl

theorem awaitKey_eq (s : State) (x : Fin 16) :
    s.awaitKey x =
      { s with registers := (s.awaitKey x).registers, pc := (s.awaitKey x).pc } := by
  unfold awaitKey
  split <;> rfl

/-! ## The configuration -/

theorem config_perform (s : State) (i : Instruction) : (s.perform i).config = s.config := by
  cases i with
  | skipIfEqual | skipIfNotEqual | skipIfRegistersEqual | skipIfRegistersNotEqual | skipIfHeld
  | skipIfReleased => rw [perform, skipIf_eq]
  | alu => rw [perform, applyAlu_eq]
  | drawSprite => rw [perform, draw_eq]
  | waitForKey => rw [perform, awaitKey_eq]
  | _ => rfl

theorem config_execute (s : State) (i : Instruction) : (s.execute i).config = s.config := by
  unfold execute
  split
  · exact s.config_perform i
  · rfl

theorem config_afterCycle (s : State) : s.afterCycle.config = s.config :=
  config_execute s.fetch.1 _

/-! ## The call stack -/

/-- Only calls and returns touch the call stack. -/
theorem stack_perform (s : State) {i : Instruction} (hcall : i.operation ≠ .call)
    (hret : i.operation ≠ .ret) : (s.perform i).stack = s.stack := by
  cases i with
  | call => exact absurd rfl hcall
  | ret => exact absurd rfl hret
  | skipIfEqual | skipIfNotEqual | skipIfRegistersEqual | skipIfRegistersNotEqual | skipIfHeld
  | skipIfReleased => rw [perform, skipIf_eq]
  | alu => rw [perform, applyAlu_eq]
  | drawSprite => rw [perform, draw_eq]
  | waitForKey => rw [perform, awaitKey_eq]
  | _ => rfl

theorem stack_execute (s : State) {i : Instruction} (hcall : i.operation ≠ .call)
    (hret : i.operation ≠ .ret) : (s.execute i).stack = s.stack := by
  unfold execute
  split
  · exact s.stack_perform hcall hret
  · rfl

/-! ## Cycles that execute their word, and cycles that do not -/

/-- Without the extension, only core instructions are executed. -/
theorem isCore_of_executes {c : Config} (hcore : c.extended = false) {i : Instruction}
    (h : c.executes i = true) : i.operation.isCore = true := by
  rw [Config.executes, Config.supports, hcore, Bool.and_eq_true] at h
  exact h.1

theorem outcome_eq_executed_iff (s : State) :
    s.nextCycle.outcome = .executed ↔
      s.config.executes (Instruction.decode s.nextWord) = true := by
  unfold nextCycle
  split
  · next hexecutes => simp [hexecutes]
  · next hexecutes => simp [hexecutes]

theorem afterCycle_of_executed {s : State} (h : s.nextCycle.outcome = .executed) :
    s.afterCycle = s.fetch.1.perform (Instruction.decode s.nextWord) :=
  if_pos (s.outcome_eq_executed_iff.1 h)

theorem afterCycle_of_not_executed {s : State} (h : s.nextCycle.outcome ≠ .executed) :
    s.afterCycle = s.fetch.1 :=
  if_neg (mt s.outcome_eq_executed_iff.2 h)

/-! ## Operations of the host -/

theorem eq_of_load {s t : State} {program : List UInt8} {size? : Option Int}
    (h : s.load program size? = .ok t) :
    t = { s.reset with memory := t.memory } := by
  unfold load at h
  rcases hpart : loadedPart program size? with cause | image
  · rw [hpart] at h
    nomatch h
  · rw [hpart] at h
    obtain rfl := Except.ok.inj h
    rfl

theorem eq_of_setKey {s t : State} {key : Int} {pressed : Bool}
    (h : s.setKey key pressed = .ok t) :
    t = { s with keypad := t.keypad } := by
  unfold setKey at h
  rcases hkey : Keypad.key? key with _ | k
  · rw [hkey] at h
    nomatch h
  · rw [hkey] at h
    obtain rfl := Except.ok.inj h
    rfl

end Chip8.State
