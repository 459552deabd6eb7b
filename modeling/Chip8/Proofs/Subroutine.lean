import Chip8.Proofs.Footprint
import Chip8.Proofs.Session

set_option autoImplicit false

/-! # Subroutines return

A call pushes the address of the instruction after it, and the matching return comes back to that
address. Matching is counting: the cycles after the call must not return further than they have
called, nor go more than sixteen calls deep, for the seventeenth overwrites the first. While the
depth is within these bounds the invariant `Inside` holds: the saved address is untouched, and the
pointer is as far above its slot as the depth says. -/

namespace Chip8

/-- How many calls of a list of cycles are still open. -/
def depth (cycles : List Cycle) : Int :=
  cycles.countP (·.operation = .call) - cycles.countP (·.operation = .ret)

theorem depth_cons (c : Cycle) (cycles : List Cycle) :
    depth (c :: cycles) = depth [c] + depth cycles := by
  unfold depth
  rw [List.countP_cons, List.countP_cons, List.countP_singleton, List.countP_singleton]
  push_cast
  omega

theorem depth_call {c : Cycle} (h : c.operation = .call) : depth [c] = 1 := by
  simp [depth, h]

theorem depth_ret {c : Cycle} (h : c.operation = .ret) : depth [c] = -1 := by
  simp [depth, h]

theorem depth_other {c : Cycle} (hcall : c.operation ≠ .call) (hret : c.operation ≠ .ret) :
    depth [c] = 0 := by
  simp [depth, hcall, hret]

theorem operation_of_depth_neg {c : Cycle} (h : depth [c] < 0) : c.operation = .ret := by
  by_cases hcall : c.operation = .call
  · rw [depth_call hcall] at h
    omega
  by_cases hret : c.operation = .ret
  · exact hret
  · rw [depth_other hcall hret] at h
    omega

theorem Instruction.eq_call_of_operation {i : Instruction} (h : i.operation = .call) :
    ∃ target, i = .call target := by
  cases i with
  | call target => exact ⟨target, rfl⟩
  | _ => nomatch h

theorem Instruction.eq_ret_of_operation {i : Instruction} (h : i.operation = .ret) : i = .ret := by
  cases i with
  | ret => rfl
  | _ => nomatch h

namespace State

variable {s : State}

/-! ## The call stack over one cycle -/

theorem afterCycle_of_extended (hextended : s.config.extended = true) {i : Instruction}
    (hdecode : Instruction.decode s.nextWord = i) (hknown : i.operation ≠ .unknown)
    (hassigned : i ≠ .unassigned) : s.afterCycle = s.fetch.1.perform i := by
  have hexecutes : s.fetch.1.config.executes i = true := by
    show s.config.executes i = true
    simp [Config.executes, Config.supports, hextended, hknown, hassigned]
  show s.fetch.1.execute (Instruction.decode s.nextWord) = s.fetch.1.perform i
  rw [hdecode, execute, if_pos hexecutes]

/-- A cycle that calls saves the address behind the call. -/
theorem stack_afterCycle_call (hextended : s.config.extended = true)
    (h : s.nextCycle.operation = .call) : s.afterCycle.stack = s.stack.push (s.pc + 2) := by
  obtain ⟨target, hdecode⟩ := Instruction.eq_call_of_operation h
  rw [afterCycle_of_extended hextended hdecode nofun nofun]
  rfl

/-- A cycle that returns goes where the stack says. -/
theorem afterCycle_ret (hextended : s.config.extended = true)
    (h : s.nextCycle.operation = .ret) :
    s.afterCycle.stack = s.stack.pop.1 ∧ s.afterCycle.pc = s.stack.pop.2 := by
  have hdecode : Instruction.decode s.nextWord = .ret := Instruction.eq_ret_of_operation h
  rw [afterCycle_of_extended hextended hdecode nofun nofun]
  exact ⟨rfl, rfl⟩

theorem stack_afterCycle_other (hcall : s.nextCycle.operation ≠ .call)
    (hret : s.nextCycle.operation ≠ .ret) : s.afterCycle.stack = s.stack :=
  stack_execute s.fetch.1 hcall hret

/-! ## Inside a subroutine -/

/-- Some calls deep in a subroutine that was called with the pointer at `base` and is to return
    to `address`. -/
structure Inside (s : State) (base : Int) (address : UInt16) (deep : Int) : Prop where
  extended : s.config.extended = true
  pointer : s.stack.pointer = (base + deep) % 16
  saved : s.stack.read (CallStack.slotOf base) = address

variable {base deep : Int} {address : UInt16}

/-- The call that enters the subroutine. -/
theorem inside_of_call (hextended : s.config.extended = true)
    (h : s.nextCycle.operation = .call) :
    Inside s.afterCycle s.stack.pointer ((s.pc + 2) &&& 0xFFF) 1 := by
  have hstack := stack_afterCycle_call hextended h
  refine ⟨by rw [config_afterCycle]; exact hextended, ?_, ?_⟩
  · rw [hstack, CallStack.push_pointer]
  · rw [hstack, CallStack.read_push, if_pos rfl]

/-- A cycle that neither leaves the subroutine nor goes too deep keeps the saved address: it
    pushes and pops at other slots. -/
theorem Inside.afterCycle (h : Inside s base address deep) (hdeep : 1 ≤ deep ∧ deep ≤ 16)
    (hnext : 1 ≤ deep + depth [s.nextCycle] ∧ deep + depth [s.nextCycle] ≤ 16) :
    Inside s.afterCycle base address (deep + depth [s.nextCycle]) := by
  have hextended : s.afterCycle.config.extended = true := by
    rw [config_afterCycle]
    exact h.extended
  by_cases hcall : s.nextCycle.operation = .call
  · have hstack := stack_afterCycle_call h.extended hcall
    rw [depth_call hcall] at hnext ⊢
    refine ⟨hextended, ?_, ?_⟩
    · rw [hstack, CallStack.push_pointer, h.pointer]
      omega
    · -- at most fifteen calls are open, so the free slot has not come around to `base`
      have hslot : CallStack.slotOf s.stack.pointer ≠ CallStack.slotOf base := by
        rw [Ne, CallStack.slotOf_eq_iff, h.pointer]
        omega
      rw [hstack, CallStack.read_push, if_neg hslot, h.saved]
  by_cases hret : s.nextCycle.operation = .ret
  · have hstack := (afterCycle_ret h.extended hret).1
    rw [depth_ret hret] at hnext ⊢
    refine ⟨hextended, ?_, ?_⟩
    · rw [hstack, CallStack.pop_pointer, h.pointer]
      omega
    · -- the slot that is cleared belongs to a later call
      have hslot : CallStack.slotOf (s.stack.pointer - 1) ≠ CallStack.slotOf base := by
        rw [Ne, CallStack.slotOf_eq_iff, h.pointer]
        omega
      rw [hstack, CallStack.read_pop, if_neg hslot, h.saved]
  · rw [depth_other hcall hret, Int.add_zero]
    refine ⟨hextended, ?_, ?_⟩
    · rw [stack_afterCycle_other hcall hret, h.pointer]
    · rw [stack_afterCycle_other hcall hret, h.saved]

/-- A cycle that leaves the subroutine goes to the saved address, and the pointer is back. -/
theorem Inside.returns (h : Inside s base address deep) (hdeep : 1 ≤ deep)
    (hnext : deep + depth [s.nextCycle] = 0) :
    s.afterCycle.pc = address ∧ s.afterCycle.stack.pointer = base % 16 := by
  have hret : s.nextCycle.operation = .ret := operation_of_depth_neg (by omega)
  have hdeep : deep = 1 := by
    rw [depth_ret hret] at hnext
    omega
  obtain ⟨hstack, hpc⟩ := afterCycle_ret h.extended hret
  constructor
  · have hslot : CallStack.slotOf (s.stack.pointer - 1) = CallStack.slotOf base := by
      rw [CallStack.slotOf_eq_iff, h.pointer]
      omega
    rw [hpc, CallStack.pop_address, hslot, h.saved]
  · rw [hstack, CallStack.pop_pointer, h.pointer]
    omega

theorem Inside.receive (h : Inside s base address deep) (given : HostInput) :
    Inside (s.receive given) base address deep := by
  rw [receive_eq]
  exact ⟨h.extended, h.pointer, h.saved⟩

/-! ## Sessions -/

theorem receive_pc (s : State) (given : HostInput) : (s.receive given).pc = s.pc := by
  rw [receive_eq]

theorem receive_stack (s : State) (given : HostInput) : (s.receive given).stack = s.stack := by
  rw [receive_eq]

theorem receive_config (s : State) (given : HostInput) : (s.receive given).config = s.config := by
  rw [receive_eq]

/-- Inputs alone move neither the program counter nor the stack. -/
theorem play_of_no_cycles {moves : List Move} (h : (s.play moves).cycles = []) :
    (s.play moves).state.pc = s.pc ∧ (s.play moves).state.stack = s.stack := by
  induction moves generalizing s with
  | nil => exact ⟨rfl, rfl⟩
  | cons move moves ih =>
      cases move with
      | cycle => exact absurd h (List.cons_ne_nil _ _)
      | input given =>
          obtain ⟨hpc, hstack⟩ := ih (s := s.receive given) h
          exact ⟨hpc.trans (s.receive_pc given), hstack.trans (s.receive_stack given)⟩

/-- The inputs before the first cycle of a session change nothing that calls and returns see. -/
theorem exists_play_cycle {moves : List Move} (h : (s.play moves).cycles ≠ []) :
    ∃ (start : State) (rest : List Move), s.play moves = start.play (.cycle :: rest) ∧
      start.pc = s.pc ∧ start.stack = s.stack ∧ start.config = s.config := by
  induction moves generalizing s with
  | nil => exact absurd rfl h
  | cons move moves ih =>
      cases move with
      | cycle => exact ⟨s, moves, rfl, rfl, rfl, rfl⟩
      | input given =>
          obtain ⟨start, rest, hplay, hpc, hstack, hconfig⟩ := ih (s := s.receive given) h
          exact ⟨start, rest, hplay, hpc.trans (s.receive_pc given),
            hstack.trans (s.receive_stack given), hconfig.trans (s.receive_config given)⟩

/-- From inside the subroutine: if the depth stays in bounds until the last cycle, and that one
    leaves, the session ends behind the call. The induction is on the moves, with the depth at
    which they start. -/
theorem Inside.play (moves : List Move) (h : Inside s base address deep)
    (hdeep : 1 ≤ deep ∧ deep ≤ 16)
    (hbounds : ∀ i, i + 1 < (s.play moves).cycles.length →
      1 ≤ deep + depth ((s.play moves).cycles.take (i + 1)) ∧
        deep + depth ((s.play moves).cycles.take (i + 1)) ≤ 16)
    (hend : deep + depth (s.play moves).cycles = 0) :
    (s.play moves).state.pc = address ∧ (s.play moves).state.stack.pointer = base % 16 := by
  induction moves generalizing s deep with
  | nil =>
      have hzero : depth [] = 0 := rfl
      rw [State.play, hzero] at hend
      omega
  | cons move moves ih =>
      cases move with
      | input given => exact ih (h.receive given) hdeep hbounds hend
      | cycle =>
          rw [State.play] at hbounds hend ⊢
          simp only [List.length_cons, List.take_succ_cons] at hbounds hend ⊢
          rw [depth_cons, ← Int.add_assoc] at hend
          rcases hrest : (s.afterCycle.play moves).cycles with _ | ⟨c, cycles⟩
          · -- the last cycle, with nothing but inputs behind it
            have hzero : depth [] = 0 := rfl
            rw [hrest, hzero, Int.add_zero] at hend
            obtain ⟨hpc, hpointer⟩ := h.returns hdeep.1 hend
            obtain ⟨hpc', hstack'⟩ := play_of_no_cycles hrest
            exact ⟨hpc'.trans hpc, hstack' ▸ hpointer⟩
          · have hnext := hbounds 0 (by rw [hrest, List.length_cons]; omega)
            rw [List.take_zero] at hnext
            refine ih (h.afterCycle hdeep hnext) hnext (fun i hi => ?_) hend
            have hlater := hbounds (i + 1) (by omega)
            rw [depth_cons, ← Int.add_assoc] at hlater
            exact hlater

/-- A session of `m + 2` cycles that begins with a call goes on behind that call, its stack pointer
    where it was modulo the size of the stack, if the depth stays between 1 and 16 until the last
    cycle and is 0 after it. (The last cycle is then a return, for nothing else lowers the depth.)
    All else that happens in between is up to the program and the host. -/
theorem pc_play_of_balanced (hextended : s.config.extended = true) (moves : List Move) (m : Nat)
    (hlength : (s.play moves).cycles.length = m + 2)
    (hcall : (s.play moves).cycles[0]?.map (·.operation) = some .call)
    (hbounds : ∀ i ≤ m, 1 ≤ depth ((s.play moves).cycles.take (i + 1)) ∧
      depth ((s.play moves).cycles.take (i + 1)) ≤ 16)
    (hend : depth (s.play moves).cycles = 0) :
    (s.play moves).state.pc.toNat = (s.pc.toNat + 2) % 4096 ∧
      (s.play moves).state.stack.pointer = s.stack.pointer % 16 := by
  have hcycles : (s.play moves).cycles ≠ [] := by
    intro hnil
    rw [hnil] at hlength
    exact absurd hlength (by simp)
  obtain ⟨start, rest, hplay, hpc, hstack, hconfig⟩ := exists_play_cycle hcycles
  simp only [hplay, State.play, List.length_cons, List.getElem?_cons_zero, Option.map_some,
    Option.some.injEq, List.take_succ_cons] at hlength hcall hbounds hend ⊢
  rw [depth_cons, depth_call hcall] at hend
  have hinside : Inside start.afterCycle s.stack.pointer ((s.pc + 2) &&& 0xFFF) 1 := by
    rw [← hpc, ← hstack]
    exact inside_of_call (by rw [hconfig]; exact hextended) hcall
  obtain ⟨hfinal, hpointer⟩ := hinside.play rest (by omega) (fun i hi => by
    have hlater := hbounds (i + 1) (by omega)
    rw [depth_cons, depth_call hcall] at hlater
    exact hlater) hend
  refine ⟨?_, hpointer⟩
  rw [hfinal, Word.toNat_and_mask, UInt16.toNat_add]
  have htwo : (2 : UInt16).toNat = 2 := rfl
  omega

/-- Two nested calls with inputs between the cycles, on a stack whose pointer starts below 0. -/
theorem pc_play_of_balanced_nested :
    let memory := Memory.zero.writeBlock 0x200 [0x22, 0x04, 0, 0, 0x22, 0x06, 0x00, 0xEE]
    let s : State := { initial ⟨.extended, true⟩ .zero with
      memory := memory, stack := ⟨Vector.replicate 16 0x333, -5⟩ }
    let moves : List Move :=
      [.cycle, .input .tick, .cycle, .input (.setKey 3 true), .cycle, .cycle]
    s.config.extended = true ∧ (s.play moves).cycles.length = 4 ∧
      (s.play moves).cycles[0]?.map (·.operation) = some .call ∧
      (∀ i ≤ 2, 1 ≤ depth ((s.play moves).cycles.take (i + 1)) ∧
        depth ((s.play moves).cycles.take (i + 1)) ≤ 16) ∧
      depth (s.play moves).cycles = 0 ∧ (s.play moves).state.pc.toNat = 0x202 ∧
      (s.play moves).state.stack.pointer = 11 := by
  intro memory s moves
  have hlength : (s.play moves).cycles.length = 2 + 2 := by rfl
  have hcall : (s.play moves).cycles[0]?.map (·.operation) = some .call := by decide +kernel
  have hbounds : ∀ i ≤ 2, 1 ≤ depth ((s.play moves).cycles.take (i + 1)) ∧
      depth ((s.play moves).cycles.take (i + 1)) ≤ 16 := by decide +kernel
  have hend : depth (s.play moves).cycles = 0 := by decide +kernel
  obtain ⟨hpc, hpointer⟩ := pc_play_of_balanced rfl moves 2 hlength hcall hbounds hend
  exact ⟨rfl, hlength, hcall, hbounds, hend, hpc, hpointer⟩

end State

end Chip8
