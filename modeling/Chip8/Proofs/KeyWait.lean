import Chip8.Proofs.Encoding
import Chip8.Proofs.History
import Chip8.Proofs.Interleaving
import Mathlib.Logic.Equiv.Fin.Basic
import Mathlib.Order.Bounds.Basic

set_option autoImplicit false

/-! # Waiting for a key

An extended machine that comes to a word `FX0A` stays there as long as no key is held: the cycle
takes the program counter back to where it fetched the word, also across the end of the counter's
range, so the state is a fixed point of the cycle (`AwaitsAt.afterCycle_eq`). Ticks and key events
go on meanwhile and leave the machine waiting (`AwaitsAt.input`). The first cycle that finds a key
held goes past the word, with the least of the held keys in `VX` (`AwaitsAt.step_of_held`). -/

namespace Chip8

theorem Keypad.lowest?_eq_some_iff (p : Keypad) (key : Fin 16) :
    p.lowest? = some key ↔ IsLeast {k | p.isHeld k = true} key := by
  rw [lowest?, ← Fin.find?_eq_find?_finRange, Fin.find?_eq_some_iff]
  refine and_congr_right fun _ => forall_congr' fun k => ?_
  rw [← not_lt, ← Bool.not_eq_true]
  exact imp_not_comm

/-- Whether this is a cycle while a key is held. -/
def Happening.runsWithKey : Happening → Bool
  | ran s => ∃ key, s.keypad.isHeld key = true
  | _ => false

/-- What an operation answers if it runs cycles and all of them are executed. -/
def HostOp.ReportsExecuted : HostOp → Except HostError Reply → Prop
  | cycle, reply => reply = .ok (.outcome .executed)
  | cycles count, reply => 0 ≤ count → reply = .ok (.summary ⟨count.toNat, 0⟩)
  | _, _ => True

theorem HostOp.reportsExecuted_of_not_isRun {op : HostOp} (h : op.isRun = false)
    (reply : Except HostError Reply) : op.ReportsExecuted reply := by
  cases op with
  | cycle | cycles => nomatch h
  | _ => trivial

namespace State

variable {s : State} {address : UInt16} {x : Fin 16}

/-- An extended machine that has come to a word `FX0A`. -/
structure AwaitsAt (address : UInt16) (x : Fin 16) (s : State) : Prop where
  extended : s.config.extended = true
  pc : s.pc = address
  word : Instruction.decode s.nextWord = .waitForKey x

namespace AwaitsAt

/-! ## Cycles -/

theorem outcome_eq (h : AwaitsAt address x s) : s.nextCycle.outcome = .executed := by
  rw [s.outcome_eq_executed_iff, h.word, Config.executes, Config.supports, h.extended]
  rfl

theorem afterCycle (h : AwaitsAt address x s) : s.afterCycle = s.fetch.1.awaitKey x := by
  rw [afterCycle_of_executed h.outcome_eq, h.word]
  rfl

/-- Without a key, the program counter goes forth and back. -/
theorem afterCycle_eq (h : AwaitsAt address x s)
    (hreleased : (Happening.ran s).runsWithKey = false) : s.afterCycle = s := by
  have hnone : s.fetch.1.keypad.lowest? = none := by
    rw [Keypad.lowest?_eq_none_iff]
    intro key
    rw [← Bool.not_eq_true]
    exact not_exists.1 (decide_eq_false_iff_not.1 hreleased) key
  rw [h.afterCycle, awaitKey, hnone]
  show { s with pc := s.pc + 2 - 2 } = s
  rw [UInt16.add_sub_cancel]

theorem trace_eq_replicate (h : AwaitsAt address x s)
    (hreleased : (Happening.ran s).runsWithKey = false) (n : Nat) : s.trace n = ⟨List.replicate n s.nextCycle, s⟩ := by
  induction n with
  | zero => rfl
  | succ n ih => rw [trace_succ, h.afterCycle_eq hreleased, ih, List.replicate_succ]

/-- With keys held, the machine takes the least of them and goes on. -/
theorem step_of_held (h : AwaitsAt address x s) {key : Fin 16}
    (hkey : IsLeast {k | s.keypad.isHeld k = true} key) :
    s.step = ({ s.setReg x (UInt8.ofNat key.val) with pc := address + 2 }, .executed) := by
  have hlowest : s.fetch.1.keypad.lowest? = some key := (s.keypad.lowest?_eq_some_iff key).2 hkey
  rw [step, h.outcome_eq, h.afterCycle, awaitKey, hlowest, ← h.pc]
  rfl

theorem exists_isLeast_of_held {key : Fin 16} (h : s.keypad.isHeld key = true) :
    ∃ least, IsLeast {k | s.keypad.isHeld k = true} least := by
  cases hlowest : s.keypad.lowest? with
  | none =>
      rw [Keypad.lowest?_eq_none_iff] at hlowest
      rw [hlowest key] at h
      nomatch h
  | some least => exact ⟨least, (s.keypad.lowest?_eq_some_iff least).1 hlowest⟩

/-! ## Operations -/

theorem input (h : AwaitsAt address x s) (files : Files) {op : HostOp}
    (hfresh : op.startsAfresh = false) (hrun : op.isRun = false) :
    AwaitsAt address x (s.respond files op).1 := by
  cases op with
  | tick => exact ⟨h.extended, h.pc, h.word⟩
  | setKey key pressed =>
      obtain ⟨keypad, hstate⟩ := s.respond_setKey files key pressed
      rw [hstate]
      exact ⟨h.extended, h.pc, h.word⟩
  | reset | load | loadRom => cases hfresh
  | cycle | cycles => cases hrun

/-- Cycles without a key, one or many. -/
theorem run (h : AwaitsAt address x s) (files : Files) {op : HostOp} (hrun : op.isRun = true)
    (hreleased : ∀ e ∈ op.happenings s (s.respond files op).2, e.runsWithKey = false) :
    (s.respond files op).1 = s ∧ op.ReportsExecuted (s.respond files op).2 := by
  cases op with
  | cycle =>
      have hnow := hreleased (.ran s) (List.mem_singleton_self _)
      refine ⟨h.afterCycle_eq hnow, ?_⟩
      show Except.ok (Reply.outcome s.nextCycle.outcome) = _
      rw [h.outcome_eq]
  | cycles count =>
      by_cases hnegative : count < 0
      · simp only [respond, if_pos hnegative]
        exact ⟨trivial, fun hcount => absurd hnegative (not_lt.2 hcount)⟩
      simp only [respond, if_neg hnegative] at hreleased ⊢
      rw [← state_trace]
      have htrace : s.trace count.toNat = ⟨List.replicate count.toNat s.nextCycle, s⟩ := by
        cases hn : count.toNat with
        | zero => rfl
        | succ n =>
            -- a batch has a first cycle, and finds no key held there
            have hnow := hreleased (.ran (s.after 0)) (List.mem_map_of_mem (by simp [hn]))
            exact h.trace_eq_replicate hnow (n + 1)
      refine ⟨congrArg Run.state htrace, fun _ => ?_⟩
      simp only [htrace, Run.summary, List.countP_replicate, h.outcome_eq]
      rfl
  | _ => cases hrun

end AwaitsAt

end State

namespace Machine

variable (files : Files) {address : UInt16} {x : Fin 16}

/-- As long as no key is held at a cycle, the machine keeps waiting and the cycles do nothing. -/
theorem awaitsAt_applyAll {m : Machine} (h : m.state.AwaitsAt address x) {ops : List HostOp}
    (hops : ∀ op ∈ ops, op.startsAfresh = false)
    (hreleased : ∀ e ∈ m.life files ops, e.runsWithKey = false) :
    List.Forall₂ HostOp.ReportsExecuted ops (m.applyAll files ops).2 ∧
      (m.applyAll files ops).1.state =
        (m.applyAll files (ops.filter fun op => !op.isRun)).1.state ∧
      (m.applyAll files ops).1.state.AwaitsAt address x := by
  induction ops generalizing m with
  | nil => exact ⟨.nil, rfl, h⟩
  | cons op ops ih =>
      have hfollows := follows_apply files m op
      have hhere : ∀ e ∈ op.happenings m.state (m.state.respond files op).2,
          e.runsWithKey = false := by
        rw [← hfollows.reply]
        exact fun e hmem => hreleased e (List.mem_append_left _ hmem)
      have hlater : ∀ e ∈ (m.apply files op).1.life files ops, e.runsWithKey = false :=
        fun e hmem => hreleased e (List.mem_append_right _ hmem)
      have hrest := fun op hop => hops op (List.mem_cons_of_mem _ hop)
      rw [applyAll_cons]
      cases hrun : op.isRun with
      | true =>
          -- the machine is where it was, so the rest does what it does without this operation
          obtain ⟨hstate, hreports⟩ := h.run files hrun hhere
          rw [← hfollows.state] at hstate
          rw [← hfollows.reply] at hreports
          obtain ⟨hreplies, hinputs, hfinal⟩ := ih (by rwa [hstate]) hrest hlater
          rw [List.filter_cons_of_neg (by rw [hrun]; decide), ← (applyAll_congr files hstate _).1]
          exact ⟨.cons hreports hreplies, hinputs, hfinal⟩
      | false =>
          have hnext := h.input files (hops op (List.mem_cons_self ..)) hrun
          rw [← hfollows.state] at hnext
          obtain ⟨hreplies, hinputs, hfinal⟩ := ih hnext hrest hlater
          rw [List.filter_cons_of_pos (by rw [hrun]; rfl), applyAll_cons]
          exact ⟨.cons (op.reportsExecuted_of_not_isRun hrun _) hreplies, hinputs, hfinal⟩

/-- An extended machine in any state, at any program counter, whose next word is `FX0A`, and any
    operations but fresh starts, failed ones among them, such that no key is held at any of their
    cycles. All these cycles are executed, and the machine comes to the state that it comes to
    without them. If a key is held then, the next cycle is executed too; it sets `VX` to the least
    of the held keys and moves the program counter by two, and changes nothing else. -/
theorem waits_until_key_held {m : Machine} (hextended : m.state.config.extended = true)
    (hword : Word.opcode m.state.nextWord = 0xF ∧ Word.nn m.state.nextWord = 0x0A)
    {ops : List HostOp} (hops : ∀ op ∈ ops, op.startsAfresh = false)
    (hreleased : ∀ e ∈ m.life files ops, e.runsWithKey = false) :
    let waited := m.applyAll files ops
    let s := waited.1.state
    List.Forall₂ HostOp.ReportsExecuted ops waited.2 ∧
      s = (m.applyAll files (ops.filter fun op => !op.isRun)).1.state ∧
      ((∃ key, s.keypad.isHeld key = true) →
        ∃ least, IsLeast {key | s.keypad.isHeld key = true} least ∧
          s.step =
            ({ s.setReg (Word.x m.state.nextWord) (UInt8.ofNat least.val) with
                pc := m.state.pc + 2 }, .executed)) := by
  intro waited s
  have hawaits : m.state.AwaitsAt m.state.pc (Word.x m.state.nextWord) :=
    ⟨hextended, rfl, Instruction.decode_of_encodedBy ⟨hword.1, hword.2, rfl⟩⟩
  obtain ⟨hreplies, hinputs, hfinal⟩ := awaitsAt_applyAll files hawaits hops hreleased
  refine ⟨hreplies, hinputs, ?_⟩
  rintro ⟨key, hkey⟩
  obtain ⟨least, hleast⟩ := State.AwaitsAt.exists_isLeast_of_held hkey
  exact ⟨least, hleast, hfinal.step_of_held hleast⟩

/-- A word `F30A` that starts at the last address and ends at the first, with the program counter at
    the end of its range. Cycles, ticks and key events go on, until two keys are held. -/
theorem waits_until_key_held_across_end :
    let files : Files := ⟨fun _ => .error .notFound⟩
    let made := make ⟨.extended, false⟩ .zero (some []) (.start {} .info .still)
    let m := made.withState { made.state with
      pc := 0xFFFF, sound := 9, memory := (made.state.memory.write 0xFFF 0xF3).write 0 0x0A }
    let ops : List HostOp :=
      [.cycles 3, .tick, .setKey 9 true, .setKey 9 false, .cycle, .setKey 99 true, .cycles (-1),
        .setKey 12 true, .setKey 5 true]
    let waited := m.applyAll files ops
    let s := waited.1.state
    let inputs : List HostOp :=
      [.tick, .setKey 9 true, .setKey 9 false, .setKey 99 true, .setKey 12 true, .setKey 5 true]
    List.Forall₂ HostOp.ReportsExecuted ops waited.2 ∧
      s = (m.applyAll files inputs).1.state ∧ s.sound = 8 ∧
      s.step = ({ s.setReg 3 5 with pc := 1 }, .executed) := by
  intro files made m ops waited s inputs
  have hops : ∀ op ∈ ops, op.startsAfresh = false := by decide
  obtain ⟨hopcode, hbyte, hx, hnone, hsound, hlowest⟩ :
      Word.opcode m.state.nextWord = 0xF ∧ Word.nn m.state.nextWord = 0x0A ∧
        Word.x m.state.nextWord = 3 ∧ (m.life files ops).any Happening.runsWithKey = false ∧
        s.sound = 8 ∧ s.keypad.lowest? = some 5 := by decide +kernel
  have hreleased : ∀ e ∈ m.life files ops, e.runsWithKey = false :=
    fun e he => Bool.eq_false_iff.2 (List.any_eq_false.1 hnone e he)
  obtain ⟨hreplies, hinputs, hreleases⟩ :=
    waits_until_key_held files (m := m) rfl ⟨hopcode, hbyte⟩ hops hreleased
  have hfive := (s.keypad.lowest?_eq_some_iff 5).1 hlowest
  obtain ⟨least, hleast, hstep⟩ := hreleases ⟨5, hfive.1⟩
  have hpc : m.state.pc + 2 = 1 := by decide
  rw [hx, hleast.unique hfive, hpc] at hstep
  exact ⟨hreplies, hinputs, hsound, hstep⟩

end Machine

end Chip8
