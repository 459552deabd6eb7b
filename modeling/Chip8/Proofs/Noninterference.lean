import Chip8.Proofs.Encoding
import Chip8.Proofs.Footprint
import Chip8.Proofs.Lockstep
import Mathlib.Data.Set.Defs

set_option autoImplicit false

/-! # What is not read does not matter

The keypad, the timers, the random stream and the call stack influence a program through a few words
only: `EX9E`, `EXA1` and `FX0A` read the keypad, `FX07` the delay timer, `CXNN` the random stream
and `00EE` the call stack; nothing reads the sound timer. Two states that differ in some of these
components run in lockstep as long as no word that reads one of them is executed
(`EqOutside.perform`). Words that write them may be executed: what they write was read elsewhere,
where the states agree. -/

namespace Chip8

/-- The parts of a state that a program sees only through words of their own. -/
inductive Component where
  | keypad
  | delay
  | sound
  | rng
  | stack
deriving DecidableEq

/-- The words that read a component: `EX9E`, `EXA1` and `FX0A`; `FX07`; none; `CXNN`; `00EE`. -/
def Component.ReadBy (w : Word) : Component → Prop
  | keypad =>
    Word.opcode w = 0xE ∧ (Word.nn w = 0x9E ∨ Word.nn w = 0xA1) ∨
      Word.opcode w = 0xF ∧ Word.nn w = 0x0A
  | delay => Word.opcode w = 0xF ∧ Word.nn w = 0x07
  | sound => False
  | rng => Word.opcode w = 0xC
  | stack => w = 0x00EE

instance (w : Word) : (c : Component) → Decidable (c.ReadBy w)
  | .keypad => inferInstanceAs (Decidable (_ ∨ _))
  | .delay => inferInstanceAs (Decidable (_ ∧ _))
  | .sound => inferInstanceAs (Decidable False)
  | .rng => inferInstanceAs (Decidable (_ = _))
  | .stack => inferInstanceAs (Decidable (_ = _))

/-- The component that an instruction reads, if there is one. -/
def Instruction.reads? : Instruction → Option Component
  | skipIfHeld _ | skipIfReleased _ | waitForKey _ => some .keypad
  | readDelay _ => some .delay
  | random _ _ => some .rng
  | ret => some .stack
  | _ => none

theorem Component.readBy_of_decode {w : Word} {c : Component}
    (h : (Instruction.decode w).reads? = some c) : c.ReadBy w := by
  obtain ⟨i, hencoded, hreads⟩ :=
    Instruction.exists_encodedBy_of_decode (P := fun i => i.reads? = some c) h nofun
  cases i with
  | skipIfHeld x =>
      cases hreads
      exact Or.inl ⟨hencoded.1, Or.inl hencoded.2.1⟩
  | skipIfReleased x =>
      cases hreads
      exact Or.inl ⟨hencoded.1, Or.inr hencoded.2.1⟩
  | waitForKey x =>
      cases hreads
      exact Or.inr ⟨hencoded.1, hencoded.2.1⟩
  | readDelay x =>
      cases hreads
      exact ⟨hencoded.1, hencoded.2.1⟩
  | random x mask =>
      cases hreads
      exact hencoded.1
  | ret =>
      cases hreads
      exact hencoded
  | _ => nomatch hreads

namespace State

/-- Equal states, but for some of the components. -/
structure EqOutside (D : Set Component) (s t : State) : Prop where
  others : { s with
    keypad := t.keypad, delay := t.delay, sound := t.sound, rng := t.rng, stack := t.stack } = t
  keypad : .keypad ∉ D → s.keypad = t.keypad
  delay : .delay ∉ D → s.delay = t.delay
  sound : .sound ∉ D → s.sound = t.sound
  rng : .rng ∉ D → s.rng = t.rng
  stack : .stack ∉ D → s.stack = t.stack

variable {D : Set Component} {s t : State}

/-! ## One instruction -/

namespace EqOutside

theorem config (h : EqOutside D s t) : s.config = t.config := by
  rw [← h.others]

theorem reg (h : EqOutside D s t) (r : Fin 16) : s.reg r = t.reg r := by
  rw [← h.others]
  rfl

theorem setReg (h : EqOutside D s t) (r : Fin 16) (byte : UInt8) :
    EqOutside D (s.setReg r byte) (t.setReg r byte) := by
  rw [← h.others]
  exact { h with others := rfl }

theorem skipIf (h : EqOutside D s t) (holds : Bool) :
    EqOutside D (s.skipIf holds) (t.skipIf holds) := by
  cases holds with
  | false => exact h
  | true =>
      rw [← h.others]
      exact { h with others := rfl }

theorem applyAlu (h : EqOutside D s t) (op : AluOp) (x y : Fin 16) :
    EqOutside D (s.applyAlu op x y) (t.applyAlu op x y) := by
  unfold State.applyAlu
  rw [← h.config, ← h.reg x, ← h.reg y]
  generalize op.evaluate s.config.modern (s.reg x) (s.reg y) = result
  rcases result with ⟨value, _ | flag⟩
  · exact h.setReg x value
  · exact (h.setReg x value).setReg flagRegister flag

theorem draw (h : EqOutside D s t) (x y height : Fin 16) :
    EqOutside D (s.draw x y height) (t.draw x y height) := by
  rw [← h.others]
  unfold State.draw
  by_cases hextended : s.config.extended = true
  · simp only [hextended, if_true]
    exact { h with others := rfl }
  · simp only [hextended]
    exact { h with others := rfl }

theorem loadBlock (h : EqOutside D s t) (x : Fin 16) :
    EqOutside D (s.loadBlock x) (t.loadBlock x) := by
  rw [← h.others]
  unfold State.loadBlock
  exact { h with others := rfl }

/-- A call pushes the same address on either stack. -/
theorem call (h : EqOutside D s t) (target : UInt16) :
    EqOutside D (s.perform (.call target)) (t.perform (.call target)) := by
  rw [← h.others]
  exact { h with
    others := rfl
    stack := fun hD => congrArg (fun stack => stack.push s.pc) (h.stack hD) }

/-! The instructions that read a component, where the states agree on it -/

theorem ret (h : EqOutside D s t) (hD : Component.stack ∉ D) :
    EqOutside D (s.perform .ret) (t.perform .ret) := by
  have hstack := h.stack hD
  rw [← h.others]
  simp only [perform, ← hstack]
  exact { h with others := rfl, stack := fun _ => rfl }

theorem drawRandom (h : EqOutside D s t) (hD : Component.rng ∉ D) (x : Fin 16) (mask : UInt8) :
    EqOutside D (s.drawRandom x mask) (t.drawRandom x mask) := by
  have hrng := h.rng hD
  rw [← h.others]
  simp only [State.drawRandom, ← hrng]
  exact { h with others := rfl, rng := fun _ => rfl }

theorem awaitKey (h : EqOutside D s t) (hD : Component.keypad ∉ D) (x : Fin 16) :
    EqOutside D (s.awaitKey x) (t.awaitKey x) := by
  unfold State.awaitKey
  rw [← h.keypad hD]
  cases s.keypad.lowest? with
  | some key => exact h.setReg x _
  | none =>
      rw [← h.others]
      exact { h with others := rfl, keypad := fun _ => rfl }

theorem isHeld_keyIn (h : EqOutside D s t) (hD : Component.keypad ∉ D) (x : Fin 16) :
    s.keypad.isHeld (s.keyIn x) = t.keypad.isHeld (t.keyIn x) := by
  rw [h.keypad hD, keyIn, keyIn, h.reg x]

/-- An instruction that reads no component in which the states differ. -/
theorem perform (h : EqOutside D s t) {i : Instruction} (hreads : ∀ c ∈ D, i.reads? ≠ some c) :
    EqOutside D (s.perform i) (t.perform i) := by
  cases i with
  | skipIfEqual x byte => rw [State.perform, State.perform, h.reg x]; exact h.skipIf _
  | skipIfNotEqual x byte => rw [State.perform, State.perform, h.reg x]; exact h.skipIf _
  | skipIfRegistersEqual x y =>
      rw [State.perform, State.perform, h.reg x, h.reg y]
      exact h.skipIf _
  | skipIfRegistersNotEqual x y =>
      rw [State.perform, State.perform, h.reg x, h.reg y]
      exact h.skipIf _
  | skipIfHeld x | skipIfReleased x =>
      have hD : Component.keypad ∉ D := fun hmem => hreads _ hmem rfl
      rw [State.perform, State.perform, h.isHeld_keyIn hD x]
      exact h.skipIf _
  | waitForKey x => exact h.awaitKey (fun hmem => hreads _ hmem rfl) x
  | readDelay x =>
      have hD : Component.delay ∉ D := fun hmem => hreads _ hmem rfl
      rw [State.perform, State.perform, h.delay hD]
      exact h.setReg x _
  | random x mask => exact h.drawRandom (fun hmem => hreads _ hmem rfl) x mask
  | ret => exact h.ret fun hmem => hreads _ hmem rfl
  | call target => exact h.call target
  | alu op x y => exact h.applyAlu op x y
  | drawSprite x y height => exact h.draw x y height
  | loadRegisters x => exact h.loadBlock x
  | setDelay x =>
      rw [← h.others]
      exact { h with others := rfl, delay := fun _ => rfl }
  | setSound x =>
      rw [← h.others]
      exact { h with others := rfl, sound := fun _ => rfl }
  | _ =>
      rw [← h.others]
      exact { h with others := rfl }

/-! ## Cycles and runs -/

theorem execute (h : EqOutside D s t) {i : Instruction}
    (hreads : s.config.executes i = true → ∀ c ∈ D, i.reads? ≠ some c) :
    EqOutside D (s.execute i) (t.execute i) := by
  unfold State.execute
  rw [← h.config]
  split
  · next hexecutes => exact h.perform (hreads hexecutes)
  · exact h

theorem fetch (h : EqOutside D s t) : EqOutside D s.fetch.1 t.fetch.1 := by
  rw [← h.others]
  exact { h with others := rfl }

theorem nextWord (h : EqOutside D s t) : s.nextWord = t.nextWord := by
  rw [← h.others]
  rfl

theorem nextCycle (h : EqOutside D s t) : t.nextCycle = s.nextCycle := by
  rw [← h.others]
  rfl

theorem afterCycle_of_reads (h : EqOutside D s t)
    (hreads : s.config.executes (Instruction.decode s.nextWord) = true →
      ∀ c ∈ D, (Instruction.decode s.nextWord).reads? ≠ some c) :
    EqOutside D s.afterCycle t.afterCycle := by
  have hword : t.fetch.2 = s.nextWord := h.nextWord.symm
  show EqOutside D (s.fetch.1.execute (Instruction.decode s.nextWord))
    (t.fetch.1.execute (Instruction.decode t.fetch.2))
  rw [hword]
  exact h.fetch.execute hreads

theorem afterCycle (h : EqOutside D s t)
    (hreads : s.nextCycle.outcome = .executed → ∀ c ∈ D, ¬ c.ReadBy s.nextCycle.word) :
    EqOutside D s.afterCycle t.afterCycle :=
  h.afterCycle_of_reads fun hexecutes c hc hread =>
    hreads (if_pos hexecutes) c hc (Component.readBy_of_decode hread)

end EqOutside

/-- Let two states agree on everything but some components, in any configuration. If the run of `n`
    cycles from one of them executes no word that reads one of these components, then the run from
    the other has the same trace, and the final states agree on everything but these components. -/
theorem EqOutside.trace_eq (h : EqOutside D s t) (n : Nat)
    (hreads : ∀ cycle ∈ (s.trace n).cycles, cycle.outcome = .executed →
      ∀ c ∈ D, ¬ c.ReadBy cycle.word) :
    (t.trace n).cycles = (s.trace n).cycles ∧
      EqOutside D (s.trace n).state (t.trace n).state :=
  trace_lockstep_eq (fun _ _ hst hcycle => ⟨hst.nextCycle, hst.afterCycle hcycle⟩) h n hreads

/-- A program that draws a random byte, sets both timers from it and calls a subroutine, on two
    machines with different keypads, timers and call stacks. -/
theorem EqOutside.trace_eq_random :
    let D : Set Component := fun c => c ∈ [Component.keypad, .delay, .sound, .stack]
    let s : State := { initial ⟨.extended, true⟩ .zero with
      memory := Memory.zero.writeBlock 0x200 [0xC1, 0xFF, 0xF1, 0x15, 0xF1, 0x18, 0x22, 0x02] }
    let t : State := { s with
      keypad := ⟨Vector.replicate 16 true⟩, delay := 7, sound := 9,
      stack := ⟨Vector.replicate 16 0x333, -5⟩ }
    EqOutside D s t ∧
      (∀ cycle ∈ (s.trace 6).cycles, cycle.outcome = .executed →
        ∀ c ∈ D, ¬ c.ReadBy cycle.word) ∧
      (t.trace 6).cycles = (s.trace 6).cycles ∧
      EqOutside D (s.trace 6).state (t.trace 6).state := by
  intro D s t
  have hmem : ∀ c : Component, c ≠ .rng → c ∈ [Component.keypad, .delay, .sound, .stack] := by
    intro c hc
    cases c with
    | rng => exact absurd rfl hc
    | _ => decide
  have h : EqOutside D s t :=
    { others := rfl
      keypad := fun hD => absurd (hmem .keypad nofun) hD
      delay := fun hD => absurd (hmem .delay nofun) hD
      sound := fun hD => absurd (hmem .sound nofun) hD
      rng := fun _ => rfl
      stack := fun hD => absurd (hmem .stack nofun) hD }
  have hreads : ∀ cycle ∈ (s.trace 6).cycles,
      ∀ c ∈ [Component.keypad, .delay, .sound, .stack], ¬ c.ReadBy cycle.word := by decide +kernel
  exact ⟨h, fun cycle hcycle _ => hreads cycle hcycle,
    h.trace_eq 6 fun cycle hcycle _ => hreads cycle hcycle⟩

end State

end Chip8
