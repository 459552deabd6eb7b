import Chip8.Proofs.Convention
import Chip8.Proofs.History
import Chip8.Proofs.Interleaving
import Chip8.Proofs.Noninterference
import Chip8.Proofs.WriteSet

set_option autoImplicit false

/-! # Core machines keep to themselves

The core profile has no word that looks at the keys, the timers or the random stream, and none that
writes to memory, to the call stack or to a timer: its seven kinds of instruction change registers,
index, program counter and screen only (`State.afterCycle_of_core`). So inputs and cycles of a core
machine do not meet. What the program does is the same without the inputs, the keypad is the same
without the program, and all else stays as it was loaded (`State.Intact`). Nor does the mode matter,
since no core instruction depends on it. -/

namespace Chip8

/-- The bytes that an operation loads, if it is one that loads a program and the program fits. -/
def HostOp.image? (files : Files) : HostOp → Option (List UInt8)
  | load program size? => (State.loadedPart program size?).toOption
  | loadRom path =>
    (files.read path).toOption.bind fun program => (State.loadedPart program none).toOption
  | _ => none

theorem HostOp.image?_load_of_fits (files : Files) {program : List UInt8}
    (h : program.length ≤ State.maxProgramSize) :
    (load program none).image? files = some program := by
  have hsize : ¬ ((program.length : Int) < 0 ∨ (program.length : Int) < program.length) := by omega
  have hfits : ¬ ((State.maxProgramSize : Int) < program.length) := by omega
  simp only [image?, State.loadedPart, Option.getD_none, if_neg hsize, if_neg hfits,
    Int.toNat_natCast, List.take_length]
  rfl

namespace State

variable {s t : State}

/-- A fresh state with a program. -/
def loaded (config : Config) (rng : RandomKey) (image : List UInt8) : State :=
  { initial config rng with memory := initialMemory.writeBlock programStart image }

theorem load_of_loadedPart {program : List UInt8} {size? : Option Int} {image : List UInt8}
    (h : (loadedPart program size?).toOption = some image) (s : State) :
    s.load program size? = .ok (loaded s.config s.rng image) := by
  rcases hpart : loadedPart program size? with cause | part
  · rw [hpart] at h
    nomatch h
  · rw [hpart] at h
    obtain rfl := Option.some.inj h
    rw [load, hpart]
    rfl

theorem respond_of_image {files : Files} {op : HostOp} {image : List UInt8}
    (h : op.image? files = some image) (s : State) :
    s.respond files op = (loaded s.config s.rng image, .ok .done) := by
  cases op with
  | load program size? => simp only [respond, load_of_loadedPart h]
  | loadRom path =>
      rcases hread : files.read path with cause | program
      · rw [HostOp.image?, hread] at h
        cases h
      · rw [HostOp.image?, hread] at h
        simp only [respond, hread, load_of_loadedPart h]
  | _ => cases h

/-! ## Core instructions -/

theorem perform_of_core (s : State) {i : Instruction} (h : i.operation.isCore = true) :
    s.perform i =
      { s with
        registers := (s.perform i).registers
        index := (s.perform i).index
        pc := (s.perform i).pc
        screen := (s.perform i).screen } := by
  cases i with
  | skipIfEqual => rw [perform, skipIf_eq]
  | drawSprite => rw [perform, draw_eq]
  | clearScreen | jump | loadImmediate | addImmediate | loadIndex => rfl
  | _ => cases h

theorem execute_of_core (h : s.config.extended = false) (i : Instruction) :
    s.execute i =
      { s with
        registers := (s.execute i).registers
        index := (s.execute i).index
        pc := (s.execute i).pc
        screen := (s.execute i).screen } := by
  unfold execute
  split
  · next hexecutes => exact s.perform_of_core (isCore_of_executes h hexecutes)
  · rfl

/-- A cycle of a core machine touches nothing but registers, index, program counter and screen. -/
theorem afterCycle_of_core (h : s.config.extended = false) :
    s.afterCycle =
      { s with
        registers := s.afterCycle.registers
        index := s.afterCycle.index
        pc := s.afterCycle.pc
        screen := s.afterCycle.screen } :=
  execute_of_core (s := s.fetch.1) h _

/-! ## What stays as it was loaded -/

/-- A core machine on which all is as it was loaded, but for registers, index, program counter,
    screen and keypad. -/
structure Intact (image : List UInt8) (key : RandomKey) (s : State) : Prop where
  core : s.config.extended = false
  memory : s.memory = initialMemory.writeBlock programStart image
  stack : s.stack = .empty
  delay : s.delay = 0
  sound : s.sound = 0
  rng : s.rng = key

namespace Intact

variable {image : List UInt8} {key : RandomKey}

theorem loaded {config : Config} (h : config.extended = false) (key : RandomKey)
    (image : List UInt8) : Intact image key (loaded config key image) :=
  ⟨h, rfl, rfl, rfl, rfl, rfl⟩

theorem afterCycle (h : Intact image key s) : Intact image key s.afterCycle := by
  rw [afterCycle_of_core h.core]
  exact ⟨h.core, h.memory, h.stack, h.delay, h.sound, h.rng⟩

/-- The timers of a core machine have nothing to count down. -/
theorem tick_eq (h : Intact image key s) : s.tick = s := by
  obtain ⟨config, rng, memory, registers, index, pc, screen, stack, delay, sound, keypad⟩ := s
  obtain rfl : delay = 0 := h.delay
  obtain rfl : sound = 0 := h.sound
  rfl

theorem keyed (h : Intact image key s) (keypad : Keypad) :
    Intact image key { s with keypad := keypad } :=
  ⟨h.core, h.memory, h.stack, h.delay, h.sound, h.rng⟩

/-- A machine stays intact until the next fresh start, also in the midst of a batch. -/
theorem lasting (image : List UInt8) (key : RandomKey) :
    Lasting fun past s => (∀ h ∈ past, h.isFresh = false) →
      Intact image key s ∧ ∀ before, .ran before ∈ past → Intact image key before where
  fresh := fun past s memory _ hfresh => by nomatch hfresh _ List.mem_append_cons_self
  ran := by
    intro past s h hfresh
    obtain ⟨hs, hpast⟩ := h fun e he => hfresh e (List.mem_append_left _ he)
    refine ⟨hs.afterCycle, fun before hbefore => ?_⟩
    rcases List.mem_append.1 hbefore with hearlier | hlast
    · exact hpast before hearlier
    · rw [Happening.ran.inj (List.mem_singleton.1 hlast)]
      exact hs
  ticked := by
    intro past s h hfresh
    obtain ⟨hs, hpast⟩ := h fun e he => hfresh e (List.mem_append_left _ he)
    rw [hs.tick_eq]
    refine ⟨hs, fun before hbefore => ?_⟩
    rcases List.mem_append.1 hbefore with hearlier | hlast
    · exact hpast before hearlier
    · nomatch List.mem_singleton.1 hlast
  keyed := by
    intro past s keypad h hfresh
    obtain ⟨hs, hpast⟩ := h hfresh
    exact ⟨hs.keyed keypad, hpast⟩

end Intact

/-! ## With and without inputs -/

theorem reads?_of_isCore {i : Instruction} (h : i.operation.isCore = true) : i.reads? = none := by
  cases i with
  | clearScreen | jump | skipIfEqual | loadImmediate | addImmediate | loadIndex | drawSprite => rfl
  | _ => nomatch h

theorem EqOutside.afterCycle_of_core {D : Set Component} (h : EqOutside D s t)
    (hcore : s.config.extended = false) : EqOutside D s.afterCycle t.afterCycle := by
  refine h.afterCycle_of_reads fun hexecutes c _ hreads => ?_
  rw [reads?_of_isCore (isCore_of_executes hcore hexecutes)] at hreads
  nomatch hreads

/-- One core machine as it was loaded, and another in the same state but for the keypad. -/
structure Shadows (image : List UInt8) (key : RandomKey) (s t : State) : Prop where
  intact : Intact image key s
  equal : EqOutside {.keypad} s t

namespace Shadows

variable {image : List UInt8} {key : RandomKey}

theorem refl (h : Intact image key s) : Shadows image key s s where
  intact := h
  equal := ⟨rfl, fun _ => rfl, fun _ => rfl, fun _ => rfl, fun _ => rfl, fun _ => rfl⟩

theorem cycle (h : Shadows image key s t) :
    t.nextCycle = s.nextCycle ∧ Shadows image key s.afterCycle t.afterCycle :=
  ⟨h.equal.nextCycle, h.intact.afterCycle, h.equal.afterCycle_of_core h.intact.core⟩

theorem keyed (h : Shadows image key s t) (keypad : Keypad) :
    Shadows image key { s with keypad := keypad } t where
  intact := h.intact.keyed keypad
  equal := { h.equal with others := h.equal.others, keypad := fun hD => absurd rfl hD }

/-- An input may be left out. -/
theorem input (h : Shadows image key s t) (files : Files) {op : HostOp}
    (hfresh : op.startsAfresh = false) (hrun : op.isRun = false) :
    Shadows image key (s.respond files op).1 t := by
  cases op with
  | tick =>
      rw [respond, h.intact.tick_eq]
      exact h
  | setKey k pressed =>
      obtain ⟨keypad, hstate⟩ := s.respond_setKey files k pressed
      rw [hstate]
      exact h.keyed keypad
  | reset | load | loadRom => cases hfresh
  | cycle | cycles => cases hrun

end Shadows

/-! ## The keypad -/

theorem keypad_afterCycle (s : State) : s.afterCycle.keypad = s.keypad :=
  (s.fetch.1.executeWord_covered s.nextWord).keypad

theorem keypad_after (s : State) (n : Nat) : (s.after n).keypad = s.keypad := by
  induction n with
  | zero => rfl
  | succ n ih => rw [after_succ_last, keypad_afterCycle, ih]

theorem keypad_respond_of_not_isKey (files : Files) {op : HostOp}
    (hfresh : op.startsAfresh = false) (hkey : op.isKey = false) :
    (s.respond files op).1.keypad = s.keypad := by
  cases op with
  | tick => rfl
  | cycle => exact s.keypad_afterCycle
  | cycles count =>
      by_cases hnegative : count < 0
      · simp only [respond, if_pos hnegative]
      · simp only [respond, if_neg hnegative]
        exact s.keypad_after count.toNat
  | reset | load | loadRom => cases hfresh
  | setKey => cases hkey

/-- What a key event does to the keypad depends on nothing else. -/
theorem respond_of_isKey (h : s.keypad = t.keypad) (files : Files) {op : HostOp}
    (hkey : op.isKey = true) :
    (t.respond files op).2 = (s.respond files op).2 ∧
      (s.respond files op).1.keypad = (t.respond files op).1.keypad := by
  cases op with
  | setKey key pressed =>
      simp only [respond, setKey]
      cases Keypad.key? key with
      | none => exact ⟨rfl, h⟩
      | some k => exact ⟨rfl, congrArg (·.set k pressed) h⟩
  | _ => cases hkey

/-! ## The mode -/

theorem not_dependsOnMode_of_isCore {i : Instruction} (h : i.operation.isCore = true) :
    ¬ i.DependsOnMode := by
  cases i with
  | clearScreen | jump | skipIfEqual | loadImmediate | addImmediate | loadIndex | drawSprite =>
      exact id
  | _ => nomatch h

variable {c : Config}

theorem cycle_under_of_core (hs : s.config.extended = false) (hc : c.extended = false) :
    (s.under c).nextCycle = s.nextCycle ∧ (s.under c).afterCycle = s.afterCycle.under c := by
  have hprofile : c.extended = s.config.extended := hc.trans hs.symm
  refine ⟨nextCycle_under hprofile, ?_⟩
  by_cases hexecuted : s.nextCycle.outcome = .executed
  · have hexecutes := s.outcome_eq_executed_iff.1 hexecuted
    have hmode := not_dependsOnMode_of_isCore (isCore_of_executes hs hexecutes)
    exact execute_under (s := s.fetch.1) hprofile hmode
  · have hskipped : (s.under c).nextCycle.outcome ≠ .executed := by
      rwa [nextCycle_under hprofile]
    rw [afterCycle_of_not_executed hexecuted, afterCycle_of_not_executed hskipped]
    rfl

/-- A core machine, and the same machine under another configuration. -/
def Switches (c : Config) (s t : State) : Prop := s.config.extended = false ∧ t = s.under c

theorem Switches.cycle (hc : c.extended = false) (h : Switches c s t) :
    t.nextCycle = s.nextCycle ∧ Switches c s.afterCycle t.afterCycle := by
  obtain ⟨hs, rfl⟩ := h
  obtain ⟨hcycle, hnext⟩ := cycle_under_of_core hs hc
  exact ⟨hcycle, by rw [config_afterCycle, hs], hnext⟩

theorem load_under (s : State) (c : Config) (program : List UInt8) (size? : Option Int) :
    (s.under c).load program size? = (s.load program size?).map (·.under c) := by
  unfold load
  cases loadedPart program size? <;> rfl

theorem setKey_under (s : State) (c : Config) (key : Int) (pressed : Bool) :
    (s.under c).setKey key pressed = (s.setKey key pressed).map (·.under c) := by
  unfold setKey
  cases Keypad.key? key <;> rfl

/-- What is not a run of cycles does the same under any configuration. -/
theorem respond_under_of_not_isRun (s : State) (c : Config) (files : Files) {op : HostOp}
    (h : op.isRun = false) :
    (s.under c).respond files op = ((s.respond files op).1.under c, (s.respond files op).2) := by
  cases op with
  | reset | tick => rfl
  | load program size? =>
      simp only [respond, load_under]
      cases s.load program size? <;> rfl
  | loadRom path =>
      simp only [respond, load_under]
      rcases files.read path with cause | program
      · rfl
      · simp only
        cases s.load program none <;> rfl
  | setKey key pressed =>
      simp only [respond, setKey_under]
      cases s.setKey key pressed <;> rfl
  | cycle | cycles => cases h

theorem config_respond (s : State) (files : Files) (op : HostOp) :
    (s.respond files op).1.config = s.config := by
  have hlasting : Lasting fun _ t => t.config = s.config :=
    { fresh := fun _ _ _ h => h
      ran := fun _ t h => t.config_afterCycle.trans h
      ticked := fun _ _ h => h
      keyed := fun _ _ _ h => h }
  exact hlasting.respond_now files rfl op

theorem Switches.respond (hc : c.extended = false) (h : Switches c s t) (files : Files)
    (op : HostOp) :
    (t.respond files op).2 = (s.respond files op).2 ∧
      Switches c (s.respond files op).1 (t.respond files op).1 := by
  by_cases hrun : op.isRun = true
  · exact respond_lockstep_of_isRun (fun s t hst => hst.cycle hc) files h hrun
  · rw [Bool.not_eq_true] at hrun
    obtain ⟨hs, rfl⟩ := h
    rw [respond_under_of_not_isRun s c files hrun]
    exact ⟨rfl, by rw [config_respond, hs], rfl⟩

end State

/-! ## Whole lives -/

theorem HostOp.isFresh_of_mem_happenings {op : HostOp} (hfresh : op.startsAfresh = false)
    {s : State} {reply : Except HostError Reply} {h : Happening}
    (hmem : h ∈ op.happenings s reply) : h.isFresh = false := by
  rcases reply with cause | answer
  · nomatch hmem
  cases op with
  | reset | load | loadRom => nomatch hfresh
  | cycle | tick =>
      rw [List.mem_singleton.1 hmem]
      rfl
  | setKey => nomatch hmem
  | cycles count =>
      obtain ⟨i, -, rfl⟩ := List.mem_map.1 hmem
      rfl

namespace Machine

variable {files : Files}

theorem isFresh_of_mem_life {ops : List HostOp} (hops : ∀ op ∈ ops, op.startsAfresh = false)
    {m : Machine} {h : Happening} (hmem : h ∈ m.life files ops) : h.isFresh = false := by
  induction ops generalizing m with
  | nil => nomatch hmem
  | cons op ops ih =>
      rcases List.mem_append.1 hmem with hhere | hlater
      · exact HostOp.isFresh_of_mem_happenings (hops op (List.mem_cons_self ..)) hhere
      · exact ih (fun op hop => hops op (List.mem_cons_of_mem _ hop)) hlater

/-! With and without some of the operations, and in the other mode -/

variable (files) {m : Machine} {image : List UInt8} {key : RandomKey} {ops : List HostOp}

theorem intact_applyAll (h : State.Intact image key m.state)
    (hops : ∀ op ∈ ops, op.startsAfresh = false) {s : State}
    (hs : s = (m.applyAll files ops).1.state ∨ .ran s ∈ m.life files ops) :
    State.Intact image key s := by
  obtain ⟨hend, hthroughout⟩ := (State.Intact.lasting image key).applyAll_now files
    (fun _ => ⟨h, nofun⟩) ops fun e hmem => isFresh_of_mem_life hops hmem
  rcases hs with rfl | hran
  · exact hend
  · exact hthroughout s hran

theorem applyAll_isRun (h : State.Intact image key m.state)
    (hops : ∀ op ∈ ops, op.startsAfresh = false) :
    answersTo HostOp.isRun ops (m.applyAll files ops).2 =
        (m.applyAll files (ops.filter HostOp.isRun)).2 ∧
      State.Shadows image key (m.applyAll files ops).1.state
        (m.applyAll files (ops.filter HostOp.isRun)).1.state := by
  refine applyAll_filter files (fun op _ hrun s t h => ?_) (fun op hop hrun s t h => ?_)
    (State.Shadows.refl h)
  · exact State.respond_lockstep_of_isRun (fun s t h => h.cycle) files h hrun
  · exact h.input files (hops op hop) hrun

theorem keypad_applyAll_isKey (hops : ∀ op ∈ ops, op.startsAfresh = false) :
    (m.applyAll files ops).1.state.keypad =
      (m.applyAll files (ops.filter HostOp.isKey)).1.state.keypad := by
  have kept : ∀ op ∈ ops, op.isKey = true → ∀ s t : State, s.keypad = t.keypad →
      (t.respond files op).2 = (s.respond files op).2 ∧
        (s.respond files op).1.keypad = (t.respond files op).1.keypad :=
    fun op _ hkey s t h => State.respond_of_isKey h files hkey
  have dropped : ∀ op ∈ ops, op.isKey = false → ∀ s t : State, s.keypad = t.keypad →
      (s.respond files op).1.keypad = t.keypad :=
    fun op hop hkey s t h => (State.keypad_respond_of_not_isKey files (hops op hop) hkey).trans h
  exact (applyAll_filter files kept dropped rfl).2

theorem applyAll_under {m' : Machine} {c : Config} (hm : m.state.config.extended = false)
    (hc : c.extended = false) (hm' : m'.state = m.state.under c) (ops : List HostOp) :
    (m'.applyAll files ops).2 = (m.applyAll files ops).2 ∧
      (m'.applyAll files ops).1.state = (m.applyAll files ops).1.state.under c := by
  have step : ∀ op ∈ ops, ∀ s t : State, State.Switches c s t →
      (t.respond files op).2 = (s.respond files op).2 ∧
        State.Switches c (s.respond files op).1 (t.respond files op).1 :=
    fun op _ s t h => h.respond hc files op
  obtain ⟨hreplies, -, hstate⟩ := applyAll_lockstep files step ⟨hm, hm'⟩
  exact ⟨hreplies, hstate⟩

/-- A core machine in either mode, with any observers, that has loaded a program or a file, and any
    operations after that but fresh starts, failed ones among them. Without the inputs, the machine
    comes to the same registers, index, program counter and screen, and its cycles and batches
    answer the same; without all but the key events, it comes to the same keypad. At every cycle and
    at the end, memory is the font and the program as it was loaded, the stack is empty, both timers
    are at zero and the random key is the one from before. And in the other mode, all states and
    answers are the same, but for the mode itself. -/
theorem core_inputs_and_cycles_independent (files : Files) {m : Machine} {modern : Bool}
    (hconfig : m.state.config = ⟨.core, modern⟩) {start : HostOp} {image : List UInt8}
    (hstart : start.image? files = some image) {ops : List HostOp}
    (hops : ∀ op ∈ ops, op.startsAfresh = false) :
    let loaded := (m.apply files start).1
    let whole := loaded.applyAll files ops
    let running := loaded.applyAll files (ops.filter HostOp.isRun)
    let pressing := loaded.applyAll files (ops.filter HostOp.isKey)
    (m.apply files start).2 = .ok .done ∧
      whole.1.state.registers = running.1.state.registers ∧
      whole.1.state.index = running.1.state.index ∧
      whole.1.state.pc = running.1.state.pc ∧
      whole.1.state.screen = running.1.state.screen ∧
      answersTo HostOp.isRun ops whole.2 = running.2 ∧
      whole.1.state.keypad = pressing.1.state.keypad ∧
      (∀ s : State, s = whole.1.state ∨ .ran s ∈ loaded.life files ops →
        s.memory = State.initialMemory.writeBlock State.programStart image ∧
          s.stack = .empty ∧ s.delay = 0 ∧ s.sound = 0 ∧ s.rng = m.state.rng) ∧
      ∀ modern' : Bool,
        let switched := m.withState (m.state.under ⟨.core, modern'⟩)
        let other := (switched.apply files start).1.applyAll files ops
        other.2 = whole.2 ∧ other.1.state = whole.1.state.under ⟨.core, modern'⟩ := by
  intro loaded whole running pressing
  have hcore : m.state.config.extended = false := by
    rw [hconfig]
    rfl
  have hstarted := follows_apply files m start
  have hintact : State.Intact image m.state.rng loaded.state := by
    rw [hstarted.state, State.respond_of_image hstart]
    exact .loaded hcore _ _
  obtain ⟨hanswers, -, hequal⟩ := applyAll_isRun files hintact hops
  refine ⟨by rw [hstarted.reply, State.respond_of_image hstart], ?_, ?_, ?_, ?_, hanswers,
    keypad_applyAll_isKey files hops, fun s hs => ?_, fun modern' => ?_⟩
  · rw [← hequal.others]
  · rw [← hequal.others]
  · rw [← hequal.others]
  · rw [← hequal.others]
  · have hs := intact_applyAll files hintact hops hs
    exact ⟨hs.memory, hs.stack, hs.delay, hs.sound, hs.rng⟩
  · -- the fresh start is an operation like the others, and answers the same in both modes
    obtain ⟨hreplies, hstate⟩ := applyAll_under files hcore rfl
      (m.state_withState (m.state.under ⟨.core, modern'⟩)) (start :: ops)
    exact ⟨(List.cons.inj hreplies).2, hstate⟩

/-- A loop that counts in `V0`, between words that the core profile does not have: one that would
    set the delay timer and one that would draw a random byte. Keys go down and up between the
    cycles, and some operations fail. -/
theorem core_inputs_and_cycles_independent_counting :
    let files : Files := ⟨fun _ => .error .notFound⟩
    let m := make ⟨.core, false⟩ .zero (some []) (.start {} .info .still)
    let program : List UInt8 := [0x70, 0x01, 0xF0, 0x15, 0xC0, 0xFF, 0x12, 0x00]
    let ops : List HostOp :=
      [.setKey 3 true, .cycles 3, .tick, .setKey 16 true, .cycle, .cycles (-1), .setKey 7 true,
        .cycle, .setKey 3 false]
    let loaded := (m.apply files (.load program none)).1
    let whole := loaded.applyAll files ops
    let running := loaded.applyAll files (ops.filter HostOp.isRun)
    let switched := m.withState (m.state.under ⟨.core, true⟩)
    whole.1.state.registers = running.1.state.registers ∧ running.1.state.reg 0 = 2 ∧
      whole.1.state.keypad.isHeld 7 = true ∧ whole.1.state.delay = 0 ∧
      whole.1.state.rng = .zero ∧
      ((switched.apply files (.load program none)).1.applyAll files ops).2 = whole.2 := by
  intro files m program ops loaded whole running switched
  have hfits : program.length ≤ State.maxProgramSize := by decide
  have hops : ∀ op ∈ ops, op.startsAfresh = false := by decide
  obtain ⟨-, hregisters, -, -, -, -, hkeypad, hintact, hmode⟩ :=
    core_inputs_and_cycles_independent files (m := m) rfl (HostOp.image?_load_of_fits files hfits)
      hops
  obtain ⟨-, -, hdelay, -, hrng⟩ := hintact whole.1.state (.inl rfl)
  refine ⟨hregisters, by decide +kernel, ?_, hdelay, hrng, (hmode true).1⟩
  rw [hkeypad]
  decide +kernel

end Machine

end Chip8
