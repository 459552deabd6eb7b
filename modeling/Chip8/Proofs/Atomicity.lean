import Chip8.Proofs.Life

set_option autoImplicit false

/-! # Failed operations leave no trace

An operation has several effects: the state is replaced, the observers are told, lines are logged.
Were it to fail between two of them, the first would remain. So operations are told here once more,
effect by effect, and an exception keeps what was done before it (`HostOp.effects`). That this comes
to the same as an operation that either succeeds or does nothing (`Machine.effects_on`) says that
every check comes before the first effect. Whether an operation fails depends on what it asks for
and on the files, never on the machine (`Machine.apply_eq_error_iff`), so failed operations may as
well be left out. -/

namespace Chip8

/-! ## When operations fail -/

/-- Whether what an operation asks for cannot be had: a size that is negative, larger than the
    program or larger than the memory has room for, a file that cannot be read or is too large, a
    key that there is not, or a negative number of cycles. -/
def HostOp.fails (files : Files) : HostOp → Bool
  | load program size? =>
    let size := size?.getD program.length
    size < 0 ∨ program.length < size ∨ 3584 < size
  | loadRom path =>
    match files.read path with
    | .ok program => 3584 < program.length
    | .error _ => true
  | setKey key _ => key < 0 ∨ 15 < key
  | cycles count => count < 0
  | reset | cycle | tick => false

namespace State

variable (s : State)

theorem load_eq_error_iff (program : List UInt8) (size? : Option Int) :
    (∃ cause, s.load program size? = .error cause) ↔
      size?.getD program.length < 0 ∨ program.length < size?.getD program.length ∨
        3584 < size?.getD program.length := by
  have hmax : (maxProgramSize : Int) = 3584 := rfl
  simp only [load, loadedPart, hmax]
  generalize size?.getD program.length = size
  split
  · next hinvalid => exact ⟨fun _ => by omega, fun _ => ⟨_, rfl⟩⟩
  · split
    · next hlarge => exact ⟨fun _ => .inr (.inr hlarge), fun _ => ⟨_, rfl⟩⟩
    · exact ⟨nofun, fun h => by omega⟩

theorem setKey_eq_error_iff (key : Int) (pressed : Bool) :
    (∃ cause, s.setKey key pressed = .error cause) ↔ key < 0 ∨ 15 < key := by
  unfold setKey Keypad.key?
  by_cases hkey : 0 ≤ key ∧ key < 16
  · rw [if_pos hkey]
    exact ⟨nofun, fun h => by omega⟩
  · rw [if_neg hkey]
    exact ⟨fun _ => by omega, fun _ => ⟨_, rfl⟩⟩

theorem respond_eq_error_iff (files : Files) (op : HostOp) :
    (∃ cause, (s.respond files op).2 = .error cause) ↔ op.fails files = true := by
  cases op with
  | reset | cycle | tick => simp [respond, HostOp.fails]
  | load program size? =>
      rw [HostOp.fails, decide_eq_true_iff, ← s.load_eq_error_iff, respond]
      rcases s.load program size? with cause | next
      · simp
      · simp
  | loadRom path =>
      rcases hread : files.read path with cause | program
      · simp [respond, HostOp.fails, hread]
      · have hsize := s.load_eq_error_iff program none
        rw [Option.getD_none] at hsize
        have hlarge : (∃ cause, s.load program none = .error cause) ↔ 3584 < program.length := by
          rw [hsize]
          omega
        simp only [respond, HostOp.fails, hread, decide_eq_true_iff, ← hlarge]
        rcases s.load program none with cause | next
        · simp
        · simp
  | setKey key pressed =>
      rw [HostOp.fails, decide_eq_true_iff, ← s.setKey_eq_error_iff key pressed, respond]
      rcases s.setKey key pressed with cause | next
      · simp
      · simp
  | cycles count =>
      rw [HostOp.fails, decide_eq_true_iff, respond]
      by_cases hnegative : count < 0
      · simp [hnegative]
      · simp [hnegative]

end State

/-! ## Operations, effect by effect -/

/-- Effects on a machine, one after the other. An exception ends them, and those before it
    remain. -/
abbrev Effects := ExceptT HostError (StateM Machine)

namespace Effects

/-- What effects come to on a machine: an answer or an exception, and the machine afterwards. -/
def on {α : Type} (effects : Effects α) (m : Machine) : Except HostError α × Machine :=
  effects.run.run m

/-- Replace the state by what a change makes of it. If the change fails, that is an exception. -/
def changeState (change : State → Except HostError State) : Effects Unit := do
  let next ← change (← get).state
  modify (·.withState next)

/-- Tell the observers. -/
def notify (notice : Notice) : Effects Unit := modify (·.notify notice)

/-- Log a line. -/
def log (level : Level) (message : String) : Effects Unit := modify (·.logged level message)

/-- Load a program: first the state, then the observers, then the log. -/
def load (program : List UInt8) (size? : Option Int) : Effects Unit := do
  changeState fun s => (s.load program size?).mapError HostError.program
  notify .reset
  log .debug ("Loaded program (" ++ toString (size?.getD program.length) ++ " bytes)")

/-- Run cycles, put in the state that they lead to, and tell the observers. -/
def advance (n : Nat) : Effects Run := do
  let run := (← get).state.trace n
  changeState fun _ => .ok run.state
  modify (·.report run)
  return run

end Effects

/-- The effects of an operation, and its answer. -/
def HostOp.effects (files : Files) : HostOp → Effects Reply
  | reset => do
    Effects.changeState fun s => .ok s.reset
    Effects.notify .reset
    Effects.log .debug "Machine reset"
    return .done
  | load program size? => do
    Effects.load program size?
    return .done
  | loadRom path => do
    let program ← (files.read path).mapError (HostError.file path)
    Effects.load program none
    Effects.log .info (Machine.loadedLine path program)
    return .done
  | cycle => do
    let run ← Effects.advance 1
    return .outcome (run.cycles.head?.elim .executed (·.outcome))
  | cycles count => do
    if count < 0 then throw (.negativeCycles count)
    if count = 0 then return .summary ⟨0, 0⟩
    let run ← Effects.advance count.toNat
    let unsupported := run.cycles.countP (·.outcome = .unsupported)
    return .summary ⟨count.toNat - unsupported, unsupported⟩
  | setKey key pressed => do
    Effects.changeState fun s => (s.setKey key pressed).mapError HostError.unknownKey
    return .done
  | tick => do
    Effects.changeState fun s => .ok s.tick
    return .done

namespace Effects

variable {α β : Type}

theorem on_bind (effects : Effects α) (next : α → Effects β) (m : Machine) :
    (effects >>= next).on m =
      match effects.on m with
      | (.ok a, m') => (next a).on m'
      | (.error cause, m') => (.error cause, m') := by
  show (ExceptT.bindCont next (effects.on m).1).run (effects.on m).2 = _
  rcases effects.on m with ⟨cause | a, m'⟩ <;> rfl

theorem on_changeState (change : State → Except HostError State) (m : Machine) :
    (changeState change).on m =
      match change m.state with
      | .ok next => (.ok (), m.withState next)
      | .error cause => (.error cause, m) := by
  show on ((change m.state : Effects State) >>= fun next => modify (·.withState next)) m = _
  rcases change m.state with cause | next <;> rfl

theorem on_load (m : Machine) (program : List UInt8) (size? : Option Int) :
    (load program size?).on m =
      match m.load program size? with
      | .ok next => (.ok (), next)
      | .error cause => (.error (.program cause), m) := by
  rw [load, on_bind, on_changeState]
  rcases hload : m.state.load program size? with cause | next
  · rw [Machine.load_error hload]
    rfl
  · rw [Machine.load, hload]
    rfl

end Effects

namespace Machine

variable (files : Files)

/-- Effect by effect, an operation comes to what it does as a whole. -/
theorem effects_on (m : Machine) (op : HostOp) :
    (op.effects files).on m = ((m.apply files op).2, (m.apply files op).1) := by
  cases op with
  | reset | tick | cycle => rfl
  | cycles count =>
      by_cases hnegative : count < 0
      · simp only [HostOp.effects, apply, perform, cycles, if_pos hnegative]
        rfl
      by_cases hzero : count = 0
      · simp only [HostOp.effects, apply, perform, cycles, if_neg hnegative, if_pos hzero]
        rfl
      · simp only [HostOp.effects, apply, perform, cycles, if_neg hnegative, if_neg hzero]
        rfl
  | setKey key pressed =>
      rw [HostOp.effects, Effects.on_bind, Effects.on_changeState]
      simp only [apply, perform, setKey]
      rcases m.state.setKey key pressed with cause | next <;> rfl
  | load program size? =>
      rw [HostOp.effects, Effects.on_bind, Effects.on_load]
      simp only [apply, perform]
      rcases m.load program size? with cause | next <;> rfl
  | loadRom path =>
      rcases hread : files.read path with cause | program
      · simp only [HostOp.effects, apply, perform, loadRom, hread]
        rfl
      · have hrom := loadRom_of_read files (m := m) hread
        simp only [HostOp.effects, apply, perform, hrom, hread]
        show Effects.on (Effects.load program none >>= _) m = _
        rw [Effects.on_bind, Effects.on_load]
        rcases m.load program none with cause | next <;> rfl

/-! ## Leaving failed operations out -/

theorem apply_eq_error_iff (m : Machine) (op : HostOp) :
    (∃ cause, (m.apply files op).2 = .error cause) ↔ op.fails files = true := by
  rw [(follows_apply files m op).reply]
  exact m.state.respond_eq_error_iff files op

theorem apply_of_fails (m : Machine) {op : HostOp} (h : op.fails files = true) :
    (m.apply files op).1 = m := by
  obtain ⟨cause, hcause⟩ := (apply_eq_error_iff files m op).2 h
  unfold apply at hcause ⊢
  rcases hperform : m.perform files op with e | ⟨next, reply⟩
  · rfl
  · rw [hperform] at hcause
    nomatch hcause

/-- An operation in the life of a machine: the machine before it, the answer and the machine after
    it, with its state, its observers and its log. -/
structure Step where
  before : Machine
  op : HostOp
  reply : Except HostError Reply
  after : Machine

/-- Operations, one after the other, each on the machine that the ones before it lead to. -/
def journal (m : Machine) : List HostOp → List Step
  | [] => []
  | op :: ops =>
    let (next, reply) := m.apply files op
    ⟨m, op, reply, next⟩ :: next.journal ops

theorem journal_cons (m : Machine) (op : HostOp) (ops : List HostOp) :
    m.journal files (op :: ops) =
      ⟨m, op, (m.apply files op).2, (m.apply files op).1⟩ ::
        (m.apply files op).1.journal files ops := rfl

theorem op_journal (m : Machine) (ops : List HostOp) :
    (m.journal files ops).map (·.op) = ops := by
  induction ops generalizing m with
  | nil => rfl
  | cons op ops ih => rw [journal_cons, List.map_cons, ih]

theorem replies_applyAll (m : Machine) (ops : List HostOp) :
    (m.applyAll files ops).2 = (m.journal files ops).map (·.reply) := by
  induction ops generalizing m with
  | nil => rfl
  | cons op ops ih => rw [applyAll_cons, ih, journal_cons, List.map_cons]

theorem apply_of_mem_journal {m : Machine} {ops : List HostOp} {step : Step}
    (h : step ∈ m.journal files ops) :
    step.before.apply files step.op = (step.after, step.reply) := by
  induction ops generalizing m with
  | nil => nomatch h
  | cons op ops ih =>
      rw [journal_cons] at h
      rcases List.mem_cons.1 h with rfl | hlater
      · rfl
      · exact ih hlater

/-- Without the failed operations, all others go as before: on the same machines, with the same
    answers. -/
theorem journal_filter (m : Machine) (ops : List HostOp) :
    m.journal files (ops.filter fun op => !op.fails files) =
      (m.journal files ops).filter fun step => !step.op.fails files := by
  induction ops generalizing m with
  | nil => rfl
  | cons op ops ih =>
      rw [journal_cons]
      by_cases hfails : op.fails files = true
      · have hsame := apply_of_fails files m hfails
        rw [List.filter_cons_of_neg (by simp [hfails]), List.filter_cons_of_neg (by simp [hfails]),
          hsame, ih]
      · rw [List.filter_cons_of_pos (by simp [hfails]), List.filter_cons_of_pos (by simp [hfails]),
          journal_cons, ih]

theorem machine_applyAll_filter (m : Machine) (ops : List HostOp) :
    (m.applyAll files (ops.filter fun op => !op.fails files)).1 = (m.applyAll files ops).1 := by
  induction ops generalizing m with
  | nil => rfl
  | cons op ops ih =>
      rw [applyAll_cons]
      by_cases hfails : op.fails files = true
      · have hsame := apply_of_fails files m hfails
        rw [List.filter_cons_of_neg (by simp [hfails]), hsame, ih]
      · rw [List.filter_cons_of_pos (by simp [hfails]), applyAll_cons, ih]

/-- Whatever operations a machine goes through: each one, carried out effect by effect, gives the
    answer and the machine that are on the journal; it fails exactly if what it asks for cannot be
    had; and if it fails, the machine is what it was before, with its state, its observers and its
    log. So when all failed operations are left out, the others are answered as before, each starts
    from and leads to the same machine as before, and the last machine is the same. -/
theorem failures_leave_no_trace (files : Files) (m : Machine) (ops : List HostOp) :
    let journal := m.journal files ops
    let remaining := ops.filter fun op => !op.fails files
    (∀ step ∈ journal,
        (step.op.effects files).on step.before = (step.reply, step.after) ∧
          ((∃ cause, step.reply = .error cause) ↔ step.op.fails files = true) ∧
          (step.op.fails files = true → step.after = step.before)) ∧
      journal.map (·.op) = ops ∧ journal.map (·.reply) = (m.applyAll files ops).2 ∧
      m.journal files remaining = journal.filter (fun step => !step.op.fails files) ∧
      (m.applyAll files remaining).1 = (m.applyAll files ops).1 := by
  intro journal remaining
  refine ⟨fun step hstep => ?_, op_journal files m ops, (replies_applyAll files m ops).symm,
    journal_filter files m ops, machine_applyAll_filter files m ops⟩
  have happly := apply_of_mem_journal files hstep
  have heffects := effects_on files step.before step.op
  have herror := apply_eq_error_iff files step.before step.op
  have hsame : step.op.fails files = true → _ := apply_of_fails files step.before
  rw [happly] at heffects herror hsame
  exact ⟨heffects, herror, hsame⟩

end Machine

end Chip8
