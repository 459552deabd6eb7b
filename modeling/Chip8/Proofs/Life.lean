import Chip8.Proofs.Batch

set_option autoImplicit false

/-! # The life of a machine

A front end drives a machine by operations, some of which fail. What they do to the bare state, and
what they answer, is `State.respond`; what they make happen (fresh starts, cycles, ticks) is the
machine's life. `Machine.follows_apply` says all that an operation can do, but for the log: it leads
to the state and the answer that the response has, and tells the observers of what happened. -/

namespace Chip8

/-- What an operation does to a bare state, and what it answers. A failed one leaves the state as
    it was. -/
def State.respond (files : Files) (s : State) : HostOp → State × Except HostError Reply
  | .reset => (s.reset, .ok .done)
  | .load program size? =>
    match s.load program size? with
    | .ok next => (next, .ok .done)
    | .error cause => (s, .error (.program cause))
  | .loadRom path =>
    match files.read path with
    | .ok program =>
      match s.load program none with
      | .ok next => (next, .ok .done)
      | .error cause => (s, .error (.program cause))
    | .error cause => (s, .error (.file path cause))
  | .cycle => (s.step.1, .ok (.outcome s.step.2))
  | .cycles count =>
    if count < 0 then (s, .error (.negativeCycles count))
    else (s.after count.toNat, .ok (.summary (s.trace count.toNat).summary))
  | .setKey key pressed =>
    match s.setKey key pressed with
    | .ok next => (next, .ok .done)
    | .error cause => (s, .error (.unknownKey cause))
  | .tick => (s.tick, .ok .done)

/-- What can happen in the life of a machine. -/
inductive Happening where
  /-- a fresh start, by a reset or with a program -/
  | fresh
  /-- a cycle, run from a state -/
  | ran (before : State)
  /-- a tick of the timers -/
  | ticked

/-- What an operation makes happen on a machine in a state, given its answer: nothing if it failed;
    else one fresh start, or its cycles in order, each from the state that the ones before it lead
    to, or a tick. -/
def HostOp.happenings (s : State) (op : HostOp) : Except HostError Reply → List Happening
  | .error _ => []
  | .ok _ =>
    match op with
    | .reset | .load _ _ | .loadRom _ => [.fresh]
    | .cycle => [.ran s]
    | .cycles count => (List.range count.toNat).map fun i => .ran (s.after i)
    | .setKey _ _ => []
    | .tick => [.ticked]

/-- What happens to a machine in the course of operations. -/
def Machine.life (files : Files) (m : Machine) : List HostOp → List Happening
  | [] => []
  | op :: ops =>
    let (next, reply) := m.apply files op
    op.happenings m.state reply ++ next.life files ops

/-- The notice that observers are due: one of each fresh start, and one of each skipped cycle, with
    the address, the word and the operation on its record. -/
def Happening.notice? : Happening → Option Notice
  | fresh => some .reset
  | ran s =>
    if s.nextCycle.outcome = .unsupported then some (.unsupported (Event.ofCycle s.nextCycle))
    else none
  | ticked => none

/-! ## One operation -/

theorem Run.notices_eq (states : List State) (last : State) :
    Run.notices ⟨states.map (·.nextCycle), last⟩ =
      (states.map Happening.ran).filterMap Happening.notice? := by
  unfold notices events unsupported
  induction states with
  | nil => rfl
  | cons s states ih =>
      rw [List.map_cons, List.map_cons, List.filterMap_cons, List.filter_cons]
      by_cases hskipped : s.nextCycle.outcome = .unsupported
      · simp only [hskipped, decide_true, if_true, List.map_cons, ih, Happening.notice?]
      · simp only [hskipped, decide_false, if_false, Bool.false_eq_true, ih, Happening.notice?]

theorem State.notices_trace (s : State) (n : Nat) :
    (s.trace n).notices =
      ((List.range n).map fun i => Happening.ran (s.after i)).filterMap Happening.notice? := by
  have htrace : s.trace n = ⟨((List.range n).map s.after).map (·.nextCycle), s.after n⟩ := by
    rw [List.map_map, ← state_trace]
    exact congrArg (Run.mk · _) (s.cycles_trace n)
  rw [htrace, Run.notices_eq, List.map_map]
  rfl

namespace Machine

/-- All that an operation can do, but for what it writes to the log. -/
structure Follows (m : Machine) (files : Files) (op : HostOp)
    (result : Machine × Except HostError Reply) : Prop where
  state : result.1.state = (m.state.respond files op).1
  reply : result.2 = (m.state.respond files op).2
  observers : result.1.observers =
    m.observers.map (·.told ((op.happenings m.state result.2).filterMap Happening.notice?))

/-- What is logged of a file that was loaded. -/
def loadedLine (path : String) (program : List UInt8) : String :=
  "Loaded ROM " ++ path ++ " (" ++ toString program.length ++ " bytes)"

/-- The machine with one more line in its log, if the level passes. -/
def logged (m : Machine) (level : Level) (message : String) : Machine :=
  { m with logger := m.logger.logAt level message }

variable (files : Files)

theorem follows_of_error {m : Machine} {op : HostOp} {cause : HostError}
    (hperform : m.perform files op = .error cause)
    (hrespond : m.state.respond files op = (m.state, .error cause)) :
    Follows m files op (m.apply files op) := by
  have happly : m.apply files op = (m, .error cause) := by rw [apply, hperform]
  rw [happly]
  exact ⟨by rw [hrespond], by rw [hrespond], (List.map_id m.observers).symm⟩

theorem follows_of_ok {m next : Machine} {op : HostOp} {reply : Reply}
    (hperform : m.perform files op = .ok (next, reply))
    (hrespond : m.state.respond files op = (next.state, .ok reply))
    (hobservers : next.observers = m.observers.map
      (·.told ((op.happenings m.state (.ok reply)).filterMap Happening.notice?))) :
    Follows m files op (m.apply files op) := by
  have happly : m.apply files op = (next, .ok reply) := by rw [apply, hperform]
  rw [happly]
  exact ⟨by rw [hrespond], by rw [hrespond], hobservers⟩

theorem observers_advance (m : Machine) (n : Nat) :
    (m.advance n).1.observers = m.observers.map (·.told
      (((List.range n).map fun i => Happening.ran (m.state.after i)).filterMap
        Happening.notice?)) := by
  rw [advance_eq, observers_withState, observers_tell, State.notices_trace]

/-- A program that is accepted is a fresh start; whatever is logged beside it. -/
theorem load_ok {m : Machine} {program : List UInt8} {size? : Option Int} {next : State}
    (h : m.state.load program size? = .ok next) :
    ∃ loaded : Machine, m.load program size? = .ok loaded ∧ loaded.state = next ∧
      loaded.observers = m.observers.map (·.told [.reset]) := by
  refine ⟨_, by rw [load, h]; rfl, rfl, ?_⟩
  exact Observer.observeAll_observers m.observers .reset

theorem load_error {m : Machine} {program : List UInt8} {size? : Option Int} {cause : LoadError}
    (h : m.state.load program size? = .error cause) : m.load program size? = .error cause := by
  rw [load, h]
  rfl

/-- A file that can be read is loaded like any program, and one more line may be logged. -/
theorem loadRom_of_read {m : Machine} {path : String} {program : List UInt8}
    (h : files.read path = .ok program) :
    m.loadRom files path = ((m.load program none).mapError HostError.program).map
      (·.logged .info (loadedLine path program)) := by
  rw [loadRom, h]
  show ((m.load program none).mapError HostError.program >>= fun m => pure _) = _
  cases m.load program none <;> rfl

/-- An operation leads to the state and the answer of the response, and tells the observers what
    happened. The cases are the ways in which an operation can fail or succeed. -/
theorem follows_apply (m : Machine) (op : HostOp) : Follows m files op (m.apply files op) := by
  cases op with
  | reset => exact ⟨rfl, rfl, Observer.observeAll_observers m.observers .reset⟩
  | tick => exact ⟨rfl, rfl, (List.map_id m.observers).symm⟩
  | cycle =>
      refine follows_of_ok files rfl ?_ (m.observers_advance 1)
      rw [state_advance]
      rfl
  | cycles count =>
      by_cases hnegative : count < 0
      · have hperform : m.perform files (.cycles count) = .error (.negativeCycles count) := by
          simp only [perform, cycles, if_pos hnegative]
          rfl
        exact follows_of_error files hperform (by rw [State.respond, if_pos hnegative])
      · obtain ⟨k, rfl⟩ := Int.eq_ofNat_of_zero_le (Int.not_lt.1 hnegative)
        have hperform : m.perform files (.cycles k) =
            .ok ((m.advance k).1, .summary (m.state.trace k).summary) := by
          simp only [perform, cycles_eq]
          rfl
        refine follows_of_ok files hperform ?_ (m.observers_advance k)
        rw [State.respond, if_neg hnegative, state_advance]
        rfl
  | setKey key pressed =>
      rcases hkey : m.state.setKey key pressed with cause | next
      · have hperform : m.perform files (.setKey key pressed) = .error (.unknownKey cause) := by
          simp only [perform, setKey, hkey]
          rfl
        exact follows_of_error files hperform (by simp only [State.respond, hkey])
      · have hperform : m.perform files (.setKey key pressed) =
            .ok (m.withState next, .done) := by
          simp only [perform, setKey, hkey]
          rfl
        exact follows_of_ok files hperform (by simp only [State.respond, hkey, state_withState])
          (List.map_id m.observers).symm
  | load program size? =>
      rcases hload : m.state.load program size? with cause | next
      · have hperform : m.perform files (.load program size?) = .error (.program cause) := by
          simp only [perform, load_error hload]
          rfl
        exact follows_of_error files hperform (by simp only [State.respond, hload])
      · obtain ⟨loaded, hloaded, rfl, hobservers⟩ := load_ok hload
        have hperform : m.perform files (.load program size?) = .ok (loaded, .done) := by
          simp only [perform, hloaded]
          rfl
        exact follows_of_ok files hperform (by simp only [State.respond, hload]) hobservers
  | loadRom path =>
      rcases hread : files.read path with cause | program
      · have hperform : m.perform files (.loadRom path) = .error (.file path cause) := by
          simp only [perform, loadRom, hread]
          rfl
        exact follows_of_error files hperform (by simp only [State.respond, hread])
      -- the file is there, and may still be too large to be loaded
      have hrom := loadRom_of_read files (m := m) hread
      rcases hload : m.state.load program none with cause | next
      · have hperform : m.perform files (.loadRom path) = .error (.program cause) := by
          simp only [perform, hrom, load_error hload]
          rfl
        exact follows_of_error files hperform (by simp only [State.respond, hread, hload])
      · obtain ⟨loaded, hloaded, rfl, hobservers⟩ := load_ok hload
        have hperform : m.perform files (.loadRom path) =
            .ok (loaded.logged .info (loadedLine path program), .done) := by
          simp only [perform, hrom, hloaded]
          rfl
        exact follows_of_ok files hperform (by simp only [State.respond, hread, hload]; rfl)
          hobservers

/-! ## Whole lives -/

/-- Every observer is told the same: what happens in the machine's life, in order. -/
theorem observers_applyAll (m : Machine) (ops : List HostOp) :
    (m.applyAll files ops).1.observers =
      m.observers.map (·.told ((m.life files ops).filterMap Happening.notice?)) := by
  induction ops generalizing m with
  | nil => exact (List.map_id m.observers).symm
  | cons op ops ih =>
      show ((m.apply files op).1.applyAll files ops).1.observers = _
      rw [ih, (follows_apply files m op).observers, List.map_map, life, List.filterMap_append]
      exact List.map_congr_left fun o _ => (o.told_append _ _).symm

theorem applyAll_cons (m : Machine) (op : HostOp) (ops : List HostOp) :
    m.applyAll files (op :: ops) =
      (((m.apply files op).1.applyAll files ops).1,
        (m.apply files op).2 :: ((m.apply files op).1.applyAll files ops).2) := rfl

/-- Machines in related states answer the same and stay related, if single operations see to it. -/
theorem applyAll_lockstep {related : State → State → Prop} {ops : List HostOp}
    (step : ∀ op ∈ ops, ∀ s t, related s t →
      (t.respond files op).2 = (s.respond files op).2 ∧
        related (s.respond files op).1 (t.respond files op).1)
    {m m' : Machine} (h : related m.state m'.state) :
    (m'.applyAll files ops).2 = (m.applyAll files ops).2 ∧
      related (m.applyAll files ops).1.state (m'.applyAll files ops).1.state := by
  induction ops generalizing m m' with
  | nil => exact ⟨rfl, h⟩
  | cons op ops ih =>
      have hm := follows_apply files m op
      have hm' := follows_apply files m' op
      obtain ⟨hreply, hnext⟩ := step op (List.mem_cons_self ..) _ _ h
      rw [← hm.state, ← hm'.state] at hnext
      rw [← hm.reply, ← hm'.reply] at hreply
      obtain ⟨hreplies, hfinal⟩ := ih (fun op hop => step op (List.mem_cons_of_mem _ hop)) hnext
      exact ⟨congrArg₂ List.cons hreply hreplies, hfinal⟩

/-- What a machine does and answers depends on its state alone. -/
theorem applyAll_congr {m m' : Machine} (h : m.state = m'.state) (ops : List HostOp) :
    (m.applyAll files ops).1.state = (m'.applyAll files ops).1.state ∧
      (m.applyAll files ops).2 = (m'.applyAll files ops).2 := by
  have step : ∀ op ∈ ops, ∀ s t : State, s = t →
      (t.respond files op).2 = (s.respond files op).2 ∧
        (s.respond files op).1 = (t.respond files op).1 := by
    rintro op - s t rfl
    exact ⟨rfl, rfl⟩
  obtain ⟨hreplies, hstate⟩ := applyAll_lockstep files step h
  exact ⟨hstate, hreplies.symm⟩

end Machine

end Chip8
