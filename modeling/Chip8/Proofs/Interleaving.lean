import Chip8.Proofs.Life
import Chip8.Proofs.Lockstep

set_option autoImplicit false

/-! # Operations side by side and left out

What two machines have in common, or one machine with and without some of its operations, is told by
a relation between their states. Here are the inductions over the operations, for any relation:
related machines stay related and answer the same if single operations keep the relation
(`applyAll_lockstep`), also if one machine leaves out the operations that do not matter to it
(`applyAll_filter`). For the operations that run cycles it is enough to look at a single cycle
(`respond_lockstep_of_isRun`). -/

namespace Chip8

namespace HostOp

/-- Whether an operation runs cycles. -/
def isRun : HostOp → Bool
  | cycle | cycles _ => true
  | _ => false

/-- Whether an operation presses or releases a key. -/
def isKey : HostOp → Bool
  | setKey _ _ => true
  | _ => false

end HostOp

/-- The answers to the operations that satisfy a condition. -/
def answersTo (p : HostOp → Bool) (ops : List HostOp) (replies : List (Except HostError Reply)) :
    List (Except HostError Reply) :=
  ((ops.zip replies).filter fun answered => p answered.1).map (·.2)

theorem answersTo_cons_of_pos {p : HostOp → Bool} {op : HostOp} (hp : p op = true)
    (ops : List HostOp) (reply : Except HostError Reply) (replies : List (Except HostError Reply)) :
    answersTo p (op :: ops) (reply :: replies) = reply :: answersTo p ops replies := by
  rw [answersTo, List.zip_cons_cons, List.filter_cons_of_pos (by exact hp)]
  rfl

theorem answersTo_cons_of_neg {p : HostOp → Bool} {op : HostOp} (hp : p op = false)
    (ops : List HostOp) (reply : Except HostError Reply) (replies : List (Except HostError Reply)) :
    answersTo p (op :: ops) (reply :: replies) = answersTo p ops replies := by
  rw [answersTo, List.zip_cons_cons, List.filter_cons_of_neg (by rw [hp]; decide)]
  rfl

/-! ## Runs -/

theorem State.respond_lockstep_of_isRun {related : State → State → Prop}
    (step : ∀ s t, related s t →
      t.nextCycle = s.nextCycle ∧ related s.afterCycle t.afterCycle)
    (files : Files) {s t : State} (h : related s t) {op : HostOp} (hop : op.isRun = true) :
    (t.respond files op).2 = (s.respond files op).2 ∧
      related (s.respond files op).1 (t.respond files op).1 := by
  cases op with
  | cycle =>
      obtain ⟨hcycle, hnext⟩ := step s t h
      have houtcome : t.step.2 = s.step.2 := congrArg Cycle.outcome hcycle
      exact ⟨by simp only [respond, houtcome], hnext⟩
  | cycles count =>
      by_cases hnegative : count < 0
      · simp only [respond, if_pos hnegative]
        exact ⟨trivial, h⟩
      · have hstep : ∀ s t, related s t → True →
            t.nextCycle = s.nextCycle ∧ related s.afterCycle t.afterCycle :=
          fun s t hst _ => step s t hst
        obtain ⟨hcycles, hstate⟩ := trace_lockstep_eq hstep h count.toNat fun _ _ => trivial
        rw [state_trace, state_trace] at hstate
        simp only [respond, if_neg hnegative, Run.summary, hcycles]
        exact ⟨trivial, hstate⟩
  | _ => cases hop

/-! ## Operations -/

namespace Machine

variable (files : Files) {related : State → State → Prop}

/-- One machine goes through all operations, the other through some of them. -/
theorem applyAll_filter {p : HostOp → Bool} {ops : List HostOp}
    (kept : ∀ op ∈ ops, p op = true → ∀ s t, related s t →
      (t.respond files op).2 = (s.respond files op).2 ∧
        related (s.respond files op).1 (t.respond files op).1)
    (dropped : ∀ op ∈ ops, p op = false → ∀ s t, related s t →
      related (s.respond files op).1 t)
    {m m' : Machine} (h : related m.state m'.state) :
    answersTo p ops (m.applyAll files ops).2 = (m'.applyAll files (ops.filter p)).2 ∧
      related (m.applyAll files ops).1.state (m'.applyAll files (ops.filter p)).1.state := by
  induction ops generalizing m m' with
  | nil => exact ⟨rfl, h⟩
  | cons op ops ih =>
      have hm := follows_apply files m op
      have hm' := follows_apply files m' op
      have hkept := fun op hop => kept op (List.mem_cons_of_mem _ hop)
      have hdropped := fun op hop => dropped op (List.mem_cons_of_mem _ hop)
      rw [applyAll_cons]
      by_cases hp : p op = true
      · obtain ⟨hreply, hnext⟩ := kept op (List.mem_cons_self ..) hp _ _ h
        rw [← hm.state, ← hm'.state] at hnext
        rw [← hm.reply, ← hm'.reply] at hreply
        obtain ⟨hreplies, hfinal⟩ := ih hkept hdropped hnext
        rw [List.filter_cons_of_pos hp, applyAll_cons, answersTo_cons_of_pos hp, hreplies, hreply]
        exact ⟨rfl, hfinal⟩
      · rw [Bool.not_eq_true] at hp
        have hnext := dropped op (List.mem_cons_self ..) hp _ _ h
        rw [← hm.state] at hnext
        obtain ⟨hreplies, hfinal⟩ := ih hkept hdropped hnext
        rw [List.filter_cons_of_neg (by rw [hp]; decide), answersTo_cons_of_neg hp]
        exact ⟨hreplies, hfinal⟩

end Machine

end Chip8
