import Chip8.Proofs.History
import Chip8.Proofs.WriteSet

set_option autoImplicit false

/-! # The random stream

A key leads to a stream of keys, each the first half of the one before it, split. A machine goes
through the stream of the key that it was made with, one step for each cycle that executes `CXNN`,
and there draws the byte of the second half. Nothing else moves it on and nothing moves it back,
fresh starts included, so no byte is drawn twice and none is left out. -/

namespace Chip8

/-- Whether this is a draw, a cycle that executes a word `CXNN`. -/
def Happening.isDraw : Happening → Bool
  | ran s => s.nextCycle.outcome = .executed ∧ Word.opcode s.nextCycle.word = 0xC
  | _ => false

/-! ## One cycle -/

namespace State

variable {s : State}

theorem isDraw_ran (s : State) :
    (Happening.ran s).isDraw = true ↔
      s.nextCycle.outcome = .executed ∧ Word.opcode s.nextWord = 0xC :=
  decide_eq_true_iff

/-- A draw takes the byte of the key, whatever the mask leaves of it, and goes on to the next. -/
theorem afterCycle_of_draw (h : (Happening.ran s).isDraw = true) :
    s.afterCycle = s.fetch.1.drawRandom (Word.x s.nextWord) (Word.nn s.nextWord) := by
  obtain ⟨hexecuted, hopcode⟩ := (isDraw_ran s).1 h
  have hdecode : Instruction.decode s.nextWord =
      .random (Word.x s.nextWord) (Word.nn s.nextWord) :=
    Instruction.decode_of_encodedBy ⟨hopcode, rfl, rfl⟩
  rw [afterCycle_of_executed hexecuted, hdecode]
  rfl

theorem rng_afterCycle_of_draw (h : (Happening.ran s).isDraw = true) :
    s.afterCycle.rng = s.rng.next := by
  rw [afterCycle_of_draw h]
  rfl

theorem reg_afterCycle_of_draw (h : (Happening.ran s).isDraw = true) :
    s.afterCycle.reg (Word.x s.nextWord) = s.rng.byte &&& Word.nn s.nextWord := by
  rw [afterCycle_of_draw h]
  exact (reg_setReg s.fetch.1 _ _ _).trans (if_pos rfl)

theorem rng_afterCycle_of_not_draw (h : (Happening.ran s).isDraw = false) :
    s.afterCycle.rng = s.rng := by
  have hunwritten : ¬ (Word.writeSet s.fetch.1 s.nextWord).rng := by
    rintro ⟨hopcode, hexecutes⟩
    have hdraw := (isDraw_ran s).2 ⟨s.outcome_eq_executed_iff.2 hexecutes, hopcode⟩
    exact absurd hdraw (by rw [h]; decide)
  exact (s.fetch.1.executeWord_covered s.nextWord).rng_eq hunwritten

end State

/-! ## Whole lives -/

/-- The key of a state is as many steps along the stream as there were draws, and every draw found
    it as many steps along as there were draws before. -/
structure FollowsStream (key : RandomKey) (past : List Happening) (s : State) : Prop where
  rng : s.rng = RandomKey.next^[(past.filter Happening.isDraw).length] key
  drawn : ∀ (j : Nat) (before : State),
    (past.filter Happening.isDraw)[j]? = some (.ran before) → before.rng = RandomKey.next^[j] key

namespace FollowsStream

variable {key : RandomKey} {past : List Happening} {s t : State}

theorem draw (h : FollowsStream key past s) (hdraw : (Happening.ran s).isDraw = true) :
    FollowsStream key (past ++ [.ran s]) s.afterCycle := by
  have hdraws : (past ++ [Happening.ran s]).filter Happening.isDraw =
      past.filter Happening.isDraw ++ [.ran s] := by
    rw [List.filter_append, List.filter_singleton, hdraw]
    rfl
  refine ⟨?_, fun j before hj => ?_⟩
  · rw [State.rng_afterCycle_of_draw hdraw, hdraws, List.length_append, List.length_singleton,
      Function.iterate_succ_apply', ← h.rng]
  · rw [hdraws] at hj
    rcases Nat.lt_or_ge j (past.filter Happening.isDraw).length with hearlier | hlast
    · rw [List.getElem?_append_left hearlier] at hj
      exact h.drawn j before hj
    · rw [List.getElem?_append_right hlast] at hj
      obtain ⟨hbound, heq⟩ := List.getElem?_eq_some_iff.1 hj
      rw [List.length_singleton] at hbound
      rw [List.getElem_singleton] at heq
      -- it is the draw at hand
      obtain rfl : j = (past.filter Happening.isDraw).length := by omega
      obtain rfl : s = before := Happening.ran.inj heq
      exact h.rng

theorem of_not_draw (h : FollowsStream key past s) {last : Happening}
    (hlast : last.isDraw = false) (hrng : t.rng = s.rng) :
    FollowsStream key (past ++ [last]) t := by
  have hdraws : (past ++ [last]).filter Happening.isDraw = past.filter Happening.isDraw := by
    rw [List.filter_append, List.filter_singleton, hlast]
    exact List.append_nil _
  exact ⟨by rw [hdraws, hrng, h.rng], by rw [hdraws]; exact h.drawn⟩

theorem lasting (key : RandomKey) : Lasting (FollowsStream key) where
  fresh := fun past s memory h => h.of_not_draw rfl rfl
  ticked := fun past s h => h.of_not_draw rfl rfl
  keyed := fun past s keypad h => ⟨h.rng, h.drawn⟩
  ran := by
    intro past s h
    by_cases hdraw : (Happening.ran s).isDraw = true
    · exact h.draw hdraw
    · rw [Bool.not_eq_true] at hdraw
      exact h.of_not_draw hdraw (State.rng_afterCycle_of_not_draw hdraw)

end FollowsStream

theorem HostOp.filter_isDraw_of_startsAfresh {op : HostOp} (h : op.startsAfresh = true) (s : State)
    (reply : Except HostError Reply) :
    (op.happenings s reply).filter Happening.isDraw = [] := by
  rcases reply with cause | answer
  · rfl
  · cases op with
    | reset | load | loadRom => rfl
    | _ => nomatch h

namespace Machine

/-- Whatever operations a machine goes through from the moment when it was made with a key, failed
    ones among them: its key is that key, advanced once for each cycle so far that executed `CXNN`
    (to the first half of the split key each time). The `j`-th of these cycles, counted from 0,
    leaves in `VX` of its word the byte that the second half of the `j` times advanced key draws,
    masked by `NN`. And fresh starts leave the key where it is at any moment. -/
theorem follows_random_stream (files : Files) (config : Config) (key : RandomKey)
    (observers? : Option (List Observer)) (logger : Logger) (ops : List HostOp) :
    let m := make config key observers? logger
    let final := (m.applyAll files ops).1
    let draws := (m.life files ops).filter Happening.isDraw
    final.state.rng = RandomKey.next^[draws.length] key ∧
      (∀ j < draws.length, ∃ before : State, draws[j]? = some (.ran before) ∧
        before.afterCycle.reg (Word.x before.nextWord) =
          (RandomKey.next^[j] key).byte &&& Word.nn before.nextWord) ∧
      ∀ op : HostOp, op.startsAfresh = true →
        (final.apply files op).1.state.rng = final.state.rng := by
  intro m final draws
  have hstream : FollowsStream key (m.life files ops) final.state :=
    (FollowsStream.lasting key).applyAll_now files ⟨rfl, nofun⟩ ops
  refine ⟨hstream.rng, fun j hj => ?_, fun op hop => ?_⟩
  · have hdraw : draws[j].isDraw = true := (List.mem_filter.1 (List.getElem_mem hj)).2
    cases hbefore : draws[j] with
    | ran before =>
        have hj? : draws[j]? = some (.ran before) := by rw [List.getElem?_eq_getElem hj, hbefore]
        rw [hbefore] at hdraw
        refine ⟨before, hj?, ?_⟩
        rw [State.reg_afterCycle_of_draw hdraw, hstream.drawn j before hj?]
    | _ =>
        rw [hbefore] at hdraw
        nomatch hdraw
  · have hnext := (FollowsStream.lasting key).respond files hstream op
    rw [(follows_apply files final op).state, hnext.rng, List.filter_append,
      HostOp.filter_isDraw_of_startsAfresh hop, List.append_nil, hstream.rng]

/-- A program that draws twice, the second time under an empty mask, and is then loaded again: the
    third draw goes on with the stream. -/
theorem follows_random_stream_reloaded :
    let files : Files := ⟨fun _ => .error .notFound⟩
    let m := make ⟨.extended, true⟩ .zero (some []) (.start {} .info .still)
    let program : List UInt8 := [0xC3, 0xFF, 0xC4, 0x00]
    let ops : List HostOp :=
      [.load program none, .cycles 2, .setKey 5 true, .load program (some 9), .reset,
        .load program none, .tick, .cycle]
    let draws := (m.life files ops).filter Happening.isDraw
    draws.length = 3 ∧
      (m.applyAll files ops).1.state.rng = RandomKey.zero.next.next.next ∧
      ∃ before : State, draws[2]? = some (.ran before) ∧
        before.afterCycle.reg (Word.x before.nextWord) =
          RandomKey.zero.next.next.byte &&& Word.nn before.nextWord := by
  intro files m program ops draws
  have hlength : draws.length = 3 := by decide +kernel
  obtain ⟨hrng, hdrawn, -⟩ :=
    follows_random_stream files ⟨.extended, true⟩ .zero (some []) (.start {} .info .still) ops
  refine ⟨hlength, ?_, hdrawn 2 (by rw [hlength]; decide)⟩
  rw [hrng, hlength]
  rfl

end Machine

end Chip8
