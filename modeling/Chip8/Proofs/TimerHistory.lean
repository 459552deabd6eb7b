import Chip8.Proofs.History
import Chip8.Proofs.WriteSet

set_option autoImplicit false

/-! # What the timers show

The delay timer and the sound timer are two of a kind: each is set by a word of its own, `FX15` and
`FX18`, counts down with the ticks of the clock and stops at zero. What a timer shows can be told
from what has happened since the last fresh start (`Timer.Shows`): the value that it was last set
to, less the ticks since then; and zero if it was not set. Nothing else has a part in it. -/

namespace Chip8

/-- The timers of a machine. -/
inductive Timer where
  | delay
  | sound

namespace Timer

/-- What a timer shows in a state. -/
def reading (s : State) : Timer → UInt8
  | delay => s.delay
  | sound => s.sound

/-- The last byte of the words `FXNN` that set a timer. -/
def setByte : Timer → UInt8
  | delay => 0x15
  | sound => 0x18

/-- Whether this is a cycle that executes a word that sets the timer. -/
def isSetBy (timer : Timer) : Happening → Bool
  | .ran s => s.nextCycle.outcome = .executed ∧
      Word.opcode s.nextCycle.word = 0xF ∧ Word.nn s.nextCycle.word = timer.setByte
  | _ => false

/-- What may change what a timer shows. -/
def isTouchedBy (timer : Timer) : Happening → Bool
  | .fresh | .ticked => true
  | .ran s => timer.isSetBy (.ran s)

/-- What a timer shows after all that has happened since the last fresh start. Subtraction stops at
    zero. -/
inductive Shows (timer : Timer) : List Happening → Nat → Prop where
  | unset {recent : List Happening} (hunset : ∀ h ∈ recent, timer.isSetBy h = false) :
    Shows timer recent 0
  | set (earlier : List Happening) (s : State) (later : List Happening)
    (hset : timer.isSetBy (.ran s) = true) (hlast : ∀ h ∈ later, timer.isSetBy h = false) :
    Shows timer (earlier ++ .ran s :: later)
      ((s.reg (Word.x s.nextWord)).toNat - later.countP Happening.isTick)

variable {timer : Timer}

/-! ## What happens next -/

theorem Shows.setting {s : State} (hset : timer.isSetBy (.ran s) = true)
    (recent : List Happening) :
    timer.Shows (recent ++ [.ran s]) (s.reg (Word.x s.nextWord)).toNat :=
  .set recent s [] hset nofun

/-- What does not set the timer lets it go on, down by one for a tick. -/
theorem Shows.concat {recent : List Happening} {value : Nat} (h : timer.Shows recent value)
    {next : Happening} (hnext : timer.isSetBy next = false) :
    timer.Shows (recent ++ [next]) (value - if next.isTick then 1 else 0) := by
  cases h with
  | unset hunset =>
      rw [Nat.zero_sub]
      refine .unset fun h hmem => ?_
      rcases List.mem_append.1 hmem with hrecent | hlast
      · exact hunset h hrecent
      · rw [List.mem_singleton.1 hlast, hnext]
  | set earlier s later hset hlast =>
      have hcount : (later ++ [next]).countP Happening.isTick =
          later.countP Happening.isTick + if next.isTick then 1 else 0 := by
        rw [List.countP_append, List.countP_singleton]
      rw [Nat.sub_sub, ← hcount, List.append_assoc, List.cons_append]
      refine .set earlier s (later ++ [next]) hset fun h hmem => ?_
      rcases List.mem_append.1 hmem with hlater | heq
      · exact hlast h hlater
      · rw [List.mem_singleton.1 heq, hnext]

theorem not_unset_of_mem {recent : List Happening} {h : Happening} (hmem : h ∈ recent)
    (hset : timer.isSetBy h = true) : ¬ ∀ e ∈ recent, timer.isSetBy e = false := by
  intro hunset
  rw [hunset h hmem] at hset
  nomatch hset

/-- After the last setting there is no other. -/
theorem eq_of_last_setting {h h' : Happening} {later before later' : List Happening}
    (hlast : ∀ e ∈ later, timer.isSetBy e = false) (hset' : timer.isSetBy h' = true)
    (heq : h :: later = before ++ h' :: later') : h = h' ∧ later = later' := by
  cases before with
  | nil => exact List.cons.inj heq
  | cons first before =>
      obtain ⟨-, rfl⟩ := List.cons.inj heq
      exact absurd hlast (not_unset_of_mem List.mem_append_cons_self hset')

/-- A history leaves no choice what to show. -/
theorem Shows.unique {recent : List Happening} {a b : Nat} (ha : timer.Shows recent a)
    (hb : timer.Shows recent b) : a = b := by
  generalize hrecent : recent = recent' at hb
  cases ha with
  | unset hunset =>
      cases hb with
      | unset => rfl
      | set earlier' s' later' hset' =>
          rw [hrecent] at hunset
          exact absurd hunset (not_unset_of_mem List.mem_append_cons_self hset')
  | set earlier s later hset hlast =>
      cases hb with
      | unset hunset' =>
          rw [← hrecent] at hunset'
          exact absurd hunset' (not_unset_of_mem List.mem_append_cons_self hset)
      | set earlier' s' later' hset' hlast' =>
          -- one of the two settings is not before the other
          rcases List.append_eq_append_iff.1 hrecent with ⟨mid, -, heq⟩ | ⟨mid, -, heq⟩
          · obtain ⟨hs, rfl⟩ := eq_of_last_setting hlast hset' heq
            rw [Happening.ran.inj hs]
          · obtain ⟨hs, rfl⟩ := eq_of_last_setting hlast' hset heq
            rw [Happening.ran.inj hs]

/-! ## Ticks and cycles -/

/-- A tick takes one away, as long as there is something left. -/
theorem toNat_reading_tick (timer : Timer) (s : State) :
    (timer.reading s.tick).toNat = (timer.reading s).toNat - 1 := by
  have hdown : ∀ value : UInt8, (if value = 0 then 0 else value - 1).toNat = value.toNat - 1 := by
    intro value
    by_cases hzero : value = 0
    · rw [hzero]
      rfl
    · have hpositive : 1 ≤ value := by
        rw [UInt8.le_iff_toNat_le]
        exact Nat.one_le_iff_ne_zero.2 fun h => hzero (UInt8.toNat.inj h)
      rw [if_neg hzero, UInt8.toNat_sub_of_le _ _ hpositive]
      rfl
  cases timer with
  | delay => exact hdown s.delay
  | sound => exact hdown s.sound

variable {s : State}

theorem isSetBy_ran (timer : Timer) (s : State) :
    timer.isSetBy (.ran s) = true ↔
      s.nextCycle.outcome = .executed ∧
        Word.opcode s.nextWord = 0xF ∧ Word.nn s.nextWord = timer.setByte :=
  decide_eq_true_iff

theorem reading_afterCycle_of_set (h : timer.isSetBy (.ran s) = true) :
    timer.reading s.afterCycle = s.reg (Word.x s.nextWord) := by
  obtain ⟨hexecuted, hopcode, hnn⟩ := (timer.isSetBy_ran s).1 h
  rw [State.afterCycle_of_executed hexecuted]
  cases timer with
  | delay =>
      have hdecode : Instruction.decode s.nextWord = .setDelay (Word.x s.nextWord) :=
        Instruction.decode_of_encodedBy ⟨hopcode, hnn, rfl⟩
      rw [hdecode]
      rfl
  | sound =>
      have hdecode : Instruction.decode s.nextWord = .setSound (Word.x s.nextWord) :=
        Instruction.decode_of_encodedBy ⟨hopcode, hnn, rfl⟩
      rw [hdecode]
      rfl

/-- A cycle that does not set the timer leaves it alone. -/
theorem reading_afterCycle_of_not_set (h : timer.isSetBy (.ran s) = false) :
    timer.reading s.afterCycle = timer.reading s := by
  by_cases hexecuted : s.nextCycle.outcome = .executed
  · have hword : ¬ (Word.opcode s.nextWord = 0xF ∧ Word.nn s.nextWord = timer.setByte) := by
      intro hword
      have hset := (timer.isSetBy_ran s).2 ⟨hexecuted, hword⟩
      exact absurd hset (by rw [h]; decide)
    have hcovered := s.fetch.1.executeWord_covered s.nextWord
    cases timer with
    | delay => exact hcovered.delay_eq hword
    | sound => exact hcovered.sound_eq hword
  · rw [State.afterCycle_of_not_executed hexecuted]
    cases timer <;> rfl

/-! ## Whole lives -/

/-- A timer shows what its history says, from a new machine on. -/
theorem lasting (timer : Timer) :
    Lasting fun past s => timer.Shows (sinceFresh past) (timer.reading s).toNat where
  fresh := by
    intro past s memory _
    have hzero : timer.reading { s.reset with memory := memory } = 0 := by cases timer <;> rfl
    rw [sinceFresh_fresh, hzero]
    exact .unset nofun
  ran := by
    intro past s h
    rw [sinceFresh_concat past (by rfl)]
    by_cases hset : timer.isSetBy (.ran s) = true
    · rw [reading_afterCycle_of_set hset]
      exact .setting hset _
    · rw [Bool.not_eq_true] at hset
      rw [reading_afterCycle_of_not_set hset]
      exact h.concat hset
  ticked := by
    intro past s h
    rw [sinceFresh_concat past (by rfl), toNat_reading_tick]
    exact h.concat rfl
  keyed := by
    intro past s keypad h
    cases timer <;> exact h

theorem lasting_untouched (timer : Timer) (value : UInt8) :
    Lasting fun past s =>
      (∀ h ∈ past, timer.isTouchedBy h = false) → timer.reading s = value where
  fresh := fun past s memory _ huntouched => by
    nomatch huntouched _ List.mem_append_cons_self
  ticked := fun past s _ huntouched => by
    nomatch huntouched _ List.mem_append_cons_self
  ran := by
    intro past s h huntouched
    have hset : timer.isSetBy (.ran s) = false := huntouched _ List.mem_append_cons_self
    rw [reading_afterCycle_of_not_set hset]
    exact h fun e he => huntouched e (List.mem_append_left _ he)
  keyed := by
    intro past s keypad h
    cases timer <;> exact h

end Timer

namespace Machine

/-- Whatever operations a machine goes through after it was made, failed ones among them: each timer
    shows the value that `VX` had in the last cycle that executed `FX15` (the sound timer: `FX18`)
    since the last fresh start, less the ticks after that cycle, or zero if these are more or if
    there was no such cycle. And no operation changes what a timer shows unless it starts afresh,
    ticks or runs such a cycle: key events and failed operations never do, nor do cycles that wait
    for a key. -/
theorem timers_show_history (files : Files) (config : Config) (rng : RandomKey)
    (observers? : Option (List Observer)) (logger : Logger) (ops : List HostOp) (timer : Timer) :
    let m := make config rng observers? logger
    let final := (m.applyAll files ops).1
    (∀ value : Nat, timer.Shows (sinceFresh (m.life files ops)) value ↔
      value = (timer.reading final.state).toNat) ∧
      ∀ op : HostOp,
        let next := final.apply files op
        (∀ h ∈ op.happenings final.state next.2, timer.isTouchedBy h = false) →
        timer.reading next.1.state = timer.reading final.state := by
  intro m final
  have hnew : timer.Shows (sinceFresh []) (timer.reading m.state).toNat := by
    have hzero : timer.reading m.state = 0 := by cases timer <;> rfl
    rw [hzero]
    exact .unset nofun
  have hshows : timer.Shows (sinceFresh (m.life files ops)) (timer.reading final.state).toNat :=
    timer.lasting.applyAll_now files hnew ops
  refine ⟨fun value => ⟨fun h => h.unique hshows, fun h => h ▸ hshows⟩, ?_⟩
  intro op next h
  have hfollows := follows_apply files final op
  rw [hfollows.reply] at h
  rw [hfollows.state]
  have huntouched := timer.lasting_untouched (timer.reading final.state)
  exact huntouched.respond_now files (fun _ => rfl) op h

/-- The delay timer is set to 5 and the sound timer to 1, both tick on while operations fail and the
    program waits for a key, and the next cycle of waiting touches neither. -/
theorem timers_show_history_waiting :
    let files : Files := ⟨fun _ => .error .notFound⟩
    let m := make ⟨.extended, true⟩ .zero (some []) (.start {} .info .still)
    let program : List UInt8 := [0x61, 0x05, 0xF1, 0x15, 0x61, 0x01, 0xF1, 0x18, 0xF2, 0x0A]
    let ops : List HostOp :=
      [.load program none, .cycles 2, .tick, .tick, .load program (some 99), .setKey 16 true,
        .cycles 3, .tick, .cycles (-1), .tick]
    let final := (m.applyAll files ops).1
    Timer.Shows .delay (sinceFresh (m.life files ops)) 1 ∧ final.state.delay = 1 ∧
      Timer.Shows .sound (sinceFresh (m.life files ops)) 0 ∧ final.state.sound = 0 ∧
      ∀ timer : Timer,
        timer.reading (final.apply files .cycle).1.state = timer.reading final.state := by
  intro files m program ops final
  have hhistory := timers_show_history files ⟨.extended, true⟩ .zero (some [])
    (.start {} .info .still) ops
  obtain ⟨hdelay, hsound, hwaiting⟩ : final.state.delay = 1 ∧ final.state.sound = 0 ∧
      final.state.nextWord = 0xF20A := by decide +kernel
  refine ⟨((hhistory .delay).1 1).2 ?_, hdelay, ((hhistory .sound).1 0).2 ?_, hsound,
    fun timer => (hhistory timer).2 .cycle fun h hmem => ?_⟩
  · exact congrArg UInt8.toNat hdelay.symm
  · exact congrArg UInt8.toNat hsound.symm
  · rw [List.mem_singleton.1 hmem, ← Bool.not_eq_true]
    intro hset
    have hbyte := ((timer.isSetBy_ran final.state).1 hset).2.2
    rw [hwaiting] at hbyte
    cases timer <;> exact absurd hbyte (by decide)

end Machine

end Chip8
