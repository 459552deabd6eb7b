import Chip8.Cycle
import Chip8.Proofs.Encoding

set_option autoImplicit false

/-! # What a profile executes

A cycle tells how it ended, and this can be relied on: a word is executed exactly if it is in the
table of the profile, and a word that is not executed has no effect at all. The flag and the effect
are decided in different ways. The flag asks for the operation and, in the miscellaneous family,
for the last byte (`executes_decode_iff`); the effect is chosen by the operation alone, and within
the family an unassigned byte leads to no effect (`executeWord_eq`). -/

namespace Chip8

/-- The words of the core profile: `00E0`, `1NNN`, `3XNN`, `6XNN`, `7XNN`, `ANNN` and `DXYN`. -/
def Word.IsCore (w : Word) : Prop :=
  w = 0x00E0 ∨ Word.opcode w = 0x1 ∨ Word.opcode w = 0x3 ∨ Word.opcode w = 0x6 ∨
    Word.opcode w = 0x7 ∨ Word.opcode w = 0xA ∨ Word.opcode w = 0xD

/-- The words that the extended profile adds: `00EE`, `2NNN`, `4XNN`, `5XY0`, `8XY0` to `8XY7`,
    `8XYE`, `9XY0`, `BNNN`, `CXNN`, `EX9E`, `EXA1` and `FXNN` with one of nine last bytes. -/
def Word.IsExtension (w : Word) : Prop :=
  w = 0x00EE ∨ Word.opcode w = 0x2 ∨ Word.opcode w = 0x4 ∨
    Word.opcode w = 0x5 ∧ Word.n w = 0x0 ∨
    Word.opcode w = 0x8 ∧ (Word.n w ≤ 0x7 ∨ Word.n w = 0xE) ∨
    Word.opcode w = 0x9 ∧ Word.n w = 0x0 ∨
    Word.opcode w = 0xB ∨ Word.opcode w = 0xC ∨
    Word.opcode w = 0xE ∧ (Word.nn w = 0x9E ∨ Word.nn w = 0xA1) ∨
    Word.opcode w = 0xF ∧
      Word.nn w ∈ ([0x07, 0x0A, 0x15, 0x18, 0x1E, 0x29, 0x33, 0x55, 0x65] : List UInt8)

/-- The table of the profile. -/
def Config.Lists (c : Config) (w : Word) : Prop :=
  Word.IsCore w ∨ c.extended = true ∧ Word.IsExtension w

theorem AluOp.isSome_ofDigit?_iff (n : Fin 16) :
    (ofDigit? n).isSome = true ↔ n ≤ 0x7 ∨ n = 0xE := by
  revert n
  decide

/-! ## The tables and decoding -/

namespace Word

variable {w : Word}

theorem isCore_of_decode (h : (Operation.ofWord w).isCore = true) : IsCore w := by
  obtain ⟨i, hencoded, hcore⟩ :=
    Instruction.exists_encodedBy_of_decode (P := fun i => i.operation.isCore = true) h nofun
  cases i with
  | clearScreen => exact Or.inl hencoded
  | jump | skipIfEqual | loadImmediate | addImmediate | loadIndex | drawSprite =>
      simp [IsCore, hencoded.1]
  | _ => nomatch hcore

theorem isCore_or_isExtension_of_decode (hunknown : Instruction.decode w ≠ .unknown)
    (hunassigned : Instruction.decode w ≠ .unassigned) : IsCore w ∨ IsExtension w := by
  have hencoded := Instruction.encodedBy_decode hunknown
  cases hdecode : Instruction.decode w <;> rw [hdecode] at hencoded
  case clearScreen => exact Or.inl (Or.inl hencoded)
  case ret => exact Or.inr (Or.inl hencoded)
  case jump | skipIfEqual | loadImmediate | addImmediate | loadIndex | drawSprite =>
      exact Or.inl (by simp [IsCore, hencoded.1])
  case call | skipIfNotEqual | jumpWithOffset | random =>
      exact Or.inr (by simp [IsExtension, hencoded.1])
  case unassigned => exact absurd hdecode hunassigned
  case unknown => exact absurd hdecode hunknown
  case alu op _ _ =>
      obtain ⟨hopcode, hop, -, -⟩ := hencoded
      have hn := (AluOp.isSome_ofDigit?_iff (n w)).1 (by rw [hop]; rfl)
      exact Or.inr (by simp [IsExtension, hopcode, hn])
  -- in all other families the last digits matter
  all_goals
    obtain ⟨hopcode, hlast, -⟩ := hencoded
    exact Or.inr (by simp [IsExtension, hopcode, hlast])

/-- A word of the core table encodes a core instruction. -/
theorem exists_encodedBy_of_isCore (h : IsCore w) :
    ∃ i : Instruction, i.EncodedBy w ∧ i.operation.isCore = true := by
  rcases h with h | h | h | h | h | h | h
  · exact ⟨.clearScreen, h, rfl⟩
  · exact ⟨.jump (nnn w), ⟨h, rfl⟩, rfl⟩
  · exact ⟨.skipIfEqual (x w) (nn w), ⟨h, rfl, rfl⟩, rfl⟩
  · exact ⟨.loadImmediate (x w) (nn w), ⟨h, rfl, rfl⟩, rfl⟩
  · exact ⟨.addImmediate (x w) (nn w), ⟨h, rfl, rfl⟩, rfl⟩
  · exact ⟨.loadIndex (nnn w), ⟨h, rfl⟩, rfl⟩
  · exact ⟨.drawSprite (x w) (y w) (n w), ⟨h, rfl, rfl, rfl⟩, rfl⟩

/-- A word that the extended profile adds encodes an instruction that does something. -/
theorem exists_encodedBy_of_isExtension (h : IsExtension w) :
    ∃ i : Instruction, i.EncodedBy w ∧ i ≠ .unassigned := by
  rcases h with h | h | h | ⟨h, hn⟩ | ⟨h, hn⟩ | ⟨h, hn⟩ | h | h | ⟨h, hnn | hnn⟩ | ⟨h, hnn⟩
  · exact ⟨.ret, h, nofun⟩
  · exact ⟨.call (nnn w), ⟨h, rfl⟩, nofun⟩
  · exact ⟨.skipIfNotEqual (x w) (nn w), ⟨h, rfl, rfl⟩, nofun⟩
  · exact ⟨.skipIfRegistersEqual (x w) (y w), ⟨h, hn, rfl, rfl⟩, nofun⟩
  · obtain ⟨op, hop⟩ := Option.isSome_iff_exists.1 ((AluOp.isSome_ofDigit?_iff (n w)).2 hn)
    exact ⟨.alu op (x w) (y w), ⟨h, hop, rfl, rfl⟩, nofun⟩
  · exact ⟨.skipIfRegistersNotEqual (x w) (y w), ⟨h, hn, rfl, rfl⟩, nofun⟩
  · exact ⟨.jumpWithOffset (x w) (nnn w), ⟨h, rfl, rfl⟩, nofun⟩
  · exact ⟨.random (x w) (nn w), ⟨h, rfl, rfl⟩, nofun⟩
  · exact ⟨.skipIfHeld (x w), ⟨h, hnn, rfl⟩, nofun⟩
  · exact ⟨.skipIfReleased (x w), ⟨h, hnn, rfl⟩, nofun⟩
  · have hencoded := Instruction.encodedBy_ofMisc h
    refine ⟨_, hencoded, fun hunassigned => ?_⟩
    rw [hunassigned] at hencoded
    exact hencoded.2 hnn

theorem isCore_iff : IsCore w ↔ (Operation.ofWord w).isCore = true := by
  constructor
  · intro h
    obtain ⟨i, hencoded, hcore⟩ := exists_encodedBy_of_isCore h
    rw [Operation.ofWord, Instruction.decode_of_encodedBy hencoded, hcore]
  · exact isCore_of_decode

theorem isCore_or_isExtension_iff :
    IsCore w ∨ IsExtension w ↔
      Instruction.decode w ≠ .unknown ∧ Instruction.decode w ≠ .unassigned := by
  constructor
  · -- a line of either table encodes an instruction, and decoding finds it
    intro h
    have hmeans : ∃ i : Instruction, i.EncodedBy w ∧ i ≠ .unassigned := by
      rcases h with h | h
      · obtain ⟨i, hencoded, hcore⟩ := exists_encodedBy_of_isCore h
        refine ⟨i, hencoded, ?_⟩
        rintro rfl
        exact absurd hcore (by decide)
      · exact exists_encodedBy_of_isExtension h
    obtain ⟨i, hencoded, hunassigned⟩ := hmeans
    rw [Instruction.decode_of_encodedBy hencoded]
    refine ⟨?_, hunassigned⟩
    rintro rfl
    exact hencoded
  · rintro ⟨hunknown, hunassigned⟩
    exact isCore_or_isExtension_of_decode hunknown hunassigned

end Word

/-! ## The flag and the effect -/

theorem Instruction.operation_eq_unknown_iff (i : Instruction) :
    i.operation = .unknown ↔ i = .unknown := by
  cases i <;> simp [operation]

/-- The words of the miscellaneous family that mean nothing are those with another last byte. -/
theorem Instruction.decode_eq_unassigned_iff (w : Word) :
    decode w = .unassigned ↔ Operation.ofWord w = .misc ∧ Word.nn w ∉ miscBytes := by
  constructor
  · intro hdecode
    have hencoded : (decode w).EncodedBy w := encodedBy_decode (by rw [hdecode]; nofun)
    rw [hdecode] at hencoded
    exact ⟨by rw [Operation.ofWord, hdecode]; rfl, hencoded.2⟩
  · rintro ⟨hmisc, hnn⟩
    obtain ⟨i, hencoded, hoperation⟩ :=
      exists_encodedBy_of_decode (P := fun i => i.operation = .misc) hmisc nofun
    cases i with
    | unassigned => exact decode_of_encodedBy hencoded
    | readDelay | waitForKey | setDelay | setSound | addToIndex | selectGlyph | storeDecimal
    | storeRegisters | loadRegisters =>
        exact absurd (by rw [hencoded.2.1]; decide) hnn
    | _ => nomatch hoperation

namespace Config

/-- A profile executes the words of its table and no others. -/
theorem executes_decode_iff_lists (c : Config) (w : Word) :
    c.executes (Instruction.decode w) = true ↔ c.Lists w := by
  unfold Lists
  by_cases hextended : c.extended = true
  · have hexecutes : c.executes (Instruction.decode w) = true ↔
        Instruction.decode w ≠ .unknown ∧ Instruction.decode w ≠ .unassigned := by
      simp [executes, supports, hextended, Instruction.operation_eq_unknown_iff]
    rw [hexecutes, ← Word.isCore_or_isExtension_iff]
    simp [hextended]
  · have hexecutes : c.executes (Instruction.decode w) = true ↔
        (Operation.ofWord w).isCore = true ∧ Instruction.decode w ≠ .unassigned := by
      simp [executes, supports, hextended, Operation.ofWord]
    have hassigned : (Operation.ofWord w).isCore = true → Instruction.decode w ≠ .unassigned := by
      intro hcore hunassigned
      rw [Operation.ofWord, hunassigned] at hcore
      exact absurd hcore (by decide)
    rw [hexecutes, and_iff_left_of_imp hassigned, ← Word.isCore_iff]
    simp [hextended]

/-- The flag of a cycle, told from the operation and the last byte. -/
theorem executes_decode_iff (c : Config) (w : Word) :
    c.executes (Instruction.decode w) = true ↔
      c.supports (Operation.ofWord w) = true ∧
        (Operation.ofWord w = .misc → Word.nn w ∈ Instruction.miscBytes) := by
  have hexecutes : c.executes (Instruction.decode w) = true ↔
      c.supports (Operation.ofWord w) = true ∧ ¬ Instruction.decode w = .unassigned := by
    simp [executes, Operation.ofWord]
  rw [hexecutes, Instruction.decode_eq_unassigned_iff, not_and, Decidable.not_not]

theorem supports_of_isCore (c : Config) {op : Operation} (h : op.isCore = true) :
    c.supports op = true := by
  unfold supports
  split
  · rw [decide_eq_true_iff]
    rintro rfl
    exact absurd h (by decide)
  · exact h

theorem supports_of_encodedBy {c : Config} (hextended : c.extended = true) {w : Word}
    {i : Instruction} (hencoded : i.EncodedBy w) : c.supports i.operation = true := by
  rw [supports, if_pos hextended, decide_eq_true_iff, Ne, Instruction.operation_eq_unknown_iff]
  rintro rfl
  exact hencoded

end Config

namespace State

/-- The effect of a word, chosen by the operation alone. -/
theorem executeWord_eq (s : State) (w : Word) :
    s.executeWord w =
      if s.config.supports (Operation.ofWord w) then s.perform (Instruction.decode w) else s := by
  by_cases hunassigned : Instruction.decode w = .unassigned
  · simp [executeWord, execute, Config.executes, hunassigned, perform]
  · have hexecutes : s.config.executes (Instruction.decode w) =
        s.config.supports (Operation.ofWord w) := by
      simp [Config.executes, hunassigned, Operation.ofWord]
    rw [executeWord, execute, hexecutes]

/-- A word of a supported operation does what it encodes. -/
theorem executeWord_of_supports {s : State} {w : Word} {i : Instruction}
    (hsupports : s.config.supports i.operation = true) (hencoded : i.EncodedBy w) :
    s.executeWord w = s.perform i := by
  rw [executeWord_eq, Operation.ofWord, Instruction.decode_of_encodedBy hencoded, if_pos hsupports]

/-- On an extended machine every word does what it encodes. -/
theorem executeWord_of_encodedBy {s : State} (hextended : s.config.extended = true) {w : Word}
    {i : Instruction} (hencoded : i.EncodedBy w) : s.executeWord w = s.perform i :=
  executeWord_of_supports (Config.supports_of_encodedBy hextended hencoded) hencoded

/-- A word whose flag says that it was skipped has no effect, whichever way this comes about. -/
theorem executeWord_of_not_executes (s : State) {w : Word}
    (h : s.config.executes (Instruction.decode w) = false) : s.executeWord w = s := by
  have hflag : ¬ s.config.executes (Instruction.decode w) = true := by
    rw [h]
    decide
  rw [Config.executes_decode_iff] at hflag
  rw [executeWord_eq]
  by_cases hsupports : s.config.supports (Operation.ofWord w) = true
  · -- the handler of the miscellaneous family finds nothing under this byte
    have hunassigned : Instruction.decode w = .unassigned := by
      rw [Instruction.decode_eq_unassigned_iff]
      exact Classical.not_imp.1 fun himp => hflag ⟨hsupports, himp⟩
    rw [if_pos hsupports, hunassigned]
    rfl
  · rw [if_neg hsupports]

/-- The outcome of a cycle says what happened. A cycle executes the fetched word exactly if the
    profile lists it. Otherwise the program counter moves on by two, modulo 65536, and all else
    stays; and the word has no effect on any state of the configuration. -/
theorem step_outcome_truthful (s : State) :
    (s.step.2 = .executed ↔ s.config.Lists s.fetch.2) ∧
      (s.step.2 = .unsupported →
        s.step.1 = { s with pc := s.pc + 2 } ∧
          ∀ t : State, t.config = s.config → t.executeWord s.fetch.2 = t) := by
  have houtcome : s.step.2 =
      if s.config.executes (Instruction.decode s.fetch.2) then .executed else .unsupported := rfl
  constructor
  · rw [houtcome, ← Config.executes_decode_iff_lists]
    split
    · next hexecutes => simp [hexecutes]
    · next hexecutes => simp [hexecutes]
  · intro hunsupported
    have hexecutes : s.config.executes (Instruction.decode s.fetch.2) = false := by
      rw [Bool.eq_false_iff]
      intro hexecutes
      rw [houtcome, if_pos hexecutes] at hunsupported
      nomatch hunsupported
    refine ⟨executeWord_of_not_executes s.fetch.1 hexecutes, fun t ht => ?_⟩
    exact executeWord_of_not_executes t (by rw [ht, hexecutes])

/-- `FX66`, read across the end of memory with the counter about to wrap: the word is skipped even
    by the extended profile. -/
theorem step_outcome_truthful_unassigned :
    let s : State := { initial ⟨.extended, false⟩ .zero with
      memory := Memory.zero.writeBlock 0xFFF [0xF1, 0x66], pc := 0xFFFF }
    ¬ s.config.Lists 0xF166 ∧ s.step.2 = .unsupported ∧ s.step.1 = { s with pc := 0x0001 } ∧
      ∀ t : State, t.config = s.config → t.executeWord 0xF166 = t := by
  intro s
  have hfetch : s.fetch.2 = 0xF166 := by decide +kernel
  have hunsupported : s.step.2 = .unsupported := by decide +kernel
  have hpc : s.pc + 2 = 0x0001 := by decide
  obtain ⟨hlisted, heffect⟩ := step_outcome_truthful s
  rw [hfetch, hunsupported] at hlisted
  rw [hfetch] at heffect
  obtain ⟨hstep, hsame⟩ := heffect hunsupported
  rw [hpc] at hstep
  exact ⟨fun h => absurd (hlisted.2 h) (by decide), hunsupported, hstep, hsame⟩

end State

end Chip8
