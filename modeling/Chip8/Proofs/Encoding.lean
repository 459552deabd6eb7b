import Chip8.Profile

set_option autoImplicit false

/-! # The encoding of instructions

The table of instruction words, one line for each kind of instruction: what the digits of a word
must be for it to mean an instruction with given operands. Decoding follows the table, and the
table has one meaning for a word at most (`encodedBy_decode`, `decode_of_encodedBy`), so facts about
what a program executes can be told from its words. -/

namespace Chip8

/-- The last digit of the words `8XYN` that select a variant. -/
def AluOp.digit : AluOp → Fin 16
  | set => 0x0
  | or => 0x1
  | and => 0x2
  | xor => 0x3
  | add => 0x4
  | sub => 0x5
  | shiftRight => 0x6
  | subFrom => 0x7
  | shiftLeft => 0xE

theorem AluOp.ofDigit?_eq_some_iff (n : Fin 16) (op : AluOp) :
    ofDigit? n = some op ↔ n = op.digit := by
  cases op <;> revert n <;> decide

namespace Instruction

/-- The last bytes that mean something in `FXNN`. -/
def miscBytes : List UInt8 := [0x07, 0x0A, 0x15, 0x18, 0x1E, 0x29, 0x33, 0x55, 0x65]

/-- The table of encodings. No word is an encoding of `unknown`. -/
def EncodedBy (w : Word) : Instruction → Prop
  | clearScreen => w = 0x00E0
  | ret => w = 0x00EE
  | jump target => Word.opcode w = 0x1 ∧ target = Word.nnn w
  | call target => Word.opcode w = 0x2 ∧ target = Word.nnn w
  | skipIfEqual x byte => Word.opcode w = 0x3 ∧ x = Word.x w ∧ byte = Word.nn w
  | skipIfNotEqual x byte => Word.opcode w = 0x4 ∧ x = Word.x w ∧ byte = Word.nn w
  | skipIfRegistersEqual x y =>
    Word.opcode w = 0x5 ∧ Word.n w = 0 ∧ x = Word.x w ∧ y = Word.y w
  | loadImmediate x byte => Word.opcode w = 0x6 ∧ x = Word.x w ∧ byte = Word.nn w
  | addImmediate x byte => Word.opcode w = 0x7 ∧ x = Word.x w ∧ byte = Word.nn w
  | alu op x y =>
    Word.opcode w = 0x8 ∧ AluOp.ofDigit? (Word.n w) = some op ∧ x = Word.x w ∧ y = Word.y w
  | skipIfRegistersNotEqual x y =>
    Word.opcode w = 0x9 ∧ Word.n w = 0 ∧ x = Word.x w ∧ y = Word.y w
  | loadIndex address => Word.opcode w = 0xA ∧ address = Word.nnn w
  | jumpWithOffset x target => Word.opcode w = 0xB ∧ x = Word.x w ∧ target = Word.nnn w
  | random x mask => Word.opcode w = 0xC ∧ x = Word.x w ∧ mask = Word.nn w
  | drawSprite x y height =>
    Word.opcode w = 0xD ∧ x = Word.x w ∧ y = Word.y w ∧ height = Word.n w
  | skipIfHeld x => Word.opcode w = 0xE ∧ Word.nn w = 0x9E ∧ x = Word.x w
  | skipIfReleased x => Word.opcode w = 0xE ∧ Word.nn w = 0xA1 ∧ x = Word.x w
  | readDelay x => Word.opcode w = 0xF ∧ Word.nn w = 0x07 ∧ x = Word.x w
  | waitForKey x => Word.opcode w = 0xF ∧ Word.nn w = 0x0A ∧ x = Word.x w
  | setDelay x => Word.opcode w = 0xF ∧ Word.nn w = 0x15 ∧ x = Word.x w
  | setSound x => Word.opcode w = 0xF ∧ Word.nn w = 0x18 ∧ x = Word.x w
  | addToIndex x => Word.opcode w = 0xF ∧ Word.nn w = 0x1E ∧ x = Word.x w
  | selectGlyph x => Word.opcode w = 0xF ∧ Word.nn w = 0x29 ∧ x = Word.x w
  | storeDecimal x => Word.opcode w = 0xF ∧ Word.nn w = 0x33 ∧ x = Word.x w
  | storeRegisters x => Word.opcode w = 0xF ∧ Word.nn w = 0x55 ∧ x = Word.x w
  | loadRegisters x => Word.opcode w = 0xF ∧ Word.nn w = 0x65 ∧ x = Word.x w
  | unassigned => Word.opcode w = 0xF ∧ Word.nn w ∉ miscBytes
  | unknown => False

theorem encodedBy_ofMisc {w : Word} (h : Word.opcode w = 0xF) :
    (ofMisc (Word.x w) (Word.nn w)).EncodedBy w := by
  unfold ofMisc
  split
  case h_10 h07 h0A h15 h18 h1E h29 h33 h55 h65 =>
      refine ⟨h, ?_⟩
      simp only [miscBytes, List.mem_cons, List.not_mem_nil, or_false, not_or,
        ← UInt8.toNat_inj]
      exact ⟨h07, h0A, h15, h18, h1E, h29, h33, h55, h65⟩
  all_goals
    next hbyte => exact ⟨h, UInt8.toNat.inj hbyte, rfl⟩

/-- Every word that means something is an encoding of what it means. -/
theorem encodedBy_decode {w : Word} (h : decode w ≠ unknown) : (decode w).EncodedBy w := by
  revert h
  unfold decode
  simp only
  split
  case h_1 =>
      split
      · next hw => exact fun _ => hw
      · split
        · next hw => exact fun _ => hw
        · exact fun h => absurd rfl h
  case h_6 hopcode | h_10 hopcode =>
      split
      · next hn => exact fun _ => ⟨hopcode, hn, rfl, rfl⟩
      · exact fun h => absurd rfl h
  case h_9 hopcode =>
      split
      · next op hop => exact fun _ => ⟨hopcode, hop, rfl, rfl⟩
      · exact fun h => absurd rfl h
  case h_14 hopcode => exact fun _ => ⟨hopcode, rfl, rfl, rfl⟩
  case h_15 hopcode =>
      split
      · next hnn => exact fun _ => ⟨hopcode, hnn, rfl⟩
      · split
        · next hnn => exact fun _ => ⟨hopcode, hnn, rfl⟩
        · exact fun h => absurd rfl h
  case h_16 h₀ h₁ h₂ h₃ h₄ h₅ h₆ h₇ h₈ h₉ hA hB hC hD hE =>
      have hopcode : Word.opcode w = 0xF := by
        generalize Word.opcode w = digit at *
        decide +revert
      exact fun _ => encodedBy_ofMisc hopcode
  case h_2 hopcode | h_3 hopcode | h_11 hopcode => exact fun _ => ⟨hopcode, rfl⟩
  all_goals
    next hopcode => exact fun _ => ⟨hopcode, rfl, rfl⟩

/-- What holds of the meaning of a word, and not of `unknown`, holds of an instruction that the word
    encodes. -/
theorem exists_encodedBy_of_decode {w : Word} {P : Instruction → Prop} (h : P (decode w))
    (hunknown : ¬ P unknown) : ∃ i : Instruction, i.EncodedBy w ∧ P i :=
  ⟨decode w, encodedBy_decode fun heq => hunknown (heq ▸ h), h⟩

theorem ofMisc_of_not_mem (x : Fin 16) {byte : UInt8} (h : byte ∉ miscBytes) :
    ofMisc x byte = unassigned := by
  unfold ofMisc
  split
  case h_10 => rfl
  all_goals
    next hbyte =>
      rw [← UInt8.ofNat_toNat (x := byte), hbyte] at h
      exact absurd (by decide) h

/-- A word that encodes an instruction means this instruction and no other. -/
theorem decode_of_encodedBy {w : Word} {i : Instruction} (h : i.EncodedBy w) : decode w = i := by
  cases i with
  | clearScreen | ret =>
      obtain rfl : w = _ := h
      rfl
  | jump | call | loadIndex =>
      obtain ⟨hopcode, rfl⟩ := h
      simp only [decode, hopcode]
  | skipIfEqual | skipIfNotEqual | loadImmediate | addImmediate | jumpWithOffset | random =>
      obtain ⟨hopcode, rfl, rfl⟩ := h
      simp only [decode, hopcode]
  | drawSprite =>
      obtain ⟨hopcode, rfl, rfl, rfl⟩ := h
      simp only [decode, hopcode]
  | skipIfRegistersEqual | skipIfRegistersNotEqual =>
      obtain ⟨hopcode, hn, rfl, rfl⟩ := h
      simp only [decode, hopcode, hn, if_true]
  | alu =>
      obtain ⟨hopcode, hop, rfl, rfl⟩ := h
      simp only [decode, hopcode, hop]
  | skipIfHeld | skipIfReleased =>
      obtain ⟨hopcode, hnn, rfl⟩ := h
      simp only [decode, hopcode, hnn]
      rfl
  | unassigned =>
      obtain ⟨hopcode, hnn⟩ := h
      simp only [decode, hopcode, ofMisc_of_not_mem _ hnn]
  | unknown => exact h.elim
  | readDelay | waitForKey | setDelay | setSound | addToIndex | selectGlyph | storeDecimal
  | storeRegisters | loadRegisters =>
      obtain ⟨hopcode, hnn, rfl⟩ := h
      simp only [decode, hopcode, hnn]
      rfl

/-- A word that is executed means something. -/
theorem encodedBy_of_executes {c : Config} {w : Word} (h : c.executes (decode w) = true) :
    (decode w).EncodedBy w := by
  apply encodedBy_decode
  intro hunknown
  rw [hunknown, Config.executes, operation, Config.supports_unknown] at h
  nomatch h

end Instruction

end Chip8
