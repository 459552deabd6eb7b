import Chip8.Proofs.Footprint
import Chip8.Proofs.Repertoire

set_option autoImplicit false

/-! # Arithmetic on registers

The words `8XYN` compute with bytes, and the flag makes up for what a byte cannot hold: together,
result and flag are the exact sum, difference or shifted number (`AluOp.Law`). The operands are read
before anything is written, and the flag is written last. So the law holds whatever the registers
are, also where `X` and `Y` are the same one and where one of them is `F`
(`State.alu_obeys_law`). -/

namespace Chip8

/-! ## The law of each variant -/

namespace AluOp

/-- What result and flag are, as numbers, where VX held `a` and VY held `b`. Sums and shifts to the
    left are exact with the flag as their highest bit, differences with the flag as a borrow that
    was not needed, and shifts to the right with the flag as the bit that fell out. Shifts work on
    VX on modern machines and on VY on classic ones; logic clears the flag on classic ones only. -/
def Law (op : AluOp) (modern : Bool) (a b result : Nat) (flag? : Option Nat) : Prop :=
  let source := if modern then a else b
  match op with
  | set => result = b ∧ flag? = none
  | or => result = a ||| b ∧ flag? = if modern then none else some 0
  | and => result = a &&& b ∧ flag? = if modern then none else some 0
  | xor => result = a ^^^ b ∧ flag? = if modern then none else some 0
  | add => ∃ f ≤ 1, flag? = some f ∧ result + 256 * f = a + b
  | sub => ∃ f ≤ 1, flag? = some f ∧ result + b = a + 256 * (1 - f)
  | shiftRight => ∃ f ≤ 1, flag? = some f ∧ 2 * result + f = source
  | subFrom => ∃ f ≤ 1, flag? = some f ∧ result + a = b + 256 * (1 - f)
  | shiftLeft => ∃ f ≤ 1, flag? = some f ∧ result + 256 * f = 2 * source

theorem toNat_flagOf (holds : Bool) : (flagOf holds).toNat = holds.toNat := by
  cases holds <;> rfl

theorem toNat_flagOf_le (holds : Bool) : (flagOf holds).toNat ≤ 1 := by
  rw [toNat_flagOf]
  exact Bool.toNat_le holds

/-- The carry is what the byte of a sum leaves out. -/
theorem add_carry (a b : UInt8) :
    (a + b).toNat + 256 * (flagOf (255 < a.toNat + b.toNat)).toNat = a.toNat + b.toNat := by
  have ha := a.toNat_lt
  have hb := b.toNat_lt
  rw [UInt8.toNat_add, toNat_flagOf]
  by_cases hcarry : 255 < a.toNat + b.toNat
  · simp only [hcarry, decide_true, Bool.toNat_true]
    omega
  · simp only [hcarry, decide_false, Bool.toNat_false]
    omega

/-- A difference borrows 256 exactly if the flag is 0. -/
theorem sub_borrow (a b : UInt8) :
    (a - b).toNat + b.toNat = a.toNat + 256 * (1 - (flagOf (b ≤ a)).toNat) := by
  have ha := a.toNat_lt
  have hb := b.toNat_lt
  rw [UInt8.toNat_sub, toNat_flagOf]
  by_cases hle : b ≤ a
  · have hnat := UInt8.le_iff_toNat_le.1 hle
    simp only [hle, decide_true, Bool.toNat_true]
    omega
  · have hnat := mt UInt8.le_iff_toNat_le.2 hle
    simp only [hle, decide_false, Bool.toNat_false]
    omega

theorem toNat_and_one (a : UInt8) : (a &&& 1).toNat = a.toNat % 2 := by
  rw [UInt8.toNat_and]
  exact Nat.and_one_is_mod a.toNat

theorem toNat_shiftRight_seven (a : UInt8) : (a >>> 7).toNat = a.toNat / 128 := by
  rw [UInt8.toNat_shiftRight]
  exact Nat.shiftRight_eq_div_pow a.toNat 7

theorem shiftRight_bit (a : UInt8) : 2 * (a >>> 1).toNat + (a &&& 1).toNat = a.toNat := by
  have hhalf : (a >>> 1).toNat = a.toNat / 2 := by
    rw [UInt8.toNat_shiftRight]
    rfl
  rw [hhalf, toNat_and_one]
  omega

theorem shiftLeft_bit (a : UInt8) : (a <<< 1).toNat + 256 * (a >>> 7).toNat = 2 * a.toNat := by
  have hdouble : (a <<< 1).toNat = a.toNat * 2 % 256 := by
    rw [UInt8.toNat_shiftLeft]
    exact congrArg (· % 256) (Nat.shiftLeft_eq a.toNat 1)
  rw [hdouble, toNat_shiftRight_seven]
  omega

theorem law_evaluate (op : AluOp) (modern : Bool) (a b : UInt8) :
    op.Law modern a.toNat b.toNat (op.evaluate modern a b).value.toNat
      ((op.evaluate modern a b).flag?.map UInt8.toNat) := by
  -- the machine picks the operand of a shift among bytes, the law among numbers
  have hsource : (if modern then a else b).toNat = if modern then a.toNat else b.toNat := by
    cases modern <;> rfl
  have hlogic : (logicFlag? modern).map UInt8.toNat = if modern then none else some 0 := by
    cases modern <;> rfl
  cases op with
  | set => exact ⟨rfl, rfl⟩
  | or => exact ⟨UInt8.toNat_or a b, hlogic⟩
  | and => exact ⟨UInt8.toNat_and a b, hlogic⟩
  | xor => exact ⟨UInt8.toNat_xor a b, hlogic⟩
  | add => exact ⟨_, toNat_flagOf_le _, rfl, add_carry a b⟩
  | sub => exact ⟨_, toNat_flagOf_le _, rfl, sub_borrow a b⟩
  | subFrom => exact ⟨_, toNat_flagOf_le _, rfl, sub_borrow b a⟩
  | shiftRight =>
      refine ⟨_, ?_, rfl, ?_⟩
      · rw [toNat_and_one]
        omega
      · rw [← hsource]
        exact shiftRight_bit _
  | shiftLeft =>
      refine ⟨_, ?_, rfl, ?_⟩
      · have hlt := (if modern then a else b).toNat_lt
        rw [toNat_shiftRight_seven]
        omega
      · rw [← hsource]
        exact shiftLeft_bit _

end AluOp

/-! ## The registers afterwards -/

namespace State

variable {s : State} {op : AluOp} {x y : Fin 16}

theorem applyAlu_of_flag {flag : UInt8}
    (h : (op.evaluate s.config.modern (s.reg x) (s.reg y)).flag? = some flag) :
    s.applyAlu op x y =
      (s.setReg x (op.evaluate s.config.modern (s.reg x) (s.reg y)).value).setReg flagRegister
        flag := by
  simp only [applyAlu, h]

theorem applyAlu_of_no_flag
    (h : (op.evaluate s.config.modern (s.reg x) (s.reg y)).flag? = none) :
    s.applyAlu op x y = s.setReg x (op.evaluate s.config.modern (s.reg x) (s.reg y)).value := by
  simp only [applyAlu, h]

/-- Apart from the flag register, only VX changes. -/
theorem reg_applyAlu_of_ne (s : State) (op : AluOp) (x y : Fin 16) {r : Fin 16}
    (hr : r ≠ flagRegister) :
    (s.applyAlu op x y).reg r =
      if x = r then (op.evaluate s.config.modern (s.reg x) (s.reg y)).value else s.reg r := by
  cases hflag : (op.evaluate s.config.modern (s.reg x) (s.reg y)).flag? with
  | none => rw [applyAlu_of_no_flag hflag, reg_setReg]
  | some flag => rw [applyAlu_of_flag hflag, reg_setReg, if_neg hr.symm, reg_setReg]

/-- What `8XYN` does on an extended machine, in either mode, for all registers `X` and `Y`. There is
    a result and, for most variants, a flag, which obey the law of the variant on the old contents
    of `VX` and `VY`. Then `VF` holds the flag, if there is one; otherwise it holds the result if
    `X` is `F`, and what it held before if not. `VX` holds the result if `X` is not `F`, and
    nothing else changes. -/
theorem alu_obeys_law (hextended : s.config.extended = true) {w : Word}
    (hw : Word.opcode w = 0x8) (hop : Word.n w = op.digit) :
    let x := Word.x w
    let t := s.executeWord w
    ∃ (result : UInt8) (flag? : Option UInt8),
      op.Law s.config.modern (s.reg x).toNat (s.reg (Word.y w)).toNat result.toNat
          (flag?.map UInt8.toNat) ∧
        (∀ f, flag? = some f → t.reg flagRegister = f) ∧
        (flag? = none →
          t.reg flagRegister = if x = flagRegister then result else s.reg flagRegister) ∧
        (x ≠ flagRegister → t.reg x = result) ∧
        (∀ r, r ≠ x → r ≠ flagRegister → t.reg r = s.reg r) ∧
        t = { s with registers := t.registers } := by
  intro x t
  have hdigit := (AluOp.ofDigit?_eq_some_iff (Word.n w) op).2 hop
  have ht : t = s.applyAlu op x (Word.y w) :=
    executeWord_of_encodedBy hextended (i := .alu op x (Word.y w)) ⟨hw, hdigit, rfl, rfl⟩
  rw [ht]
  refine ⟨_, _, op.law_evaluate s.config.modern (s.reg x) (s.reg (Word.y w)), ?_, ?_, ?_, ?_,
    s.applyAlu_eq op x (Word.y w)⟩
  · -- the flag is written last, also over the result where `X` is `F`
    intro flag hflag
    rw [applyAlu_of_flag hflag, reg_setReg, if_pos rfl]
  · intro hflag
    rw [applyAlu_of_no_flag hflag, reg_setReg]
  · intro hx
    rw [reg_applyAlu_of_ne s op x _ hx, if_pos rfl]
  · intro r hr hflag
    rw [reg_applyAlu_of_ne s op x _ hflag, if_neg hr.symm]

/-- `8F1E` on a classic machine: `V1` is shifted, and the bit that it loses wins over the rest. -/
theorem alu_obeys_law_shift :
    let s : State := ((initial ⟨.extended, false⟩ .zero).setReg 0x1 0xC1).setReg 0xF 0x02
    let t := s.executeWord 0x8F1E
    s.config.extended = true ∧ Word.opcode 0x8F1E = 0x8 ∧
      Word.n 0x8F1E = AluOp.shiftLeft.digit ∧
      t.reg flagRegister = 1 ∧ t.reg 0x1 = 0xC1 ∧ t = { s with registers := t.registers } := by
  intro s t
  have hop : Word.n 0x8F1E = AluOp.shiftLeft.digit := rfl
  obtain ⟨result, flag?, ⟨f, hle, hmap, hdouble⟩, hflag, -, -, hothers, hrest⟩ :=
    alu_obeys_law (s := s) rfl rfl hop
  obtain ⟨flag, hsome, rfl⟩ := Option.map_eq_some_iff.1 hmap
  have hone : flag.toNat = 1 := by
    have hresult := result.toNat_lt
    have hsource : result.toNat + 256 * flag.toNat = 2 * 0xC1 := hdouble
    omega
  have hV1 : s.reg 0x1 = 0xC1 := by decide
  refine ⟨rfl, rfl, hop, ?_, (hothers 0x1 (by decide) (by decide)).trans hV1, hrest⟩
  rw [hflag flag hsome]
  exact UInt8.toNat_inj.1 hone

end State

end Chip8
