import Chip8.Execute
import Chip8.Proofs.Encoding
import Mathlib.Data.List.Forall2

set_option autoImplicit false

/-! # The table of operations

The operation of a word is told from the patterns of a table, such as `8XY4` or `EX9E`, in which
the letters X, Y and N stand for any digits. No two patterns of the table have a word in common
(`Operation.table_disjoint`). So a word has one operation at most, and it makes no difference in
which order the tests for the operations are tried (`Operation.select_eq_ofWord`). Words are read
from all integers of 32 bits, modulo 65536 (`Decoded.ofInt?_follows_table`). -/

namespace Chip8

/-! ## Digits and patterns -/

namespace Word

/-- The hexadecimal digits of a word, from the left. -/
def digits (w : Word) : List (Fin 16) := [opcode w, x w, y w, n w]

/-- The digit that a character of a pattern stands for, if it stands for one digit only. -/
def patternDigit? : Char → Option (Fin 16)
  | '0' => some 0x0
  | '1' => some 0x1
  | '2' => some 0x2
  | '3' => some 0x3
  | '4' => some 0x4
  | '5' => some 0x5
  | '6' => some 0x6
  | '7' => some 0x7
  | '8' => some 0x8
  | '9' => some 0x9
  | 'A' => some 0xA
  | 'B' => some 0xB
  | 'C' => some 0xC
  | 'D' => some 0xD
  | 'E' => some 0xE
  | 'F' => some 0xF
  | _ => none

/-- A word fits a pattern if each of its digits is the one that the pattern has in this place, or
    the pattern has a letter that stands for any digit. -/
def Fits (w : Word) (pattern : String) : Prop :=
  List.Forall₂ (fun c d => ∀ e ∈ patternDigit? c, d = e) pattern.toList (digits w)

theorem toNat_eq_digits (w : Word) :
    w.toNat = 4096 * (opcode w).val + 256 * (x w).val + 16 * (y w).val + (n w).val := by
  have hw := w.toNat_lt
  simp only [opcode, x, y, n, toNat_digit, Nat.pow_eq, Nat.reducePow]
  omega

theorem nn_eq_digits (w : Word) : (nn w).toNat = 16 * (y w).val + (n w).val := by
  have hw := toNat_eq_digits w
  rw [toNat_nn]
  omega

theorem nnn_eq_digits (w : Word) :
    (nnn w).toNat = 256 * (x w).val + 16 * (y w).val + (n w).val := by
  have hw := toNat_eq_digits w
  rw [toNat_nnn]
  omega

end Word

namespace Operation

/-- The patterns of the words that an operation is encoded by. -/
def patterns : Operation → List String
  | clearScreen => ["00E0"]
  | ret => ["00EE"]
  | jump => ["1NNN"]
  | call => ["2NNN"]
  | skipIfEqual => ["3XNN"]
  | skipIfNotEqual => ["4XNN"]
  | skipIfRegistersEqual => ["5XY0"]
  | loadImmediate => ["6XNN"]
  | addImmediate => ["7XNN"]
  | alu => ["8XY0", "8XY1", "8XY2", "8XY3", "8XY4", "8XY5", "8XY6", "8XY7", "8XYE"]
  | skipIfRegistersNotEqual => ["9XY0"]
  | loadIndex => ["ANNN"]
  | jumpWithOffset => ["BNNN"]
  | random => ["CXNN"]
  | drawSprite => ["DXYN"]
  | skipIfKey => ["EX9E", "EXA1"]
  | misc => ["FXNN"]
  | unknown => []

/-- The leading digit of the words of an operation, where it alone tells the operation. -/
def leading? : Operation → Option (Fin 16)
  | jump => some 0x1
  | call => some 0x2
  | skipIfEqual => some 0x3
  | skipIfNotEqual => some 0x4
  | loadImmediate => some 0x6
  | addImmediate => some 0x7
  | loadIndex => some 0xA
  | jumpWithOffset => some 0xB
  | random => some 0xC
  | drawSprite => some 0xD
  | misc => some 0xF
  | _ => none

/-- All patterns. -/
def table : List String := all.flatMap patterns

/-- A word fits a pattern of the operation. -/
def Encodes (w : Word) (op : Operation) : Prop := ∃ pattern ∈ op.patterns, Word.Fits w pattern

end Operation

namespace Word

theorem nn_eq_iff (w : Word) (byte : UInt8) :
    nn w = byte ↔ y w = Fin.ofNat 16 (byte.toNat / 16) ∧ n w = Fin.ofNat 16 byte.toNat := by
  have hy := (y w).isLt
  have hn := (n w).isLt
  have hbyte := byte.toNat_lt
  simp only [← UInt8.toNat_inj, nn_eq_digits, Fin.ext_iff, Fin.val_ofNat]
  omega

theorem eq_iff_digits (w v : Word) :
    w = v ↔ opcode w = opcode v ∧ x w = x v ∧ y w = y v ∧ n w = n v := by
  constructor
  · rintro rfl
    exact ⟨rfl, rfl, rfl, rfl⟩
  · rintro ⟨hopcode, hx, hy, hn⟩
    apply UInt16.toNat.inj
    rw [toNat_eq_digits, toNat_eq_digits, hopcode, hx, hy, hn]

end Word

/-! ## The table and decoding -/

namespace Operation

variable {w : Word} {op : Operation}

attribute [local simp] Encodes patterns Word.Fits Word.digits Word.patternDigit?

/-- Where the leading digit tells the operation, the other digits are free. -/
theorem encodes_iff_of_leading {d : Fin 16} (h : op.leading? = some d) :
    Encodes w op ↔ Word.opcode w = d := by
  cases op with
  | clearScreen | ret | skipIfRegistersEqual | alu | skipIfRegistersNotEqual | skipIfKey
  | unknown => cases h
  | _ =>
      obtain rfl := Option.some.inj h
      simp

theorem encodes_skipIfRegistersEqual_iff :
    Encodes w .skipIfRegistersEqual ↔ Word.opcode w = 0x5 ∧ Word.n w = 0x0 := by
  simp

theorem encodes_skipIfRegistersNotEqual_iff :
    Encodes w .skipIfRegistersNotEqual ↔ Word.opcode w = 0x9 ∧ Word.n w = 0x0 := by
  simp

theorem encodes_clearScreen_iff : Encodes w .clearScreen ↔ w = 0x00E0 := by
  have hdigits : w = 0x00E0 ↔ Word.opcode w = 0x0 ∧ Word.x w = 0x0 ∧ Word.y w = 0xE ∧
      Word.n w = 0x0 := Word.eq_iff_digits w 0x00E0
  simp [hdigits]

theorem encodes_ret_iff : Encodes w .ret ↔ w = 0x00EE := by
  have hdigits : w = 0x00EE ↔ Word.opcode w = 0x0 ∧ Word.x w = 0x0 ∧ Word.y w = 0xE ∧
      Word.n w = 0xE := Word.eq_iff_digits w 0x00EE
  simp [hdigits]

theorem encodes_alu_iff :
    Encodes w .alu ↔ Word.opcode w = 0x8 ∧ ∃ op, AluOp.ofDigit? (Word.n w) = some op := by
  have hvariants : ∀ digit : Fin 16, (∃ op, AluOp.ofDigit? digit = some op) ↔
      digit = 0x0 ∨ digit = 0x1 ∨ digit = 0x2 ∨ digit = 0x3 ∨ digit = 0x4 ∨ digit = 0x5 ∨
        digit = 0x6 ∨ digit = 0x7 ∨ digit = 0xE := by
    simp only [← Option.isSome_iff_exists]
    decide
  simp [hvariants, and_or_left]

theorem encodes_skipIfKey_iff :
    Encodes w .skipIfKey ↔ Word.opcode w = 0xE ∧ (Word.nn w = 0x9E ∨ Word.nn w = 0xA1) := by
  simp [Word.nn_eq_iff, and_or_left]

/-- Words fit the patterns of the operation that they are decoded to. -/
theorem encodes_of_encodedBy {i : Instruction} (h : i.EncodedBy w) : Encodes w i.operation := by
  cases i with
  | clearScreen => exact encodes_clearScreen_iff.2 h
  | ret => exact encodes_ret_iff.2 h
  | alu op => exact encodes_alu_iff.2 ⟨h.1, op, h.2.1⟩
  | skipIfHeld => exact encodes_skipIfKey_iff.2 ⟨h.1, .inl h.2.1⟩
  | skipIfReleased => exact encodes_skipIfKey_iff.2 ⟨h.1, .inr h.2.1⟩
  | unknown => exact h.elim
  | skipIfRegistersEqual => exact encodes_skipIfRegistersEqual_iff.2 ⟨h.1, h.2.1⟩
  | skipIfRegistersNotEqual => exact encodes_skipIfRegistersNotEqual_iff.2 ⟨h.1, h.2.1⟩
  | _ => exact (encodes_iff_of_leading rfl).2 h.1

theorem operation_ofMisc (x : Fin 16) (byte : UInt8) :
    (Instruction.ofMisc x byte).operation = .misc := by
  unfold Instruction.ofMisc
  split <;> rfl

/-- Words are decoded to the operation whose patterns they fit. -/
theorem ofWord_of_encodes (h : Encodes w op) : ofWord w = op := by
  cases op with
  | clearScreen =>
      obtain rfl := encodes_clearScreen_iff.1 h
      rfl
  | ret =>
      obtain rfl := encodes_ret_iff.1 h
      rfl
  | alu =>
      obtain ⟨hopcode, op, hop⟩ := encodes_alu_iff.1 h
      simp only [ofWord, Instruction.decode, hopcode, hop, Instruction.operation]
  | skipIfKey =>
      obtain ⟨hopcode, hnn | hnn⟩ := encodes_skipIfKey_iff.1 h
      · simp only [ofWord, Instruction.decode, hopcode, hnn]
        rfl
      · simp only [ofWord, Instruction.decode, hopcode, hnn]
        rfl
  | skipIfRegistersEqual =>
      obtain ⟨hopcode, hn⟩ := encodes_skipIfRegistersEqual_iff.1 h
      simp only [ofWord, Instruction.decode, hopcode, hn, if_true, Instruction.operation]
  | skipIfRegistersNotEqual =>
      obtain ⟨hopcode, hn⟩ := encodes_skipIfRegistersNotEqual_iff.1 h
      simp only [ofWord, Instruction.decode, hopcode, hn, if_true, Instruction.operation]
  | misc =>
      have hopcode : Word.opcode w = 0xF := (encodes_iff_of_leading rfl).1 h
      simp only [ofWord, Instruction.decode, hopcode]
      exact operation_ofMisc _ _
  | unknown => simp at h
  | _ =>
      have hopcode := (encodes_iff_of_leading rfl).1 h
      simp only [ofWord, Instruction.decode, hopcode, Instruction.operation]

theorem encodes_iff_ofWord (hknown : op ≠ .unknown) : Encodes w op ↔ ofWord w = op := by
  refine ⟨ofWord_of_encodes, ?_⟩
  rintro rfl
  have hdecode : Instruction.decode w ≠ .unknown := by
    intro hunknown
    exact hknown (by rw [ofWord, hunknown]; rfl)
  exact encodes_of_encodedBy (Instruction.encodedBy_decode hdecode)

theorem not_encodes_unknown : ¬ Encodes w .unknown := by
  simp

/-- Words that are decoded to no known operation are those that fit no pattern. -/
theorem ofWord_eq_unknown_iff : ofWord w = .unknown ↔ ∀ pattern ∈ table, ¬ Word.Fits w pattern := by
  constructor
  · intro hunknown pattern hpattern hfits
    obtain ⟨op, -, hop⟩ := List.mem_flatMap.1 hpattern
    have hencodes : Encodes w op := ⟨pattern, hop, hfits⟩
    obtain rfl : ofWord w = op := ofWord_of_encodes hencodes
    exact not_encodes_unknown (hunknown ▸ hencodes)
  · intro hnone
    by_contra hknown
    obtain ⟨pattern, hop, hfits⟩ := (encodes_iff_ofWord hknown).2 rfl
    exact hnone pattern (List.mem_flatMap.2 ⟨_, mem_all _, hop⟩) hfits

/-! ## No two patterns have a word in common -/

/-- In some place two patterns have different digits. -/
def clash (p q : List Char) : Bool :=
  (p.zip q).any fun (c, d) =>
    (Word.patternDigit? c).any fun e => (Word.patternDigit? d).any fun f => e ≠ f

theorem not_forall₂_of_clash {p q : List Char} {ds : List (Fin 16)} (h : clash p q = true)
    (hp : List.Forall₂ (fun c d => ∀ e ∈ Word.patternDigit? c, d = e) p ds) :
    ¬ List.Forall₂ (fun c d => ∀ e ∈ Word.patternDigit? c, d = e) q ds := by
  intro hq
  induction hp generalizing q with
  | nil => simp [clash] at h
  | cons hc _ ih =>
      cases hq with
      | cons hd hq =>
          rw [clash, List.zip_cons_cons, List.any_cons, Bool.or_eq_true] at h
          rcases h with hhere | hlater
          · simp only [Option.any_eq_true, decide_eq_true_eq] at hhere
            obtain ⟨e, he, f, hf, hne⟩ := hhere
            exact hne ((hc e he).symm.trans (hd f hf))
          · exact ih hlater hq

/-- No word fits two patterns of the table. -/
theorem table_disjoint :
    table.Pairwise fun p q => ∀ w, ¬ (Word.Fits w p ∧ Word.Fits w q) := by
  have hclash : table.Pairwise fun p q => clash p.toList q.toList = true := by decide
  exact hclash.imp fun h w ⟨hp, hq⟩ => not_forall₂_of_clash h hp hq

/-! ## Tests by shifting and masking -/

/-- The last digits of words `8XYN` that mean something. -/
def aluVariants : List Bool :=
  [true, true, true, true, true, true, true, true, false, false, false, false, false, false, true,
    false]

/-- The test for an operation. -/
def condition (w : Word) : Operation → Bool
  | clearScreen => w = 0x00E0
  | ret => w = 0x00EE
  | jump => w >>> 12 = 0x1
  | call => w >>> 12 = 0x2
  | skipIfEqual => w >>> 12 = 0x3
  | skipIfNotEqual => w >>> 12 = 0x4
  | skipIfRegistersEqual => w >>> 12 = 0x5 ∧ w &&& 0x000F = 0
  | loadImmediate => w >>> 12 = 0x6
  | addImmediate => w >>> 12 = 0x7
  | alu => w >>> 12 = 0x8 ∧ aluVariants[(w &&& 0x000F).toNat]? = some true
  | skipIfRegistersNotEqual => w >>> 12 = 0x9 ∧ w &&& 0x000F = 0
  | loadIndex => w >>> 12 = 0xA
  | jumpWithOffset => w >>> 12 = 0xB
  | random => w >>> 12 = 0xC
  | drawSprite => w >>> 12 = 0xD
  | skipIfKey => w >>> 12 = 0xE ∧ (w &&& 0x00FF = 0x9E ∨ w &&& 0x00FF = 0xA1)
  | misc => w >>> 12 = 0xF
  | unknown => false

/-- The first operation of a list whose test holds. -/
def select (order : List Operation) (w : Word) : Operation :=
  (order.find? (condition w)).getD .unknown

end Operation

namespace Word

theorem shiftRight_twelve_eq_iff (w v : Word) (d : Fin 16) (hv : v.toNat = d.val) :
    w >>> 12 = v ↔ opcode w = d := by
  have hshift : (w >>> 12).toNat = w.toNat / 4096 := by
    rw [UInt16.toNat_shiftRight]
    exact Nat.shiftRight_eq_div_pow w.toNat 12
  have hdigits := toNat_eq_digits w
  rw [← UInt16.toNat_inj, hshift, hv, Fin.ext_iff]
  omega

theorem toNat_and_digit (w : Word) : (w &&& 0x000F).toNat = (n w).val := by
  rw [UInt16.toNat_and, n, toNat_digit, Nat.pow_eq, Nat.pow_zero, Nat.div_one]
  exact Nat.and_two_pow_sub_one_eq_mod w.toNat 4

theorem and_digit_eq_iff (w v : Word) (d : Fin 16) (hv : v.toNat = d.val) :
    w &&& 0x000F = v ↔ n w = d := by
  rw [← UInt16.toNat_inj, toNat_and_digit, hv, Fin.ext_iff]

theorem and_byte_eq_iff (w v : Word) (byte : UInt8) (hv : v.toNat = byte.toNat) :
    w &&& 0x00FF = v ↔ nn w = byte := by
  have hand : (w &&& 0x00FF).toNat = w.toNat % 256 := by
    rw [UInt16.toNat_and]
    exact Nat.and_two_pow_sub_one_eq_mod w.toNat 8
  rw [← UInt16.toNat_inj, ← UInt8.toNat_inj, hand, hv, toNat_nn]

end Word

namespace Operation

variable {w : Word} {op : Operation}

/-- The test for an operation holds of the words that fit one of its patterns. -/
theorem condition_iff_encodes : condition w op = true ↔ Encodes w op := by
  have hopcode := Word.shiftRight_twelve_eq_iff w
  have hdigit := Word.and_digit_eq_iff w
  have hbyte := Word.and_byte_eq_iff w
  cases op with
  | clearScreen => rw [encodes_clearScreen_iff, condition, decide_eq_true_iff]
  | ret => rw [encodes_ret_iff, condition, decide_eq_true_iff]
  | alu =>
      have hvariants : ∀ d : Fin 16,
          aluVariants[d.val]? = some true ↔ ∃ op, AluOp.ofDigit? d = some op := by
        simp only [← Option.isSome_iff_exists]
        decide
      rw [encodes_alu_iff, condition, decide_eq_true_iff, Word.toNat_and_digit]
      exact and_congr (hopcode _ 0x8 rfl) (hvariants _)
  | skipIfKey =>
      rw [encodes_skipIfKey_iff, condition, decide_eq_true_iff]
      exact and_congr (hopcode _ 0xE rfl) (or_congr (hbyte _ 0x9E rfl) (hbyte _ 0xA1 rfl))
  | unknown => exact iff_of_false Bool.false_ne_true not_encodes_unknown
  | skipIfRegistersEqual =>
      rw [encodes_skipIfRegistersEqual_iff, condition, decide_eq_true_iff]
      exact and_congr (hopcode _ 0x5 rfl) (hdigit _ 0x0 rfl)
  | skipIfRegistersNotEqual =>
      rw [encodes_skipIfRegistersNotEqual_iff, condition, decide_eq_true_iff]
      exact and_congr (hopcode _ 0x9 rfl) (hdigit _ 0x0 rfl)
  | _ =>
      rw [encodes_iff_of_leading rfl, condition, decide_eq_true_iff]
      exact hopcode _ _ rfl

/-- It makes no difference in which order the tests are tried. -/
theorem select_eq_ofWord {order : List Operation} (hall : ∀ op, op ≠ .unknown → op ∈ order) :
    select order w = ofWord w := by
  cases hfind : order.find? (condition w) with
  | some op =>
      rw [select, hfind, Option.getD_some]
      exact (ofWord_of_encodes (condition_iff_encodes.1 (List.find?_some hfind))).symm
  | none =>
      rw [select, hfind, Option.getD_none]
      by_contra hne
      have hknown : ofWord w ≠ .unknown := Ne.symm hne
      have hcondition : condition w (ofWord w) = true :=
        condition_iff_encodes.2 ((encodes_iff_ofWord hknown).2 rfl)
      exact List.find?_eq_none.1 hfind _ (hall _ hknown) hcondition

end Operation

/-! ## Decoding of integers -/

namespace Decoded

/-- The fields are made of the digits of the word, and the operation is found in the table. -/
structure FollowsTable (d : Decoded) : Prop where
  raw : d.raw.toNat = 4096 * d.opcode.val + 256 * d.x.val + 16 * d.y.val + d.n.val
  nn : d.nn.toNat = 16 * d.y.val + d.n.val
  nnn : d.nnn.toNat = 256 * d.x.val + d.nn.toNat
  nnn_lt : d.nnn.toNat < 4096
  known : ∀ op, op ≠ .unknown → (d.operation = op ↔ op.Encodes d.raw)
  unknown : d.operation = .unknown ↔ ∀ pattern ∈ Operation.table, ¬ Word.Fits d.raw pattern
  order : ∀ order : List Operation, (∀ op, op ≠ .unknown → op ∈ order) →
    d.operation = Operation.select order d.raw

theorem followsTable_ofWord (w : Word) : (ofWord w).FollowsTable where
  raw := Word.toNat_eq_digits w
  nn := Word.nn_eq_digits w
  nnn := by
    show (Word.nnn w).toNat = 256 * (Word.x w).val + (Word.nn w).toNat
    rw [Word.nnn_eq_digits, Word.nn_eq_digits, Nat.add_assoc]
  nnn_lt := by
    show (Word.nnn w).toNat < 4096
    rw [Word.toNat_nnn]
    exact Nat.mod_lt _ (by decide)
  known _ hknown := (Operation.encodes_iff_ofWord hknown).symm
  unknown := Operation.ofWord_eq_unknown_iff
  order _ hall := (Operation.select_eq_ofWord hall).symm

end Decoded

namespace Word

/-- The integers of 32 bits, with sign. -/
def InRange (k : Int) : Prop := -2147483648 ≤ k ∧ k < 2147483648

theorem inRange_emod (k : Int) : InRange (k % 65536) := by
  constructor <;> omega

theorem ofInt?_of_inRange {k : Int} (hk : InRange k) :
    ofInt? k = some (UInt16.ofNat (k % 65536).toNat) := if_pos hk

theorem ofInt?_emod {k : Int} (hk : InRange k) : ofInt? (k % 65536) = ofInt? k := by
  rw [ofInt?_of_inRange hk, ofInt?_of_inRange (inRange_emod k), Int.emod_emod]

theorem toNat_ofInt (k : Int) : ((UInt16.ofNat (k % 65536).toNat).toNat : Int) = k % 65536 := by
  rw [UInt16.toNat_ofNat']
  omega

theorem ofInt?_of_not_inRange {k : Int} (hk : ¬ InRange k) : ofInt? k = none := if_neg hk

end Word

/-- An integer of 32 bits is decoded, and executed, as the word that it leaves modulo 65536, and the
    operation of the word is the one in the table. Other integers are refused. -/
theorem Decoded.ofInt?_follows_table (s : State) (k : Int) :
    Operation.table.Pairwise (fun p q => ∀ w, ¬ (Word.Fits w p ∧ Word.Fits w q)) ∧
      (Word.InRange k →
        ∃ d, Decoded.ofInt? k = some d ∧ Decoded.ofInt? (k % 65536) = some d ∧
          (d.raw.toNat : Int) = k % 65536 ∧ d.FollowsTable ∧
          s.executeInt? k = some (s.executeWord d.raw) ∧
          s.executeInt? (k % 65536) = s.executeInt? k) ∧
      (¬ Word.InRange k → Decoded.ofInt? k = none ∧ s.executeInt? k = none) := by
  refine ⟨Operation.table_disjoint, ?_, ?_⟩
  · intro hk
    have hword := Word.ofInt?_of_inRange hk
    have hemod := Word.ofInt?_emod hk
    refine ⟨Decoded.ofWord (UInt16.ofNat (k % 65536).toNat), ?_, ?_, Word.toNat_ofInt k,
      Decoded.followsTable_ofWord _, ?_, ?_⟩
    · rw [Decoded.ofInt?, hword, Option.map_some]
    · rw [Decoded.ofInt?, hemod, hword, Option.map_some]
    · rw [State.executeInt?, hword, Option.map_some]
      rfl
    · rw [State.executeInt?, State.executeInt?, hemod]
  · intro hk
    have hnone := Word.ofInt?_of_not_inRange hk
    exact ⟨by rw [Decoded.ofInt?, hnone, Option.map_none],
      by rw [State.executeInt?, hnone, Option.map_none]⟩

end Chip8
