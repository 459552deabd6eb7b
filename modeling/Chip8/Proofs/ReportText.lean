import Chip8.Event
import Chip8.Yaml.Cursor
import Mathlib.Data.List.Basic

set_option autoImplicit false

/-! # Reports are unambiguous

The report of a skipped word names its operation, the word and the address. Numbers are filled with
zeros, and negative ones have a sign that counts towards the width; nevertheless a number can be
read off its text (`Text.Hex.number_padded`). No number holds the character behind it, so a report
can be taken apart from left to right, and it tells which event it is about (`Event.text_inj`). -/

namespace Chip8

/-! ## Reading numbers -/

namespace Text.Hex

open Yaml (hexNumber hexDigit isHexDigit)

theorem digits_of_lt {n : Nat} (h : n < 16) : digits n = [n.digitChar.toUpper] := by
  rw [digits, Nat.toDigits_of_lt_base h]
  rfl

theorem digits_of_le {n : Nat} (h : 16 ≤ n) :
    digits n = digits (n / 16) ++ digits (n % 16) := by
  rw [digits_of_lt (Nat.mod_lt n (by decide)), digits, Nat.toDigits_eq_if (by decide),
    if_neg (Nat.not_lt.2 h), List.map_append]
  rfl

theorem hexDigit_digitChar {n : Nat} (h : n < 16) : hexDigit n.digitChar.toUpper = n := by
  have hall : ∀ n < 16, hexDigit (Nat.digitChar n).toUpper = n := by decide
  exact hall n h

theorem isHexDigit_digitChar {n : Nat} (h : n < 16) : isHexDigit n.digitChar.toUpper = true := by
  have hall : ∀ n < 16, isHexDigit (Nat.digitChar n).toUpper = true := by decide
  exact hall n h

theorem hexNumber_digits (n : Nat) : hexNumber (digits n) = n := by
  induction n using Nat.strongRecOn with
  | ind n ih =>
      by_cases h : n < 16
      · rw [digits_of_lt h]
        show 16 * 0 + hexDigit _ = n
        rw [hexDigit_digitChar h, Nat.mul_zero, Nat.zero_add]
      · have hlast : n % 16 < 16 := Nat.mod_lt n (by decide)
        rw [digits_of_le (Nat.not_lt.1 h), digits_of_lt hlast, hexNumber, List.foldl_append]
        show 16 * hexNumber (digits (n / 16)) + hexDigit _ = n
        rw [ih (n / 16) (by omega), hexDigit_digitChar hlast]
        omega

theorem isHexDigit_of_mem_digits {n : Nat} {c : Char} (h : c ∈ digits n) :
    isHexDigit c = true := by
  induction n using Nat.strongRecOn with
  | ind n ih =>
      by_cases hn : n < 16
      · rw [digits_of_lt hn, List.mem_singleton] at h
        rw [h, isHexDigit_digitChar hn]
      · rw [digits_of_le (Nat.not_lt.1 hn), List.mem_append] at h
        rcases h with h | h
        · exact ih (n / 16) (by omega) h
        · exact ih (n % 16) (by omega) h

theorem hexNumber_fill (width : Nat) (ds : List Char) :
    hexNumber (fill width ds) = hexNumber ds := by
  rw [fill]
  induction width - ds.length with
  | zero => rfl
  | succ k ih => exact ih

theorem isHexDigit_of_mem_fill {width n : Nat} {c : Char} (h : c ∈ fill width (digits n)) :
    isHexDigit c = true := by
  rcases List.mem_append.1 h with h | h
  · rw [List.eq_of_mem_replicate h]
    rfl
  · exact isHexDigit_of_mem_digits h

/-- The number that a sign, if there is one, and digits denote. -/
def number : List Char → Int
  | '-' :: ds => -(hexNumber ds : Int)
  | ds => hexNumber ds

theorem number_of_isHexDigit {ds : List Char} (h : ∀ c ∈ ds, isHexDigit c = true) :
    number ds = hexNumber ds := by
  unfold number
  split
  · exact absurd (h '-' List.mem_cons_self) (by decide)
  · rfl

/-- A number can be read off its text, whatever its sign and its size. -/
theorem number_padded (width : Nat) (k : Int) : number (padded width k).toList = k := by
  unfold padded
  split
  · next hneg =>
      rw [String.toList_ofList, number, hexNumber_fill, hexNumber_digits]
      omega
  · next hneg =>
      rw [String.toList_ofList, number_of_isHexDigit fun c => isHexDigit_of_mem_fill,
        hexNumber_fill, hexNumber_digits]
      omega

theorem padded_injective (width : Nat) : Function.Injective (padded width) := by
  intro k l h
  rw [← number_padded width k, h, number_padded]

/-- Signs and digits are the only characters in the text of a number. -/
theorem not_mem_padded {c : Char} (hsign : c ≠ '-') (hdigit : isHexDigit c = false)
    (width : Nat) (k : Int) : c ∉ (padded width k).toList := by
  intro h
  unfold padded at h
  split at h
  · rw [String.toList_ofList] at h
    rcases List.mem_cons.1 h with h | h
    · exact hsign h
    · rw [isHexDigit_of_mem_fill h] at hdigit
      cases hdigit
  · rw [String.toList_ofList] at h
    rw [isHexDigit_of_mem_fill h] at hdigit
    cases hdigit

end Text.Hex

/-! ## Taking reports apart -/

/-- Texts fall into the same parts at the first occurrence of a character. -/
theorem eq_of_append_cons_eq {α : Type} {a : α} {xs xs' ys ys' : List α} (h : a ∉ xs)
    (h' : a ∉ xs') (heq : xs ++ a :: ys = xs' ++ a :: ys') : xs = xs' ∧ ys = ys' := by
  induction xs generalizing xs' with
  | nil =>
      cases xs' with
      | nil => exact ⟨rfl, (List.cons.inj heq).2⟩
      | cons x' xs' => exact absurd (List.mem_cons.2 (.inl (List.cons.inj heq).1)) h'
  | cons x xs ih =>
      cases xs' with
      | nil => exact absurd (List.mem_cons.2 (.inl (List.cons.inj heq).1.symm)) h
      | cons x' xs' =>
          obtain ⟨rfl, hrest⟩ := List.cons.inj heq
          obtain ⟨rfl, rfl⟩ := ih (fun hmem => h (List.mem_cons_of_mem x hmem))
            (fun hmem => h' (List.mem_cons_of_mem x hmem)) hrest
          exact ⟨rfl, rfl⟩

namespace Operation

/-- What a report says before it shows the word. -/
def lead : Operation → String
  | unknown => "unknown opcode "
  | op => "unsupported " ++ op.family ++ " ("

/-- What closes the word in a report. -/
def close : Operation → String
  | unknown => ""
  | _ => ")"

theorem lead_injective : Function.Injective lead := by
  have hall : ∀ op ∈ all, ∀ op' ∈ all, op.lead = op'.lead → op = op' := by decide +kernel
  exact fun op op' => hall op (mem_all op) op' (mem_all op')

theorem zero_not_mem_lead (op : Operation) : '0' ∉ op.lead.toList := by
  have hall : ∀ op ∈ all, '0' ∉ op.lead.toList := by decide +kernel
  exact hall op (mem_all op)

/-- What follows the word in a report starts with a character that no number holds. -/
theorem close_append (op : Operation) :
    ∃ c : Char, c ≠ '-' ∧ Yaml.isHexDigit c = false ∧
      ∃ mark, ∀ rest : List Char, op.close.toList ++ (" at 0x".toList ++ rest) =
        c :: (mark ++ rest) := by
  by_cases hop : op = .unknown
  · subst hop
    exact ⟨' ', by decide, by decide, "at 0x".toList, fun _ => rfl⟩
  · have hclose : op.close = ")" := by
      cases op with
      | unknown => exact absurd rfl hop
      | _ => rfl
    rw [hclose]
    exact ⟨')', by decide, by decide, " at 0x".toList, fun _ => rfl⟩

end Operation

namespace Event

theorem text_eq (e : Event) :
    e.text = e.operation.lead ++ "0x" ++ Text.Hex.padded 4 e.opcode ++ e.operation.close ++
      " at 0x" ++ Text.Hex.padded 4 e.address := by
  unfold text Operation.lead Operation.close family
  cases e.operation <;> simp only [String.append_assoc, String.empty_append]

/-- Reports with the same text are about the same event: the same operation, the same word and the
    same address, whatever the signs and sizes of the numbers. -/
theorem text_inj (e e' : Event) : e.text = e'.text ↔ e = e' := by
  refine ⟨fun h => ?_, fun h => by rw [h]⟩
  have hmark : "0x".toList = ['0', 'x'] := rfl
  have hlist := congrArg String.toList h
  simp only [text_eq, String.toList_append, List.append_assoc, hmark, List.cons_append,
    List.nil_append] at hlist
  -- the first zero ends the lead, which names the operation
  obtain ⟨hlead, hrest⟩ := eq_of_append_cons_eq e.operation.zero_not_mem_lead
    e'.operation.zero_not_mem_lead hlist
  have hoperation : e.operation = e'.operation :=
    Operation.lead_injective (String.toList_inj.1 hlead)
  obtain ⟨c, hsign, hdigit, mark, hclose⟩ := e.operation.close_append
  have hword := (List.cons.inj hrest).2
  rw [← hoperation, hclose, hclose] at hword
  -- what follows the word ends it
  obtain ⟨hopcode, hplace⟩ := eq_of_append_cons_eq (Text.Hex.not_mem_padded hsign hdigit 4 _)
    (Text.Hex.not_mem_padded hsign hdigit 4 _) hword
  have haddress := List.append_cancel_left hplace
  have hopcode' := Text.Hex.padded_injective 4 (String.toList_inj.1 hopcode)
  have haddress' := Text.Hex.padded_injective 4 (String.toList_inj.1 haddress)
  cases e
  cases e'
  cases hoperation
  cases hopcode'
  cases haddress'
  rfl

/-- A negative number of one digit and a number of five digits are told apart from those that look
    like them. -/
example : text ⟨-1, 0x12345, .unknown⟩ = "unknown opcode 0x12345 at 0x-001" ∧
    text ⟨1, 0x1234, .unknown⟩ = "unknown opcode 0x1234 at 0x0001" := by decide +kernel

end Event

end Chip8
