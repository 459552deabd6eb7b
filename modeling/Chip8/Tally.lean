set_option autoImplicit false

/-! # Tallies

How often each key occurred, with the keys in the order of their first occurrence. The order is
part of the data: rankings break ties by it. -/

namespace Chip8

/-- Keys with their counts, in the order of first occurrence. -/
structure Tally (α : Type) where
  entries : List (α × Nat)

namespace Tally

variable {α : Type} [DecidableEq α]

/-- Nothing was counted yet. -/
def empty : Tally α := ⟨[]⟩

/-- One more occurrence of a key: its count goes up in place, a new key goes to the end. -/
def bump (key : α) : List (α × Nat) → List (α × Nat)
  | [] => [(key, 1)]
  | (k, n) :: rest => if k = key then (k, n + 1) :: rest else (k, n) :: bump key rest

/-- Count one occurrence of a key. -/
def add (t : Tally α) (key : α) : Tally α := ⟨bump key t.entries⟩

/-- How often a key occurred. -/
def count (t : Tally α) (key : α) : Nat := (t.entries.lookup key).getD 0

/-- The keys, in the order of first occurrence. -/
def keys (t : Tally α) : List α := t.entries.map (·.1)

/-- How many occurrences were counted. -/
def total (t : Tally α) : Nat := t.entries.foldr (fun e n => e.2 + n) 0

/-- The entries by falling count; equal counts stay in the order of first occurrence. -/
def ranked (t : Tally α) : List (α × Nat) := t.entries.mergeSort fun a b => b.2 ≤ a.2

theorem total_add (t : Tally α) (key : α) : (t.add key).total = t.total + 1 := by
  obtain ⟨es⟩ := t
  simp only [total, add]
  induction es with
  | nil => rfl
  | cons e rest ih =>
    obtain ⟨k, n⟩ := e
    unfold bump
    split
    · simp; omega
    · simp only [List.foldr_cons, ih]; omega

theorem lookup_bump (key other : α) (es : List (α × Nat)) :
    ((bump key es).lookup other).getD 0
      = (es.lookup other).getD 0 + if key = other then 1 else 0 := by
  induction es with
  | nil =>
    by_cases h : other = key
    · subst h; simp [bump]
    · have hb : (other == key) = false := by simpa using h
      have h' : ¬ key = other := fun e => h e.symm
      simp [bump, List.lookup_cons, hb, h']
  | cons e rest ih =>
    obtain ⟨k, n⟩ := e
    unfold bump
    by_cases hk : k = key
    · subst hk
      by_cases ho : other = k
      · subst ho; simp
      · have : ¬ k = other := fun h => ho h.symm
        have hb : (other == k) = false := by simpa using ho
        simp [List.lookup_cons, hb, this]
    · by_cases ho : other = k
      · subst ho
        have : ¬ key = other := fun h => hk h.symm
        simp [hk, this]
      · have hb : (other == k) = false := by simpa using ho
        simp only [hk, if_false, List.lookup_cons, hb]
        exact ih

theorem count_add (t : Tally α) (key other : α) :
    (t.add key).count other = t.count other + if key = other then 1 else 0 :=
  lookup_bump key other t.entries

end Tally

end Chip8
