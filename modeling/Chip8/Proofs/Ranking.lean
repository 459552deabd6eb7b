import Chip8.Proofs.Diagnostics
import Mathlib.Algebra.BigOperators.Group.List.Basic
import Mathlib.Data.List.Sort

set_option autoImplicit false

/-! # What a ranking shows

A tally has an entry for every key that occurred, with the number of its occurrences, and none for
any other key (`Tally.Records`). A ranking has the same entries, the most frequent first
(`Tally.ranks_addAll`); so the counts of a counter that was told of skipped words add up to the
number of these words. -/

namespace Chip8

namespace Tally

variable {α : Type}

theorem total_eq_sum (t : Tally α) : t.total = (t.entries.map (·.2)).sum := by
  rw [total, List.sum, List.foldr_map]

theorem ranked_perm (t : Tally α) : t.ranked.Perm t.entries := List.mergeSort_perm _ _

/-- Entries are ordered by their counts alone. -/
theorem falling_trans (a b c : α × Nat) (hab : decide (b.2 ≤ a.2) = true)
    (hbc : decide (c.2 ≤ b.2) = true) : decide (c.2 ≤ a.2) = true := by
  rw [decide_eq_true_iff] at *
  exact hbc.trans hab

theorem falling_total (a b : α × Nat) :
    (decide (b.2 ≤ a.2) || decide (a.2 ≤ b.2)) = true := by
  rw [Bool.or_eq_true, decide_eq_true_iff, decide_eq_true_iff]
  exact Nat.le_total b.2 a.2

theorem ranked_falling (t : Tally α) : t.ranked.Pairwise fun e later => later.2 ≤ e.2 :=
  (List.pairwise_mergeSort falling_trans falling_total t.entries).imp fun h => of_decide_eq_true h

/-- Entries with the same count are ranked in the order in which they are in the tally. -/
theorem filter_ranked (t : Tally α) (n : Nat) :
    t.ranked.filter (·.2 = n) = t.entries.filter (·.2 = n) := by
  have hsorted : (t.entries.filter (·.2 = n)).Pairwise fun a b => decide (b.2 ≤ a.2) = true := by
    refine List.pairwise_of_forall_mem_list fun a ha b hb => ?_
    have hcount : a.2 = n ∧ b.2 = n :=
      ⟨of_decide_eq_true (List.mem_filter.1 ha).2, of_decide_eq_true (List.mem_filter.1 hb).2⟩
    rw [hcount.1, hcount.2, decide_eq_true_iff]
  have hsublist : (t.entries.filter (·.2 = n)).Sublist (t.ranked.filter (·.2 = n)) := by
    have hranked := List.sublist_mergeSort falling_trans falling_total hsorted List.filter_sublist
    have hfiltered := hranked.filter (·.2 = n)
    simp only [List.filter_filter, Bool.and_self] at hfiltered
    exact hfiltered
  exact (hsublist.eq_of_length (((ranked_perm t).filter _).length_eq).symm).symm

variable [DecidableEq α]

/-! ## Counting -/

/-- Count occurrences, one after the other. -/
def addAll (t : Tally α) (occurrences : List α) : Tally α := occurrences.foldl add t

theorem addAll_cons (t : Tally α) (key : α) (occurrences : List α) :
    t.addAll (key :: occurrences) = (t.add key).addAll occurrences := rfl

theorem total_addAll (t : Tally α) (occurrences : List α) :
    (t.addAll occurrences).total = t.total + occurrences.length := by
  induction occurrences generalizing t with
  | nil => rfl
  | cons key occurrences ih =>
      rw [addAll_cons, ih, total_add, List.length_cons]
      omega

theorem count_addAll (t : Tally α) (occurrences : List α) (key : α) :
    (t.addAll occurrences).count key = t.count key + occurrences.count key := by
  induction occurrences generalizing t with
  | nil => rfl
  | cons first occurrences ih =>
      rw [addAll_cons, ih, count_add, List.count_cons]
      simp only [beq_iff_eq]
      omega

/-! ## The keys -/

theorem map_fst_bump (key : α) (entries : List (α × Nat)) :
    (bump key entries).map (·.1) =
      if key ∈ entries.map (·.1) then entries.map (·.1) else entries.map (·.1) ++ [key] := by
  induction entries with
  | nil => rfl
  | cons e rest ih =>
      obtain ⟨k, n⟩ := e
      unfold bump
      by_cases hk : k = key
      · subst hk
        simp
      · have hk' : ¬ key = k := fun h => hk h.symm
        simp only [if_neg hk, List.map_cons, ih, List.mem_cons, hk', false_or]
        split
        · rfl
        · rfl

/-- A new key goes to the end. -/
theorem keys_add (t : Tally α) (key : α) :
    (t.add key).keys = if key ∈ t.keys then t.keys else t.keys ++ [key] :=
  map_fst_bump key t.entries

theorem mem_keys_addAll (t : Tally α) (occurrences : List α) (key : α) :
    key ∈ (t.addAll occurrences).keys ↔ key ∈ t.keys ∨ key ∈ occurrences := by
  induction occurrences generalizing t with
  | nil => simp [addAll]
  | cons first occurrences ih =>
      rw [addAll_cons, ih, keys_add, List.mem_cons]
      split
      · next hfirst =>
          constructor
          · exact fun h => h.imp id .inr
          · rintro (h | rfl | h)
            · exact .inl h
            · exact .inl hfirst
            · exact .inr h
      · rw [List.mem_append, List.mem_singleton, or_assoc]

theorem nodup_keys_addAll {t : Tally α} (h : t.keys.Nodup) (occurrences : List α) :
    (t.addAll occurrences).keys.Nodup := by
  induction occurrences generalizing t with
  | nil => exact h
  | cons key occurrences ih =>
      refine ih ?_
      rw [keys_add]
      split
      · exact h
      · next hnew =>
          rw [← List.concat_eq_append]
          exact h.concat hnew

theorem mem_keys_empty_addAll (occurrences : List α) (key : α) :
    key ∈ (empty.addAll occurrences).keys ↔ key ∈ occurrences := by
  rw [mem_keys_addAll]
  exact or_iff_right List.not_mem_nil

theorem nodup_keys_empty_addAll (occurrences : List α) :
    (empty.addAll occurrences).keys.Nodup := by
  have hempty : (empty : Tally α).keys.Nodup := .nil
  exact nodup_keys_addAll hempty occurrences

/-- Where no key has two entries, an entry tells the count of its key. -/
theorem count_of_mem {t : Tally α} (h : t.keys.Nodup) {e : α × Nat} (he : e ∈ t.entries) :
    t.count e.1 = e.2 := by
  obtain ⟨entries⟩ := t
  show (entries.lookup e.1).getD 0 = e.2
  replace h : (entries.map (·.1)).Nodup := h
  replace he : e ∈ entries := he
  induction entries with
  | nil => nomatch he
  | cons first rest ih =>
      obtain ⟨k, n⟩ := first
      obtain ⟨hk, hrest⟩ := List.nodup_cons.1 h
      rcases List.mem_cons.1 he with rfl | hmem
      · simp
      · have hne : e.1 ≠ k := fun heq => hk (List.mem_map.2 ⟨e, hmem, heq⟩)
        rw [List.lookup_cons, beq_false_of_ne hne]
        exact ih hrest hmem

/-! ## Rankings -/

/-- The keys that occur, each once and with the number of its occurrences, by falling numbers. -/
structure Ranks (ranking : List (α × Nat)) (occurrences : List α) : Prop where
  falling : ranking.Pairwise fun e later => later.2 ≤ e.2
  distinct : (ranking.map (·.1)).Nodup
  mem : ∀ key, key ∈ ranking.map (·.1) ↔ key ∈ occurrences
  count : ∀ e ∈ ranking, e.2 = occurrences.count e.1
  sum : (ranking.map (·.2)).sum = occurrences.length

theorem Ranks.pos {ranking : List (α × Nat)} {occurrences : List α}
    (h : Ranks ranking occurrences) {e : α × Nat} (he : e ∈ ranking) : 0 < e.2 := by
  rw [h.count e he, List.count_pos_iff, ← h.mem]
  exact List.mem_map_of_mem he

theorem ranks_addAll (occurrences : List α) :
    Ranks (empty.addAll occurrences).ranked occurrences := by
  have hperm := ranked_perm (empty.addAll occurrences)
  have hnodup := nodup_keys_empty_addAll occurrences
  refine ⟨ranked_falling _, ?_, fun key => ?_, fun e he => ?_, ?_⟩
  · exact (hperm.map _).nodup_iff.2 hnodup
  · rw [(hperm.map _).mem_iff]
    exact mem_keys_empty_addAll occurrences key
  · have hcount := count_addAll empty occurrences e.1
    rw [count_of_mem hnodup (hperm.mem_iff.1 he)] at hcount
    exact hcount.trans (Nat.zero_add _)
  · have htotal := total_addAll empty occurrences
    rw [total_eq_sum] at htotal
    rw [(hperm.map _).sum_eq, htotal]
    exact Nat.zero_add _

end Tally

/-! ## Counters of skipped words -/

/-- The families of the skipped cycles of a run, in order. -/
def Run.families (r : Run) : List String := r.unsupported.map (·.operation.family)

theorem Statistics.families_told_events (st : Statistics) (events : List Event) :
    (st.told (events.map .unsupported)).families =
      st.families.addAll (events.map Event.family) := by
  induction events generalizing st with
  | nil => rfl
  | cons e events ih => exact ih (st.observe (.unsupported e))

theorem Statistics.families_told_notices (r : Run) :
    (Statistics.empty.told r.notices).families = Tally.empty.addAll r.families := by
  rw [Run.notices, families_told_events, Run.events, List.map_map]
  rfl

/-- A new counter that was told of the skipped cycles of a run ranks their families. -/
theorem Statistics.ranks_told_notices (r : Run) :
    Tally.Ranks (Statistics.empty.told r.notices).ranking r.families := by
  rw [ranking, families_told_notices]
  exact Tally.ranks_addAll r.families

theorem Statistics.total_told_notices (r : Run) :
    (Statistics.empty.told r.notices).total = r.unsupported.length := by
  rw [total, families_told_notices, Tally.total_addAll, Run.families, List.length_map]
  exact Nat.zero_add _

end Chip8
