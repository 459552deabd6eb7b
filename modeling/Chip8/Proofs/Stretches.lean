import Chip8.Proofs.Ranking

set_option autoImplicit false

/-! # What a counter shows

Fresh starts divide what observers are told into stretches. A counter that was new in the beginning
shows the events of the current stretch, whatever was there before: how many there are, in all, by
word and by family, and the families by falling counts, where equal counts stand in the order in
which the families first occurred in the stretch (`Statistics.shows_current`). -/

namespace Chip8

/-! ## The order of first occurrence -/

namespace Tally

variable {α : Type} [DecidableEq α]

theorem addAll_concat (t : Tally α) (occurrences : List α) (key : α) :
    t.addAll (occurrences ++ [key]) = (t.addAll occurrences).add key := List.foldl_append

/-- A key is behind those that occurred before it. -/
theorem keys_in_order (occurrences : List α) :
    (empty.addAll occurrences).keys.Pairwise fun key later =>
      occurrences.idxOf key < occurrences.idxOf later := by
  induction occurrences using List.reverseRecOn with
  | nil => exact .nil
  | append_singleton occurrences last ih =>
      have hmem : ∀ key ∈ (empty.addAll occurrences).keys,
          (occurrences ++ [last]).idxOf key = occurrences.idxOf key ∧
            occurrences.idxOf key < occurrences.length := by
        intro key hkey
        have hoccurs := (mem_keys_empty_addAll occurrences key).1 hkey
        exact ⟨List.idxOf_append_of_mem hoccurs, List.idxOf_lt_length_of_mem hoccurs⟩
      have hold : (empty.addAll occurrences).keys.Pairwise fun key later =>
          (occurrences ++ [last]).idxOf key < (occurrences ++ [last]).idxOf later := by
        refine ih.imp_of_mem fun hkey hlater hlt => ?_
        rwa [(hmem _ hkey).1, (hmem _ hlater).1]
      rw [addAll_concat, keys_add]
      split
      · exact hold
      · next hnew =>
          have hlast : last ∉ occurrences := mt (mem_keys_empty_addAll occurrences last).2 hnew
          refine List.pairwise_append.2 ⟨hold, List.pairwise_singleton _ _, ?_⟩
          intro key hkey later hlater
          rw [List.mem_singleton.1 hlater, (hmem key hkey).1,
            List.idxOf_append_of_notMem hlast]
          exact Nat.lt_add_right _ (hmem key hkey).2

/-- Equal counts are ranked in the order of first occurrence. -/
theorem ranked_ties (occurrences : List α) :
    (empty.addAll occurrences).ranked.Pairwise fun e later =>
      e.2 = later.2 → occurrences.idxOf e.1 < occurrences.idxOf later.1 := by
  refine List.pairwise_iff_forall_sublist.2 fun {e later} hpair htie => ?_
  have hfiltered : [e, later].Sublist
      ((empty.addAll occurrences).entries.filter (·.2 = later.2)) := by
    have h := hpair.filter (·.2 = later.2)
    simp only [List.filter_cons, htie, decide_true, if_true, List.filter_nil] at h
    rwa [filter_ranked] at h
  have hkeys := (hfiltered.trans List.filter_sublist).map Prod.fst
  exact List.pairwise_iff_forall_sublist.1 (keys_in_order occurrences) hkeys

theorem mem_ranked_iff (occurrences : List α) (key : α) (n : Nat) :
    (key, n) ∈ (empty.addAll occurrences).ranked ↔ 0 < n ∧ n = occurrences.count key := by
  have hranks := ranks_addAll occurrences
  constructor
  · exact fun h => ⟨hranks.pos h, hranks.count _ h⟩
  · rintro ⟨hpos, hcount⟩
    have hoccurs : key ∈ occurrences := List.count_pos_iff.1 (hcount ▸ hpos)
    obtain ⟨e, he, rfl⟩ := List.mem_map.1 ((hranks.mem key).2 hoccurs)
    rw [hcount, ← hranks.count e he]
    exact he

end Tally

/-! ## Stretches -/

/-- What observers were told, divided by fresh starts: the events of the stretches that a fresh
    start has closed, and those of the current one. -/
structure Stretches where
  closed : List (List Event)
  current : List Event

namespace Stretches

/-- An event belongs to the current stretch, and a fresh start closes it. -/
def observe (s : Stretches) : Notice → Stretches
  | .unsupported e => { s with current := s.current ++ [e] }
  | .reset => ⟨s.closed ++ [s.current], []⟩

/-- The stretches of some notices. -/
def ofNotices (notices : List Notice) : Stretches := notices.foldl observe ⟨[], []⟩

/-- All stretches, in order. -/
def all (s : Stretches) : List (List Event) := s.closed ++ [s.current]

theorem ofNotices_concat (notices : List Notice) (last : Notice) :
    ofNotices (notices ++ [last]) = (ofNotices notices).observe last := List.foldl_append

end Stretches

/-! ## Counters -/

namespace Statistics

theorem told_concat (st : Statistics) (notices : List Notice) (last : Notice) :
    st.told (notices ++ [last]) = (st.told notices).observe last := List.foldl_append

/-- A new counter counts the events of the current stretch. -/
theorem told_empty (notices : List Notice) :
    let events := (Stretches.ofNotices notices).current
    empty.told notices = ⟨Tally.empty.addAll (events.map Event.family),
      Tally.empty.addAll (events.map Event.opcode)⟩ := by
  induction notices using List.reverseRecOn with
  | nil => rfl
  | append_singleton notices last ih =>
      dsimp only at ih ⊢
      rw [told_concat, ih, Stretches.ofNotices_concat]
      cases last with
      | reset => rfl
      | unsupported e =>
          simp only [Stretches.observe, observe, List.map_append, List.map_cons, List.map_nil,
            Tally.addAll_concat]

/-- Whatever events and fresh starts a new counter was told of, with any words, addresses and
    operations: its counts by family and by word, and both totals, are those of the events since the
    last fresh start. The ranking lists each family that occurs among them once, with its count. The
    counts do not rise, and families with equal counts stand in the order of their first occurrence
    since the last fresh start. -/
theorem shows_current (notices : List Notice) :
    let st := empty.told notices
    let events := (Stretches.ofNotices notices).current
    (∀ family, st.families.count family = events.countP (·.family = family)) ∧
      (∀ opcode, st.opcodes.count opcode = events.countP (·.opcode = opcode)) ∧
      st.total = events.length ∧ (st.opcodes.entries.map (·.2)).sum = events.length ∧
      (st.ranking.map (·.1)).Nodup ∧
      (∀ family n, (family, n) ∈ st.ranking ↔ 0 < n ∧ n = events.countP (·.family = family)) ∧
      st.ranking.Pairwise (fun entry later => later.2 ≤ entry.2) ∧
      st.ranking.Pairwise (fun entry later => entry.2 = later.2 →
        (events.map Event.family).idxOf entry.1 < (events.map Event.family).idxOf later.1) := by
  intro st events
  have htold : st = ⟨Tally.empty.addAll (events.map Event.family),
      Tally.empty.addAll (events.map Event.opcode)⟩ := told_empty notices
  have hfamilies : ∀ family, (events.map Event.family).count family =
      events.countP (·.family = family) := fun family => List.countP_map
  have hopcodes : ∀ opcode, (events.map Event.opcode).count opcode =
      events.countP (·.opcode = opcode) := fun opcode => List.countP_map
  have hranks := Tally.ranks_addAll (events.map Event.family)
  rw [htold]
  refine ⟨fun family => ?_, fun opcode => ?_, ?_, ?_, hranks.distinct, fun family n => ?_,
    hranks.falling, Tally.ranked_ties _⟩
  · rw [← hfamilies, Tally.count_addAll]
    exact Nat.zero_add _
  · rw [← hopcodes, Tally.count_addAll]
    exact Nat.zero_add _
  · rw [total, Tally.total_addAll, List.length_map]
    exact Nat.zero_add _
  · rw [← Tally.total_eq_sum, Tally.total_addAll, List.length_map]
    exact Nat.zero_add _
  · rw [← hfamilies]
    exact Tally.mem_ranked_iff _ family n

/-- Before the fresh start calls were ahead, behind it returns and jumps are level. -/
example : (empty.told [.unsupported ⟨0, 0x2300, .call⟩, .unsupported ⟨2, 0x2300, .call⟩, .reset,
      .unsupported ⟨-1, 0x00EE, .ret⟩, .unsupported ⟨0, 0x1200, .jump⟩,
      .unsupported ⟨2, 0x2300, .call⟩, .unsupported ⟨4, 0x1400, .jump⟩]).ranking =
    [("jump", 2), ("return", 1), ("call", 1)] := by cbv

end Statistics

end Chip8
