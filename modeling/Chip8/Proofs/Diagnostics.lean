import Chip8.Proofs.History

set_option autoImplicit false

/-! # Diagnostics are complete and advisory

Whatever operations a machine goes through, each of its observers hears of every fresh start and of
every skipped cycle, once and in order, and of nothing else (`observers_applyAll`). So a counter
that was new at the beginning has counted the skipped cycles since the last fresh start, by family
and by word (`counts_told`). And nobody needs to listen: without observers the machine does and
answers the same (`applyAll_congr`). -/

namespace Chip8

/-! ## Parts of a tally -/

namespace Tally

variable {α : Type}

/-- The part of a tally whose keys satisfy a condition. -/
def restrict (t : Tally α) (p : α → Bool) : Tally α := ⟨t.entries.filter (p ·.1)⟩

theorem total_restrict_add [DecidableEq α] (t : Tally α) (p : α → Bool) (key : α) :
    ((t.add key).restrict p).total = (t.restrict p).total + if p key then 1 else 0 := by
  obtain ⟨entries⟩ := t
  simp only [total, restrict, add]
  induction entries with
  | nil =>
      simp only [bump, List.filter_cons]
      split <;> rfl
  | cons e rest ih =>
      obtain ⟨k, n⟩ := e
      unfold bump
      by_cases hk : k = key
      · subst hk
        simp only [if_true, List.filter_cons]
        split
        · simp only [List.foldr_cons]
          omega
        · rfl
      · simp only [hk, if_false, List.filter_cons]
        split
        · simp only [List.foldr_cons, ih]
          omega
        · exact ih

end Tally

/-! ## Counters -/

/-- A count that was told notices, one after the other. -/
def Statistics.told (st : Statistics) (notices : List Notice) : Statistics :=
  notices.foldl observe st

theorem Observer.told_counting (st : Statistics) (ns : List Notice) :
    (counting st).told ns = counting (st.told ns) := by
  induction ns generalizing st with
  | nil => rfl
  | cons n ns ih => exact ih (st.observe n)

/-- The family of the word that an integer is, if it is one. -/
def Word.familyOf? (k : Int) : Option String :=
  (ofInt? k).map fun w => (Instruction.decode w).operation.family

theorem Word.familyOf?_word (w : Word) :
    familyOf? w.toNat = some (Instruction.decode w).operation.family := by
  have hlt := w.toNat_lt
  have hword : ofInt? (w.toNat : Int) = some w := by
    rw [ofInt?, if_pos (by omega)]
    have hmod : ((w.toNat : Int) % 65536).toNat = w.toNat := by omega
    rw [hmod, UInt16.ofNat_toNat]
  rw [familyOf?, hword]
  rfl

/-- Whether this is a skipped cycle. -/
def Happening.isSkip : Happening → Bool
  | ran s => s.nextCycle.outcome = .unsupported
  | _ => false

theorem Happening.isSkip_ran (s : State) :
    (ran s).isSkip = true ↔ s.nextCycle.outcome = .unsupported :=
  decide_eq_true_iff

/-- How many cycles were skipped since the last fresh start, or at all if there was none. -/
def skippedSinceFresh (life : List Happening) : Nat := (sinceFresh life).countP Happening.isSkip

theorem skippedSinceFresh_fresh (life : List Happening) :
    skippedSinceFresh (life ++ [.fresh]) = 0 := by
  rw [skippedSinceFresh, sinceFresh_fresh]
  rfl

theorem skippedSinceFresh_concat (life : List Happening) (last : Happening)
    (h : last.isFresh = false) :
    skippedSinceFresh (life ++ [last]) =
      skippedSinceFresh life + if last.isSkip then 1 else 0 := by
  rw [skippedSinceFresh, sinceFresh_concat life h, List.countP_append, List.countP_singleton]
  rfl

/-- The counts are those of the skipped cycles of a life since the last fresh start: in total, over
    all words, and for each family over the words that decode to it. -/
structure Statistics.Counts (st : Statistics) (life : List Happening) : Prop where
  total : st.total = skippedSinceFresh life
  opcodes : st.opcodes.total = skippedSinceFresh life
  families : ∀ family, st.families.count family =
    (st.opcodes.restrict fun opcode => Word.familyOf? opcode = some family).total

/-- A counted cycle goes to the family that its word decodes to. -/
theorem Statistics.Counts.observe_skip {st : Statistics} {life : List Happening}
    (h : st.Counts life) {s : State} (hskip : s.nextCycle.outcome = .unsupported) :
    (st.observe (.unsupported (Event.ofCycle s.nextCycle))).Counts (life ++ [.ran s]) := by
  have hcount : skippedSinceFresh (life ++ [.ran s]) = skippedSinceFresh life + 1 := by
    rw [skippedSinceFresh_concat life (.ran s) rfl, if_pos ((Happening.isSkip_ran s).2 hskip)]
  refine ⟨?_, ?_, fun family => ?_⟩
  · rw [hcount, ← h.total]
    exact Tally.total_add _ _
  · rw [hcount, ← h.opcodes]
    exact Tally.total_add _ _
  -- the event has the family of its operation, and that is what its word decodes to
  · have hfamily : Word.familyOf? (Event.ofCycle s.nextCycle).opcode =
        some (Event.ofCycle s.nextCycle).family := Word.familyOf?_word s.nextWord
    show (st.families.add _).count family = ((st.opcodes.add _).restrict _).total
    rw [Tally.count_add, Tally.total_restrict_add, h.families, hfamily]
    simp only [Option.some.injEq, decide_eq_true_eq]

/-- What happens next changes the counts as it should: a fresh start clears them, a skipped cycle is
    counted, and nothing else is. -/
theorem Statistics.Counts.told {st : Statistics} {life : List Happening} (h : st.Counts life)
    (last : Happening) : (st.told last.notice?.toList).Counts (life ++ [last]) := by
  cases last with
  | fresh =>
      have hcount := skippedSinceFresh_fresh life
      exact ⟨hcount.symm, hcount.symm, fun _ => rfl⟩
  | ticked =>
      have hcount := skippedSinceFresh_concat life .ticked rfl
      exact ⟨h.total.trans hcount.symm, h.opcodes.trans hcount.symm, h.families⟩
  | ran s =>
      by_cases hskip : s.nextCycle.outcome = .unsupported
      · rw [Happening.notice?, if_pos hskip]
        exact h.observe_skip hskip
      · have hnot : ¬ (Happening.ran s).isSkip = true := mt (Happening.isSkip_ran s).1 hskip
        have hcount : skippedSinceFresh (life ++ [.ran s]) = skippedSinceFresh life := by
          rw [skippedSinceFresh_concat life (.ran s) rfl, if_neg hnot, Nat.add_zero]
        rw [Happening.notice?, if_neg hskip]
        exact ⟨h.total.trans hcount.symm, h.opcodes.trans hcount.symm, h.families⟩

/-- A new counter has the counts of whatever life it was told of. The induction is on the life from
    its end, where the counters change. -/
theorem Statistics.counts_told (life : List Happening) :
    (Statistics.empty.told (life.filterMap Happening.notice?)).Counts life := by
  induction life using List.reverseRecOn with
  | nil => exact ⟨rfl, rfl, fun _ => rfl⟩
  | append_singleton life last ih =>
      have htold : Statistics.empty.told ((life ++ [last]).filterMap Happening.notice?) =
          (Statistics.empty.told (life.filterMap Happening.notice?)).told last.notice?.toList := by
        have hlast : [last].filterMap Happening.notice? = last.notice?.toList := by
          rw [List.filterMap_cons]
          cases last.notice? <;> rfl
        rw [List.filterMap_append, hlast]
        exact List.foldl_append
      rw [htold]
      exact ih.told last

namespace Machine

/-- Diagnostics are complete and advisory, for every machine, with any observers, and every list of
    operations, failed ones among them. All observers are told the same: one notice of each fresh
    start and one of each skipped cycle, in the order in which they happened; one that records has
    just these on its record. A counter that was new when the operations began has counted the
    skipped cycles since the last fresh start, in total, by word and by family. And without any
    observers, the machine would be in the same state and have answered the same. -/
theorem diagnostics_complete_and_advisory (files : Files) (m : Machine) (ops : List HostOp) :
    let life := m.life files ops
    let observers := (m.applyAll files ops).1.observers
    let unobserved : Machine := { m with observers := [] }
    observers = m.observers.map (·.told (life.filterMap Happening.notice?)) ∧
      (∀ i : Nat, m.observers[i]? = some (.recording []) →
        observers[i]? = some (.recording (life.filterMap Happening.notice?).reverse)) ∧
      (∀ i : Nat, m.observers[i]? = some (.counting .empty) →
        ∃ st, observers[i]? = some (.counting st) ∧
          st.total = skippedSinceFresh life ∧ st.opcodes.total = skippedSinceFresh life ∧
          ∀ family, st.families.count family =
            (st.opcodes.restrict fun opcode => Word.familyOf? opcode = some family).total) ∧
      (m.applyAll files ops).1.state = (unobserved.applyAll files ops).1.state ∧
      (m.applyAll files ops).2 = (unobserved.applyAll files ops).2 := by
  intro life observers unobserved
  have htold : observers = m.observers.map (·.told (life.filterMap Happening.notice?)) :=
    observers_applyAll files m ops
  have hstate : m.state = unobserved.state := rfl
  refine ⟨htold, fun i hi => ?_, fun i hi => ?_, applyAll_congr files hstate ops⟩
  · rw [htold, List.getElem?_map, hi, Option.map_some, Observer.told_recording, List.append_nil]
  · have hcounts := Statistics.counts_told life
    refine ⟨_, ?_, hcounts.total, hcounts.opcodes, hcounts.families⟩
    rw [htold, List.getElem?_map, hi, Option.map_some, Observer.told_counting]

/-- A core machine that skips a word before its program is loaded and three words of the program,
    while four operations fail. -/
theorem diagnostics_complete_and_advisory_core :
    let files : Files := ⟨fun _ => .error .notFound⟩
    let m : Machine := .make {} .zero (some [.recording [], .counting .empty])
      (.start {} .info .still)
    let ops : List HostOp :=
      [.cycle, .load [0x00, 0xEE, 0x60, 0x05, 0x00, 0xEE, 0xF1, 0x07] none, .cycles 2,
        .load [] (some 9), .cycles (-1), .setKey 16 true, .cycle, .loadRom "missing", .cycle, .tick]
    let observers := (m.applyAll files ops).1.observers
    m.observers[0]? = some (.recording []) ∧ m.observers[1]? = some (.counting .empty) ∧
      observers[0]? = some (.recording
        [.unsupported ⟨0x206, 0xF107, .misc⟩, .unsupported ⟨0x204, 0x00EE, .ret⟩,
          .unsupported ⟨0x200, 0x00EE, .ret⟩, .reset, .unsupported ⟨0x200, 0x0000, .unknown⟩]) ∧
      ∃ st, observers[1]? = some (.counting st) ∧ st.total = 3 ∧ st.opcodes.total = 3 := by
  intro files m ops observers
  obtain ⟨-, hrecording, hcounting, -⟩ := diagnostics_complete_and_advisory files m ops
  have hnotices : ((m.life files ops).filterMap Happening.notice?).reverse =
      [.unsupported ⟨0x206, 0xF107, .misc⟩, .unsupported ⟨0x204, 0x00EE, .ret⟩,
        .unsupported ⟨0x200, 0x00EE, .ret⟩, .reset, .unsupported ⟨0x200, 0x0000, .unknown⟩] := by
    decide +kernel
  have hskipped : skippedSinceFresh (m.life files ops) = 3 := by decide +kernel
  obtain ⟨st, hst, htotal, hopcodes, -⟩ := hcounting 1 rfl
  refine ⟨rfl, rfl, ?_, st, hst, htotal.trans hskipped, hopcodes.trans hskipped⟩
  rw [← hnotices]
  exact hrecording 0 rfl

end Machine

end Chip8
