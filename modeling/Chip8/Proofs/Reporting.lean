import Chip8.Proofs.Stretches
import Chip8.Proofs.Transcript

set_option autoImplicit false

/-! # Reporting each word once

A report to the log may pass over words that it has reported since the last fresh start. What it
remembers are the words of the current stretch (`Reporter.Keeps`), so it writes the lines of those
events whose words have not occurred earlier in their stretch, as many as a counter has words
(`Reporter.reports_agree`). -/

namespace Chip8

/-! ## Events with new words -/

namespace Event

/-- The events whose words have occurred neither earlier nor among the events of the past. -/
def newsAfter (past : List Event) : List Event → List Event
  | [] => []
  | e :: events =>
    if e.opcode ∈ past.map opcode then newsAfter (past ++ [e]) events
    else e :: newsAfter (past ++ [e]) events

/-- The events whose words have not occurred earlier. -/
def news (events : List Event) : List Event := newsAfter [] events

theorem newsAfter_concat (past events : List Event) (last : Event) :
    newsAfter past (events ++ [last]) = newsAfter past events ++
      if last.opcode ∈ (past ++ events).map opcode then [] else [last] := by
  induction events generalizing past with
  | nil =>
      rw [List.append_nil]
      rfl
  | cons e events ih =>
      rw [List.cons_append, newsAfter, newsAfter, ih, List.append_assoc, List.singleton_append]
      split
      · rfl
      · rfl

theorem news_concat (events : List Event) (last : Event) :
    news (events ++ [last]) =
      news events ++ if last.opcode ∈ events.map opcode then [] else [last] :=
  newsAfter_concat [] events last

theorem newsAfter_sublist (past events : List Event) : (newsAfter past events).Sublist events := by
  induction events generalizing past with
  | nil => exact .slnil
  | cons e events ih =>
      rw [newsAfter]
      split
      · exact (ih _).cons e
      · exact (ih _).cons_cons e

/-- A counter has an entry for the word of each such event. -/
theorem keys_opcodes (events : List Event) :
    (Tally.empty.addAll (events.map opcode)).keys = (news events).map opcode := by
  induction events using List.reverseRecOn with
  | nil => rfl
  | append_singleton events last ih =>
      rw [List.map_append, List.map_singleton, Tally.addAll_concat, Tally.keys_add, ih, news_concat]
      have hmem := Tally.mem_keys_empty_addAll (events.map opcode) last.opcode
      rw [ih] at hmem
      simp only [hmem]
      split
      · rw [List.append_nil]
      · rw [List.map_append, List.map_singleton]

theorem nodup_news (events : List Event) : ((news events).map opcode).Nodup := by
  rw [← keys_opcodes]
  exact Tally.nodup_keys_empty_addAll _

theorem mem_news (events : List Event) (word : Int) :
    word ∈ (news events).map opcode ↔ word ∈ events.map opcode := by
  rw [← keys_opcodes]
  exact Tally.mem_keys_empty_addAll _ word

/-- What a report writes about in a stretch: every event, or each word only once. -/
def reported (once : Bool) (events : List Event) : List Event :=
  if once then news events else events

theorem reported_concat (once : Bool) (events : List Event) (last : Event) :
    reported once (events ++ [last]) = reported once events ++
      if once = true ∧ last.opcode ∈ events.map opcode then [] else [last] := by
  cases once with
  | false => simp [reported]
  | true => simp only [reported, if_true, true_and, news_concat]

end Event

/-! ## Warnings -/

namespace Logger

variable {l : Logger}

/-- Without time stamps a warning is one line that does not depend on what was written before. -/
theorem written_warnAll (hstamps : l.timestamps = false) (hadmits : l.admits .warning)
    (messages : List String) :
    (l.warnAll messages).written = l.written ++
      String.join (messages.map (l.line Level.warning.name)) := by
  induction messages generalizing l with
  | nil => exact String.append_empty.symm
  | cons message messages ih =>
      have hfirst : l.logAt .warning message = l.write Level.warning.name message :=
        logAt_of_admits hadmits message
      have hsame : (l.write Level.warning.name message).line Level.warning.name =
          l.line Level.warning.name := by
        funext later
        simp only [line, write, hstamps]
        rfl
      have hrest := ih (l := l.write Level.warning.name message) hstamps hadmits
      rw [hsame] at hrest
      rw [warnAll, List.foldl_cons, hfirst, List.map_cons, String.join_cons, ← String.append_assoc]
      exact hrest

theorem warnAll_of_not_admits (h : ¬ l.admits .warning) (messages : List String) :
    l.warnAll messages = l := by
  induction messages with
  | nil => rfl
  | cons message messages ih => rwa [warnAll, List.foldl_cons, logAt_of_not_admits h]

theorem warnAll_append (l : Logger) (messages later : List String) :
    l.warnAll (messages ++ later) = (l.warnAll messages).warnAll later := List.foldl_append

end Logger

/-! ## Reports with a log of their own -/

/-- A console report, and the log that it writes to. -/
structure Reporter where
  report : ConsoleReport
  logger : Logger

namespace Reporter

/-- A report that has seen nothing. -/
def fresh (once : Bool) (logger : Logger) : Reporter := ⟨.fresh once, logger⟩

/-- Take notice, and log the line that is to be logged. -/
def observe (r : Reporter) (notice : Notice) : Reporter :=
  let (report, line?) := r.report.observe notice
  ⟨report, r.logger.warnAll line?.toList⟩

/-- Take notice of one thing after the other. -/
def told (r : Reporter) (notices : List Notice) : Reporter := notices.foldl observe r

/-- A report remembers the words of the current stretch if it needs them, and all that it has logged
    is what there was to report in the stretches so far. -/
structure Keeps (r : Reporter) (once : Bool) (l : Logger) (s : Stretches) : Prop where
  mode : r.report.once = once
  seen : once = true → ∀ opcode, opcode ∈ r.report.seen ↔ opcode ∈ s.current.map Event.opcode
  logger : r.logger = l.warnAll ((s.all.flatMap (Event.reported once)).map Event.text)

variable {r : Reporter} {once : Bool} {l : Logger} {s : Stretches}

theorem observe_of_passed {e : Event} (honce : r.report.once = true)
    (hmem : e.opcode ∈ r.report.seen) : r.observe (.unsupported e) = r := by
  simp only [observe, ConsoleReport.observe, honce, if_true, if_pos hmem]
  rfl

theorem observe_of_not_passed {e : Event}
    (h : ¬ (r.report.once = true ∧ e.opcode ∈ r.report.seen)) :
    ∃ seen, r.observe (.unsupported e) = ⟨⟨r.report.once, seen⟩, r.logger.warnAll [e.text]⟩ ∧
      (r.report.once = true → seen = e.opcode :: r.report.seen) := by
  by_cases honce : r.report.once = true
  · have hmem : e.opcode ∉ r.report.seen := fun hmem => h ⟨honce, hmem⟩
    refine ⟨e.opcode :: r.report.seen, ?_, fun _ => rfl⟩
    simp only [observe, ConsoleReport.observe, honce, if_true, if_neg hmem]
    rfl
  · refine ⟨r.report.seen, ?_, fun h => absurd h honce⟩
    simp only [observe, ConsoleReport.observe, if_neg honce]
    rfl

theorem keeps_fresh (once : Bool) (l : Logger) : (fresh once l).Keeps once l ⟨[], []⟩ := by
  refine ⟨rfl, fun _ _ => Iff.rfl, ?_⟩
  cases once <;> rfl

/-- An event adds what there is to report of it to what was reported in the current stretch. -/
theorem texts_observe (s : Stretches) (once : Bool) (e : Event) :
    ((s.observe (.unsupported e)).all.flatMap (Event.reported once)).map Event.text =
      (s.all.flatMap (Event.reported once)).map Event.text ++
        if once = true ∧ e.opcode ∈ s.current.map Event.opcode then [] else [e.text] := by
  simp only [Stretches.observe, Stretches.all, List.flatMap_append, List.flatMap_singleton,
    Event.reported_concat, List.map_append, List.append_assoc]
  split
  · rfl
  · rfl

theorem Keeps.event (h : r.Keeps once l s) (e : Event) :
    (r.observe (.unsupported e)).Keeps once l (s.observe (.unsupported e)) := by
  have hcurrent : (s.observe (.unsupported e)).current.map Event.opcode =
      s.current.map Event.opcode ++ [e.opcode] := List.map_append
  have htexts := texts_observe s once e
  by_cases hpassed : once = true ∧ e.opcode ∈ s.current.map Event.opcode
  · have hmem : e.opcode ∈ r.report.seen := (h.seen hpassed.1 _).2 hpassed.2
    rw [observe_of_passed (h.mode.trans hpassed.1) hmem]
    refine ⟨h.mode, fun honce opcode => ?_, ?_⟩
    · rw [hcurrent, List.mem_append, List.mem_singleton, ← h.seen honce]
      exact ⟨.inl, fun hor => hor.elim id fun heq => heq ▸ hmem⟩
    · rw [htexts, if_pos hpassed, List.append_nil]
      exact h.logger
  · have hnot : ¬ (r.report.once = true ∧ e.opcode ∈ r.report.seen) := by
      rintro ⟨honce, hmem⟩
      rw [h.mode] at honce
      exact hpassed ⟨honce, (h.seen honce _).1 hmem⟩
    obtain ⟨seen, hobserve, hseen⟩ := observe_of_not_passed hnot
    rw [hobserve]
    refine ⟨h.mode, fun honce opcode => ?_, ?_⟩
    · rw [hcurrent, List.mem_append, List.mem_singleton, ← h.seen honce,
        hseen (h.mode.trans honce), List.mem_cons, or_comm]
    · rw [htexts, if_neg hpassed, Logger.warnAll_append, ← h.logger]

theorem Keeps.observe (h : r.Keeps once l s) (notice : Notice) :
    (r.observe notice).Keeps once l (s.observe notice) := by
  cases notice with
  | unsupported e => exact h.event e
  | reset =>
      refine ⟨h.mode, fun _ _ => Iff.rfl, ?_⟩
      have hempty : Event.reported once [] = [] := by cases once <;> rfl
      have hall : (s.observe .reset).all.flatMap (Event.reported once) =
          s.all.flatMap (Event.reported once) := by
        simp only [Stretches.observe, Stretches.all, List.flatMap_append, List.flatMap_singleton,
          hempty, List.append_nil]
      rw [hall]
      exact h.logger

theorem Keeps.told (h : r.Keeps once l s) (notices : List Notice) :
    (r.told notices).Keeps once l (notices.foldl Stretches.observe s) := by
  induction notices generalizing r s with
  | nil => exact h
  | cons notice notices ih => exact ih (h.observe notice)

/-- The lines that events have in a log without time stamps. -/
def lines (l : Logger) (events : List Event) : List String :=
  events.map fun e => l.line Level.warning.name e.text

theorem written_told (hstamps : l.timestamps = false) (hadmits : l.admits .warning)
    (notices : List Notice) :
    ((fresh once l).told notices).logger.written = l.written ++ String.join
      ((Stretches.ofNotices notices).all.flatMap fun events =>
        lines l (Event.reported once events)) := by
  rw [((keeps_fresh once l).told notices).logger, Logger.written_warnAll hstamps hadmits,
    List.map_map, List.map_flatMap]
  rfl

theorem told_of_not_admits (h : ¬ l.admits .warning) (notices : List Notice) :
    ((fresh once l).told notices).logger = l := by
  rw [((keeps_fresh once l).told notices).logger, Logger.warnAll_of_not_admits h]

/-- Two reports, one of all events and one of each word once, and a counter, all of them new, are
    told the same. If the logs admit warnings and have no time stamps, the first report has written
    a line for every event of every stretch, in order, and the second one the same lines but those
    of events whose words have occurred earlier in their stretch. So these have each word of the
    stretch, and none of them twice. In the current stretch the first report has as many lines as
    the counter has events in total, and the second one as many as the counter has words. A log that
    does not admit warnings stays as it was. -/
theorem reports_agree {every once : Logger} (hevery : every.timestamps = false)
    (honce : once.timestamps = false) (notices : List Notice) :
    let stretches := Stretches.ofNotices notices
    let all := (fresh false every).told notices
    let deduplicated := (fresh true once).told notices
    let st := Statistics.empty.told notices
    (every.admits .warning → all.logger.written =
        every.written ++ String.join (stretches.all.flatMap (lines every))) ∧
      (once.admits .warning → deduplicated.logger.written =
        once.written ++ String.join (stretches.all.flatMap fun events =>
          lines once (Event.news events))) ∧
      (∀ events : List Event, (Event.news events).Sublist events ∧
        ((Event.news events).map Event.opcode).Nodup ∧
        ∀ opcode, opcode ∈ (Event.news events).map Event.opcode ↔
          opcode ∈ events.map Event.opcode) ∧
      (lines every stretches.current).length = st.total ∧
      (lines once (Event.news stretches.current)).length = st.opcodes.keys.length ∧
      (¬ every.admits .warning → all.logger = every) ∧
      (¬ once.admits .warning → deduplicated.logger = once) := by
  intro stretches all deduplicated st
  have htold : st = ⟨Tally.empty.addAll (stretches.current.map Event.family),
      Tally.empty.addAll (stretches.current.map Event.opcode)⟩ := Statistics.told_empty notices
  refine ⟨fun h => written_told hevery h notices, fun h => written_told honce h notices,
    fun events => ⟨Event.newsAfter_sublist [] events, Event.nodup_news events,
      Event.mem_news events⟩, ?_, ?_,
    fun h => told_of_not_admits h notices, fun h => told_of_not_admits h notices⟩
  · rw [lines, List.length_map, Statistics.total, htold, Tally.total_addAll, List.length_map]
    exact (Nat.zero_add _).symm
  · rw [lines, List.length_map, htold, Event.keys_opcodes, List.length_map]

/-- A call is skipped twice before a fresh start and once behind it, where it is news again. -/
theorem reports_agree_repeated :
    let every := Logger.start { timestamps := false } .info .still
    let once := Logger.start { timestamps := false, terminal := true } .warning .still
    let silent := Logger.start { timestamps := false } .error .still
    let notices : List Notice :=
      [.unsupported ⟨0x200, 0x2300, .call⟩, .unsupported ⟨-2, 0x8008, .unknown⟩,
        .unsupported ⟨0x204, 0x2300, .call⟩, .reset, .unsupported ⟨0x1206, 0x2300, .call⟩]
    every.timestamps = false ∧ once.timestamps = false ∧ silent.timestamps = false ∧
      every.admits .warning ∧ once.admits .warning ∧ ¬ silent.admits .warning ∧
      ((fresh false every).told notices).logger.written =
        "[ WARNING][chip8vm] unsupported call (0x2300) at 0x0200\n" ++
          "[ WARNING][chip8vm] unknown opcode 0x8008 at 0x-002\n" ++
          "[ WARNING][chip8vm] unsupported call (0x2300) at 0x0204\n" ++
          "[ WARNING][chip8vm] unsupported call (0x2300) at 0x1206\n" ∧
      ((fresh true once).told notices).logger.written =
        "\x1b[33m[ WARNING]\x1b[0m[chip8vm] unsupported call (0x2300) at 0x0200\n" ++
          "\x1b[33m[ WARNING]\x1b[0m[chip8vm] unknown opcode 0x8008 at 0x-002\n" ++
          "\x1b[33m[ WARNING]\x1b[0m[chip8vm] unsupported call (0x2300) at 0x1206\n" ∧
      ((fresh true silent).told notices).logger.written = "" := by
  intro every once silent notices
  have heveryPlain : every.timestamps = false := rfl
  have honcePlain : once.timestamps = false := rfl
  have hsilentPlain : silent.timestamps = false := rfl
  have hevery : every.admits .warning := by
    show 1 ≤ 2
    decide
  have honce : once.admits .warning := le_refl 2
  have hsilent : ¬ silent.admits .warning := by
    show ¬ 3 ≤ 2
    decide
  obtain ⟨hall, hnews, -⟩ := reports_agree heveryPlain honcePlain notices
  obtain ⟨-, -, -, -, -, -, hnothing⟩ := reports_agree hsilentPlain hsilentPlain notices
  refine ⟨heveryPlain, honcePlain, hsilentPlain, hevery, honce, hsilent, (hall hevery).trans ?_,
    (hnews honce).trans ?_, ?_⟩
  · decide +kernel
  · decide +kernel
  · rw [hnothing hsilent]
    rfl

end Reporter

end Chip8
