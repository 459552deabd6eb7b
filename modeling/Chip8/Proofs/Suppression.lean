import Chip8.Proofs.Transcript
import Mathlib.Logic.Function.Iterate

set_option autoImplicit false

/-! # Suppressed calls

A logger passes over the calls below its threshold: they write nothing and do not look at the clock.
So a higher threshold has the effect of leaving these calls out (`Logger.withThreshold_logAll`). Of
the others each writes one line, the `k`-th one with the `k`-th reading of the clock
(`Logger.logAll_of_keeps`). -/

namespace Chip8

/-! ## Places of levels -/

namespace Level

/-- The place in the order of importance of a level that is given as text, in any case. Texts that
    name no level have the place of `INFO`. -/
def place (text : String) : Nat :=
  let names := all.map name
  let upper := Text.Uppercase.ofText text
  if upper ∈ names then names.idxOf upper else names.idxOf "INFO"

theorem idxOf_name (level : Level) : (all.map name).idxOf level.name = level.rank := by
  cases level <;> decide

theorem ofName?_of_not_mem {text : String} (h : text ∉ all.map name) : ofName? text = none := by
  refine List.find?_eq_none.2 fun level hlevel hname => h ?_
  exact List.mem_map.2 ⟨level, hlevel, eq_of_beq hname⟩

theorem rankOf_of_not_mem {text : String} (h : text ∉ all.map name) :
    rankOf text = info.rank := by
  rw [rankOf, ofName?_of_not_mem h]
  rfl

/-- Ranks are places. -/
theorem rankOf_ofText (text : String) : rankOf (Text.Uppercase.ofText text) = place text := by
  by_cases hmem : Text.Uppercase.ofText text ∈ all.map name
  · obtain ⟨level, -, hname⟩ := List.mem_map.1 hmem
    rw [place, if_pos hmem, ← hname, rankOf_name, idxOf_name]
  · rw [place, if_neg hmem, rankOf_of_not_mem hmem]
    exact (idxOf_name info).symm

end Level

namespace Logger

variable {l : Logger} {call : LogCall} {threshold : Level}

/-! ## Calls that pass and calls that do not -/

/-- Whether a call passes the threshold. -/
def keeps (l : Logger) (call : LogCall) : Bool := l.passes (Text.Uppercase.ofText call.level)

theorem keeps_iff : l.keeps call = true ↔ l.threshold.rank ≤ Level.place call.level := by
  rw [keeps, passes, decide_eq_true_iff, Level.rankOf_ofText]

theorem log_of_keeps (h : l.keeps call = true) :
    l.log call = l.write (Text.Uppercase.ofText call.level) call.message := if_pos h

theorem log_of_not_keeps (h : ¬ l.keeps call = true) : l.log call = l := if_neg h

/-! ## Thresholds -/

/-- A logger with another threshold. -/
def withThreshold (l : Logger) (threshold : Level) : Logger := { l with threshold := threshold }

/-- Up to the threshold, a logger is one with a lower threshold that is told the calls that pass. -/
theorem withThreshold_logAll (hlower : threshold.rank ≤ l.threshold.rank) (calls : List LogCall) :
    (l.logAll calls).withThreshold threshold =
      (l.withThreshold threshold).logAll (calls.filter l.keeps) := by
  induction calls generalizing l with
  | nil => rfl
  | cons call calls ih =>
      rw [logAll, List.foldl_cons]
      by_cases hkeeps : l.keeps call = true
      · have hkeeps' : (l.withThreshold threshold).keeps call = true :=
          keeps_iff.2 (Nat.le_trans hlower (keeps_iff.1 hkeeps))
        rw [log_of_keeps hkeeps, List.filter_cons_of_pos hkeeps, logAll, List.foldl_cons,
          log_of_keeps hkeeps']
        exact ih (l := l.write (Text.Uppercase.ofText call.level) call.message) hlower
      · rw [log_of_not_keeps hkeeps, List.filter_cons_of_neg hkeeps]
        exact ih hlower

theorem threshold_logAll (l : Logger) (calls : List LogCall) :
    (l.logAll calls).threshold = l.threshold := by
  induction calls generalizing l with
  | nil => rfl
  | cons call calls ih =>
      have hlog : (l.log call).threshold = l.threshold := by
        by_cases hkeeps : l.keeps call = true
        · rw [log_of_keeps hkeeps]
          rfl
        · rw [log_of_not_keeps hkeeps]
      exact (ih (l.log call)).trans hlog

/-! ## Lines -/

/-- The time stamp of the line that is written after `k` others. -/
def stampAfter (l : Logger) (k : Nat) : String :=
  if l.timestamps then { l with clock := Clock.advance^[k] l.clock }.stamp else ""

/-- What stands behind the time stamp in the line of a call. -/
def bodyOf (l : Logger) (call : LogCall) : String :=
  l.levelField (Text.Uppercase.ofText call.level) ++ "[" ++ l.name ++ "] " ++ call.message ++ "\n"

/-- The lines of calls that pass, the `k`-th one with the `k`-th reading of the clock. -/
def lines (l : Logger) (calls : List LogCall) : List String :=
  calls.mapIdx fun k call => l.stampAfter k ++ l.bodyOf call

theorem lines_cons (l : Logger) (call : LogCall) (calls : List LogCall) :
    l.lines (call :: calls) =
      l.line (Text.Uppercase.ofText call.level) call.message ::
        (l.write (Text.Uppercase.ofText call.level) call.message).lines calls := by
  have hfirst : l.stampAfter 0 ++ l.bodyOf call =
      l.line (Text.Uppercase.ofText call.level) call.message := by
    simp only [line, bodyOf, String.append_assoc]
    rfl
  have hlater (k : Nat) : l.stampAfter (k + 1) =
      (l.write (Text.Uppercase.ofText call.level) call.message).stampAfter k := by
    rw [stampAfter, stampAfter, Function.iterate_succ_apply]
    simp only [write]
    split <;> rfl
  rw [lines, List.mapIdx_cons, hfirst]
  simp only [hlater]
  rfl

/-- The line of a call that is written at a given time. -/
def lineAt (l : Logger) (time : Float) (call : LogCall) : String :=
  (if l.timestamps then { l with clock := ⟨time, []⟩ }.stamp else "") ++ l.bodyOf call

theorem lines_of_not_timestamps (h : ¬ l.timestamps = true) (calls : List LogCall) :
    l.lines calls = calls.map l.bodyOf := by
  have hline (k : Nat) (call : LogCall) : l.stampAfter k ++ l.bodyOf call = l.bodyOf call := by
    rw [stampAfter, if_neg h, String.empty_append]
  refine List.mapIdx_eq_iff.2 fun k => ?_
  rw [List.getElem?_map, funext (hline k)]

/-- If the clock shows the times of the calls, each line has the time of its call. -/
theorem lines_of_timed {now : Float} (timed : List (Float × LogCall))
    (hclock : l.clock = Clock.advance ⟨now, timed.map Prod.fst⟩) :
    l.lines (timed.map Prod.snd) = timed.map fun p => l.lineAt p.1 p.2 := by
  by_cases hstamps : l.timestamps = true
  · induction timed generalizing l now with
    | nil => rfl
    | cons p timed ih =>
        have hnow : l.clock = ⟨p.1, timed.map Prod.fst⟩ := hclock
        have hlater : (l.write (Text.Uppercase.ofText p.2.level) p.2.message).clock =
            Clock.advance ⟨p.1, timed.map Prod.fst⟩ := by
          simp only [write, hstamps, if_true, hnow]
        have hfirst : l.line (Text.Uppercase.ofText p.2.level) p.2.message = l.lineAt p.1 p.2 := by
          simp only [line, lineAt, bodyOf, stamp, hnow, String.append_assoc]
        rw [List.map_cons, List.map_cons, lines_cons, hfirst, ih hlater hstamps]
        rfl
  · have hline (p : Float × LogCall) : l.lineAt p.1 p.2 = l.bodyOf p.2 := by
      rw [lineAt, if_neg hstamps, String.empty_append]
    simp only [lines_of_not_timestamps hstamps, hline, List.map_map]
    rfl

/-- Each call that passes writes a line and, if lines carry time stamps, reads the clock. -/
theorem logAll_of_keeps (calls : List LogCall) (h : ∀ call ∈ calls, l.keeps call = true) :
    (l.logAll calls).written = l.written ++ String.join (l.lines calls) ∧
      (l.logAll calls).clock =
        Clock.advance^[if l.timestamps then calls.length else 0] l.clock := by
  induction calls generalizing l with
  | nil =>
      refine ⟨String.append_empty.symm, ?_⟩
      rw [List.length_nil, ite_self]
      rfl
  | cons call calls ih =>
      obtain ⟨hcall, hcalls⟩ := List.forall_mem_cons.1 h
      obtain ⟨hwritten, hclock⟩ :=
        ih (l := l.write (Text.Uppercase.ofText call.level) call.message) hcalls
      rw [logAll, List.foldl_cons, log_of_keeps hcall]
      constructor
      · rw [lines_cons, String.join_cons, ← String.append_assoc]
        exact hwritten
      · refine hclock.trans ?_
        by_cases hstamps : l.timestamps = true
        · simp only [write, hstamps, if_true, List.length_cons, Function.iterate_succ_apply]
        · simp only [write, hstamps, Bool.false_eq_true, if_false]

end Logger

/-! ## Calls by text and by name -/

/-- A call of a logger: at a level that is given as text, or at one of the known levels. -/
inductive LogRequest where
  | log (call : LogCall)
  | named (level : Level) (message : String)

/-- The level of a request, as text. -/
def LogRequest.level : LogRequest → String
  | .log call => call.level
  | .named level _ => level.name

/-- The message of a request. -/
def LogRequest.message : LogRequest → String
  | .log call => call.message
  | .named _ message => message

/-- A request as a call at a level that is given as text. -/
def LogRequest.call (r : LogRequest) : LogCall := ⟨r.level, r.message⟩

namespace Logger

/-- Log what is requested. -/
def answer (l : Logger) : LogRequest → Logger
  | .log call => l.log call
  | .named level message => l.logAt level message

/-- Log what is requested, one after the other. -/
def answerAll (l : Logger) (requests : List LogRequest) : Logger := requests.foldl answer l

theorem answer_eq (l : Logger) (r : LogRequest) : l.answer r = l.log r.call := by
  cases r <;> rfl

theorem answerAll_eq (l : Logger) (requests : List LogRequest) :
    l.answerAll requests = l.logAll (requests.map LogRequest.call) := by
  rw [logAll, List.foldl_map]
  simp only [answerAll, ← answer_eq]

/-! ## Two loggers -/

/-- The requests whose levels have at least the place of a level. -/
def atLeast (text : String) (requests : List LogRequest) : List LogRequest :=
  requests.filter fun r => Level.place text ≤ Level.place r.level

section

variable (options : LoggerOptions) (clock : Clock) {text : String} {level : Level}

theorem place_eq_rank (htext : Text.Uppercase.ofText text = level.name) :
    Level.place text = level.rank := by
  rw [← Level.rankOf_ofText, htext, Level.rankOf_name]

theorem make_of_ofText_eq (htext : Text.Uppercase.ofText text = level.name) :
    make options text clock = .ok (start options level clock) := by
  rw [make, Level.ofText?, htext, Level.ofName?_name]

theorem keeps_debug (call : LogCall) : (start options .debug clock).keeps call = true :=
  keeps_iff.2 (Nat.zero_le _)

/-- The calls of the requests that a logger keeps. -/
theorem map_call_atLeast (htext : Text.Uppercase.ofText text = level.name)
    (requests : List LogRequest) :
    (atLeast text requests).map LogRequest.call =
      (requests.map LogRequest.call).filter (start options level clock).keeps := by
  have hsame (r : LogRequest) : decide (Level.place text ≤ Level.place r.level) =
      (start options level clock).keeps r.call := by
    rw [Bool.eq_iff_iff, keeps_iff, decide_eq_true_iff, place_eq_rank htext]
    rfl
  rw [List.filter_map, atLeast]
  simp only [hsame]
  rfl

/-- Up to the threshold, a logger is one of the lowest threshold that is told what passes. -/
theorem withThreshold_answerAll (htext : Text.Uppercase.ofText text = level.name)
    (requests : List LogRequest) :
    ((start options level clock).answerAll requests).withThreshold .debug =
      (start options .debug clock).answerAll (atLeast text requests) := by
  have hlower : Level.debug.rank ≤ (start options level clock).threshold.rank := Nat.zero_le _
  rw [answerAll_eq, answerAll_eq, withThreshold_logAll hlower,
    map_call_atLeast options clock htext requests]
  rfl

/-- What a logger writes, and how far it reads the clock. -/
theorem answerAll_start (htext : Text.Uppercase.ofText text = level.name)
    (requests : List LogRequest) :
    let kept := atLeast text requests
    let l := (start options level clock).answerAll requests
    l.written = String.join ((start options .debug clock).lines (kept.map LogRequest.call)) ∧
      l.clock = Clock.advance^[if options.timestamps then kept.length else 0]
        (start options .debug clock).clock := by
  intro kept l
  obtain ⟨hwritten, hclock⟩ := logAll_of_keeps (l := start options .debug clock)
    (kept.map LogRequest.call) fun call _ => keeps_debug options clock call
  rw [← answerAll_eq, ← withThreshold_answerAll options clock htext] at hwritten hclock
  rw [List.length_map] at hclock
  exact ⟨hwritten.trans String.empty_append, hclock⟩

/-- A call that does not pass leaves no trace, whatever came before. -/
theorem answer_of_lt (htext : Text.Uppercase.ofText text = level.name)
    (requests : List LogRequest) {r : LogRequest} (h : Level.place r.level < Level.place text) :
    ((start options level clock).answerAll requests).answer r =
      (start options level clock).answerAll requests := by
  rw [answer_eq]
  refine log_of_not_keeps fun hkeeps => Nat.not_le.2 h ?_
  rw [keeps_iff, answerAll_eq, threshold_logAll] at hkeeps
  rw [place_eq_rank htext]
  exact hkeeps

theorem atLeast_sublist {lower : String} (h : Level.place lower ≤ Level.place text)
    (requests : List LogRequest) :
    (atLeast text requests).Sublist (atLeast lower requests) := by
  refine List.monotone_filter_right requests fun r hr => ?_
  exact decide_eq_true (Nat.le_trans h (of_decide_eq_true hr))

/-- A level that is none of the known ones passes exactly when `INFO` does. -/
theorem keeps_of_unknown {l : Logger} {level : String}
    (h : Text.Uppercase.ofText level ∉ Level.all.map Level.name) (message : String) :
    l.keeps ⟨level, message⟩ = l.keeps ⟨"INFO", message⟩ := by
  rw [keeps, keeps, passes, passes, Level.rankOf_of_not_mem h]
  exact congrArg (fun upper => decide (l.threshold.rank ≤ Level.rankOf upper))
    (ofText_name .info).symm

/-- With the times of the calls that pass as readings, a line depends on its call and time alone. -/
theorem written_timed (htext : Text.Uppercase.ofText text = level.name) (now : Float)
    (timed : List (Float × LogRequest)) :
    let kept := timed.filter fun p => Level.place text ≤ Level.place p.2.level
    let l := start options level ⟨now, kept.map Prod.fst⟩
    (l.answerAll (timed.map Prod.snd)).written =
      String.join (kept.map fun p => (start options .debug ⟨now, []⟩).lineAt p.1 p.2.call) := by
  intro kept l
  let calls : List (Float × LogCall) := kept.map fun p => (p.1, p.2.call)
  have htimes : kept.map Prod.fst = calls.map Prod.fst := by
    rw [List.map_map]
    rfl
  have hcalls : (atLeast text (timed.map Prod.snd)).map LogRequest.call = calls.map Prod.snd := by
    rw [atLeast, List.filter_map, List.map_map, List.map_map]
    rfl
  have hlines := lines_of_timed (l := start options .debug ⟨now, kept.map Prod.fst⟩) calls
    (congrArg (fun times => Clock.advance ⟨now, times⟩) htimes)
  rw [(answerAll_start options _ htext _).1, hcalls, hlines, List.map_map]
  rfl

/-- A logger of any level, given as text in any case, has written what a logger of level `DEBUG`
    with the same settings and the same clock has written of those requests whose levels have at
    least the place of its own: a line for each, the `k`-th one with the `k`-th reading of the clock
    behind the start. It has read the clock for no other call; a call that does not pass leaves the
    logger as it is. A logger of a lower level has written lines for the same requests and for more.
    If the clock shows the times of the calls that pass, a line depends on its call and time alone,
    so a higher level takes away whole lines. Unknown levels pass exactly when `INFO` does. -/
theorem threshold_only_omits (htext : Text.Uppercase.ofText text = level.name)
    (requests : List LogRequest) :
    ∃ l d : Logger, make options text clock = .ok l ∧ make options "DEBUG" clock = .ok d ∧
      (l.answerAll requests).written = (d.answerAll (atLeast text requests)).written ∧
      (l.answerAll requests).written =
        String.join (d.lines ((atLeast text requests).map LogRequest.call)) ∧
      (l.answerAll requests).clock =
        Clock.advance^[if options.timestamps then (atLeast text requests).length else 0] d.clock ∧
      (∀ r : LogRequest, Level.place r.level < Level.place text →
        (l.answerAll requests).answer r = l.answerAll requests) ∧
      (∀ {lower : String} {below : Level}, Text.Uppercase.ofText lower = below.name →
        Level.place lower ≤ Level.place text →
        ∃ l' : Logger, make options lower clock = .ok l' ∧
          (l'.answerAll requests).written =
            String.join (d.lines ((atLeast lower requests).map LogRequest.call)) ∧
          (atLeast text requests).Sublist (atLeast lower requests)) ∧
      (∀ (now : Float) (timed : List (Float × LogRequest)),
        let kept := timed.filter fun p => Level.place text ≤ Level.place p.2.level
        ∃ l' : Logger, make options text ⟨now, kept.map Prod.fst⟩ = .ok l' ∧
          (l'.answerAll (timed.map Prod.snd)).written =
            String.join (kept.map fun p =>
              (start options .debug ⟨now, []⟩).lineAt p.1 p.2.call)) ∧
      ∀ unknown message : String,
        Text.Uppercase.ofText unknown ∉ Level.all.map Level.name →
          l.keeps ⟨unknown, message⟩ = l.keeps ⟨"INFO", message⟩ := by
  have hdebug : Text.Uppercase.ofText "DEBUG" = Level.debug.name := ofText_name .debug
  obtain ⟨hwritten, hclock⟩ := answerAll_start options clock htext requests
  refine ⟨start options level clock, start options .debug clock,
    make_of_ofText_eq options clock htext, make_of_ofText_eq options clock hdebug, ?_, hwritten,
    hclock, fun _ => answer_of_lt options clock htext requests, ?_, ?_,
    fun _ message h => keeps_of_unknown h message⟩
  · rw [← withThreshold_answerAll options clock htext]
    rfl
  · intro lower below hlower hplace
    exact ⟨start options below clock, make_of_ofText_eq options clock hlower,
      (answerAll_start options clock hlower requests).1, atLeast_sublist hplace requests⟩
  · intro now timed kept
    exact ⟨_, make_of_ofText_eq options _ htext, written_timed options htext now timed⟩

end

/-- Between calls that do not pass, two that do: with the first two readings behind the start. -/
theorem threshold_only_omits_mixed_case :
    let options : LoggerOptions := { terminal := true }
    let clock : Clock := ⟨0.5, [1.25, 2.5, 9]⟩
    let requests : List LogRequest := [.named .debug "a", .log ⟨"trace", "b"⟩,
      .log ⟨"eRRor", "c"⟩, .named .info "d", .log ⟨"Critical", "e"⟩]
    let kept : List LogRequest := [.log ⟨"eRRor", "c"⟩, .log ⟨"Critical", "e"⟩]
    Text.Uppercase.ofText "Warning" = Level.warning.name ∧
      Text.Uppercase.ofText "info" = Level.info.name ∧
      ∃ l d l' : Logger, make options "Warning" clock = .ok l ∧
        make options "DEBUG" clock = .ok d ∧ make options "info" clock = .ok l' ∧
        (l.answerAll requests).written = (d.answerAll kept).written ∧
        (l.answerAll requests).written =
          "[    0.75s]\x1b[31m[   ERROR]\x1b[0m[chip8vm] c\n" ++
            "[    2.00s]\x1b[35m[CRITICAL]\x1b[0m[chip8vm] e\n" ∧
        (l.answerAll requests).clock = ⟨9, []⟩ ∧
        kept.Sublist (atLeast "info" requests) ∧
        l.keeps ⟨"trace", "b"⟩ = l.keeps ⟨"INFO", "b"⟩ := by
  intro options clock requests kept
  have hwarning : Text.Uppercase.ofText "Warning" = Level.warning.name := by decide +kernel
  have hinfo : Text.Uppercase.ofText "info" = Level.info.name := by decide +kernel
  have hplace : Level.place "info" ≤ Level.place "Warning" := by decide +kernel
  have hunknown : Text.Uppercase.ofText "trace" ∉ Level.all.map Level.name := by decide +kernel
  have hkept : atLeast "Warning" requests = kept := rfl
  obtain ⟨l, d, hl, hd, hdebug, hlines, hclock, -, hlower, -, hlevels⟩ :=
    threshold_only_omits options clock hwarning requests
  obtain ⟨l', hl', -, hsublist⟩ := hlower hinfo hplace
  have hstart : make options "DEBUG" clock = .ok (start options .debug clock) :=
    make_of_ofText_eq options clock (ofText_name .debug)
  obtain rfl : start options .debug clock = d := Except.ok.inj (hstart.symm.trans hd)
  rw [hkept] at hdebug hlines hclock hsublist
  refine ⟨hwarning, hinfo, l, _, l', hl, hd, hl', hdebug, hlines.trans ?_, hclock, hsublist,
    hlevels "trace" "b" hunknown⟩
  decide +kernel

end Logger

end Chip8
