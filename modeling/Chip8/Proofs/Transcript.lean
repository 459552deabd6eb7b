import Chip8.Proofs.Notification

set_option autoImplicit false

/-! # Transcripts

What a run prints is a list of entries: log lines, and texts beside them. A logger writes the
entries one after the other, each line with a time stamp of its own; so runs with the same
transcript print the same apart from the time stamps (`Logger.written_putAll`). Calls below the
threshold leave no entry. -/

namespace Chip8

/-- Something printed: a log line, or a text beside the log. -/
inductive Entry where
  | line (level : Level) (message : String)
  | text (text : String)

namespace Logger

variable (l : Logger)

/-- Print an entry. -/
def put (l : Logger) : Entry → Logger
  | .line level message => l.write level.name message
  | .text text => l.print text

/-- Print entries, one after the other. -/
def putAll (entries : List Entry) : Logger := entries.foldl put l

/-- Whether lines of a level are written. -/
def admits (level : Level) : Prop := l.threshold.rank ≤ level.rank

theorem putAll_append (entries later : List Entry) :
    l.putAll (entries ++ later) = (l.putAll entries).putAll later := List.foldl_append

theorem threshold_putAll (entries : List Entry) : (l.putAll entries).threshold = l.threshold := by
  induction entries generalizing l with
  | nil => rfl
  | cons entry entries ih =>
      have hput : (l.put entry).threshold = l.threshold := by cases entry <;> rfl
      exact (ih (l.put entry)).trans hput

theorem admits_putAll {level : Level} (entries : List Entry) :
    (l.putAll entries).admits level ↔ l.admits level := by
  rw [admits, threshold_putAll, admits]

theorem passes_name (level : Level) : l.passes level.name = true ↔ l.admits level := by
  rw [passes, Level.rankOf_name, decide_eq_true_iff, admits]

theorem ofText_name (level : Level) : Text.Uppercase.ofText level.name = level.name := by
  cases level <;> decide +kernel

variable {l} {level : Level}

theorem logAt_of_admits (h : l.admits level) (message : String) :
    l.logAt level message = l.putAll [.line level message] := by
  simp only [logAt, log, ofText_name, (l.passes_name level).2 h, if_true]
  rfl

theorem logAt_of_not_admits (h : ¬ l.admits level) (message : String) :
    l.logAt level message = l := by
  have hfails := mt (l.passes_name level).1 h
  simp only [logAt, log, ofText_name, hfails, if_false, Bool.false_eq_true]

/-- The lines of a level that is written, one after the other. -/
theorem foldl_logAt_of_admits {α : Type} (h : l.admits level) (message : α → String) (as : List α) :
    as.foldl (fun l a => l.logAt level (message a)) l =
      l.putAll (as.map fun a => .line level (message a)) := by
  induction as generalizing l with
  | nil => rfl
  | cons a as ih =>
      rw [List.foldl_cons, logAt_of_admits h, ih ((l.admits_putAll _).2 h), ← putAll_append]
      rfl

/-! ## Time stamps -/

/-- An entry as it stands behind its time stamp. -/
def body (l : Logger) : Entry → String
  | .line level message => l.levelField level.name ++ "[" ++ l.name ++ "] " ++ message ++ "\n"
  | .text text => text

/-- What may stand in front of an entry: the time stamp of some reading of the clock, or nothing if
    the entry is a text or the log goes without. -/
def Stamps (l : Logger) : Entry → String → Prop
  | .line _ _, stamp =>
    ∃ clock, stamp = if l.timestamps then { l with clock := clock }.stamp else ""
  | .text _, stamp => stamp = ""

theorem written_put (l : Logger) (entry : Entry) :
    ∃ stamp, l.Stamps entry stamp ∧
      (l.put entry).written = l.written ++ (stamp ++ l.body entry) := by
  cases entry with
  | line level message =>
      refine ⟨_, ⟨l.clock, rfl⟩, ?_⟩
      simp only [put, write, Logger.line, body, String.append_assoc]
  | text text =>
      refine ⟨"", rfl, ?_⟩
      rw [String.empty_append]
      rfl

/-- Neither the clock nor what is written already shows in an entry, but for its time stamp. -/
theorem written_putAll (l : Logger) (entries : List Entry) :
    ∃ stamps, List.Forall₂ l.Stamps entries stamps ∧
      (l.putAll entries).written = l.written ++
        String.join (List.zipWith (· ++ ·) stamps (entries.map l.body)) := by
  induction entries generalizing l with
  | nil => exact ⟨[], .nil, String.append_empty.symm⟩
  | cons entry entries ih =>
      obtain ⟨stamp, hstamp, hfirst⟩ := l.written_put entry
      obtain ⟨stamps, hstamps, hrest⟩ := ih (l.put entry)
      have hsame : (l.put entry).body = l.body ∧ (l.put entry).Stamps = l.Stamps := by
        cases entry <;> exact ⟨rfl, rfl⟩
      rw [hsame.1, hfirst, String.append_assoc] at hrest
      rw [hsame.2] at hstamps
      refine ⟨stamp :: stamps, .cons hstamp hstamps, ?_⟩
      rw [List.map_cons, List.zipWith_cons_cons, String.join_cons]
      exact hrest

end Logger

/-! ## What observers report -/

/-- What observers report to the log while they are told notices, one after the other. -/
def Observer.reports : List Observer → List Notice → List String
  | _, [] => []
  | observers, notice :: notices =>
    (observeAll observers notice).2 ++ reports (observeAll observers notice).1 notices

/-- Telling observers writes what they report, and nothing else, to the log. -/
theorem Machine.logger_tell (m : Machine) (notices : List Notice) :
    (m.tell notices).logger = m.logger.warnAll (Observer.reports m.observers notices) := by
  induction notices generalizing m with
  | nil => rfl
  | cons notice notices ih =>
      rw [tell_cons, ih, Observer.reports, Logger.warnAll, Logger.warnAll, List.foldl_append]
      rfl

end Chip8
