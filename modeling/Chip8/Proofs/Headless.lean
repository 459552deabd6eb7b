import Chip8.Proofs.Frames
import Chip8.Proofs.Ranking
import Chip8.Proofs.Transcript

set_option autoImplicit false

/-! # Headless runs add up

A launch loads its program and then runs its frames, if they can be counted out; if there are too
many of them, it is aborted before the first one (`Launch.run_of_tooManyFrames`). A launch that
comes to run its frames prints what was logged on the way, the final screen, and how many cycles
were executed and how many were skipped, in total and by family. What it prints is a function of the
program, the options on the log and the cycles alone (`Launch.transcript`). On a core machine the
cycles do not depend on how they are split into frames, so neither does what is printed. -/

namespace Chip8.CommandLine

/-- Arguments that lead to a run: they are accepted, what they name is there, the program fits, and
    the report passes the threshold of the log. -/
structure Launch (files : Files) (texts : List String) where
  arguments : Arguments
  path? : Option String
  config : Config
  program : List UInt8
  threshold : Level
  frames : Int
  cycles : Nat
  accepted : Arguments.ofTexts texts = .ok arguments
  path : arguments.options.config? = path?.map .value
  configured : Settings.load files path? arguments.overrides = .ok config
  readable : files.read arguments.rom = .ok program
  fits : program.length ≤ State.maxProgramSize
  level : ∃ text, arguments.options.logLevel = .value text ∧ Level.ofText? text = some threshold
  informs : threshold = .debug ∨ threshold = .info
  framesGiven : arguments.options.frames = .value frames
  cyclesGiven : arguments.options.cyclesPerFrame = .value cycles

/-! ## What is printed -/

/-- The observers of a run. -/
def observers (reportAll : Bool) : List Observer :=
  [.console (ConsoleReport.fresh (!reportAll)), .counting Statistics.empty]

/-- What is said of a program that was loaded. -/
def programLine (program : List UInt8) : String :=
  "Loaded program (" ++ toString (program.length : Int) ++ " bytes)"

/-- What is said of the cycles of a run. -/
def summaryLine (executed skipped : Nat) : String :=
  "Executed " ++ toString executed ++ " instructions, skipped " ++ toString skipped
    ++ " unsupported"

/-- What is said of a family of which words were skipped. -/
def familyLine (family : String) (count : Nat) : String := "  " ++ family ++ ": " ++ toString count

/-- What is logged while a program is loaded. -/
def loadingEntries (threshold : Level) (rom : String) (program : List UInt8) : List Entry :=
  (if threshold = .debug then [.line .debug (programLine program)] else []) ++
    [.line .info (Machine.loadedLine rom program)]

/-- The words that are reported while a program runs. -/
def warningEntries (reportAll : Bool) (played : Run) : List Entry :=
  (Observer.reports (observers reportAll) played.notices).map fun message => .line .warning message

/-- The families of which a run skipped words, ranked. -/
def rankedFamilies (played : Run) : List (String × Nat) :=
  (Statistics.empty.told played.notices).ranking

/-- The final screen and the account of the cycles. -/
def closingEntries (played : Run) : List Entry :=
  .text (played.state.screen.text ++ "\n") ::
    .line .info (summaryLine played.summary.executed played.summary.unsupported) ::
      (rankedFamilies played).map fun e => .line .info (familyLine e.1 e.2)

/-! ## Loading, running and reporting -/

theorem admits_of_informs {logger : Logger}
    (h : logger.threshold = .debug ∨ logger.threshold = .info) :
    logger.admits .info ∧ logger.admits .warning ∧
      (logger.admits .debug ↔ logger.threshold = .debug) := by
  unfold Logger.admits
  rcases h with h | h
  · rw [h]
    decide
  · rw [h]
    decide

theorem loadRom_make {files : Files} {rom : String} {program : List UInt8}
    (hread : files.read rom = .ok program) (hfits : program.length ≤ State.maxProgramSize)
    (config : Config) (reportAll : Bool) {logger : Logger}
    (hinforms : logger.threshold = .debug ∨ logger.threshold = .info) :
    (Machine.make config .zero (some (observers reportAll)) logger).loadRom files rom =
      .ok ⟨State.loaded config .zero program, observers reportAll,
        logger.putAll (loadingEntries logger.threshold rom program)⟩ := by
  have himage := HostOp.image?_load_of_fits files hfits
  have hload := State.load_of_loadedPart himage (State.initial config .zero)
  obtain ⟨hinfo, -, hdebug⟩ := admits_of_informs hinforms
  have hlogged : (logger.logAt .debug (programLine program)).logAt .info
      (Machine.loadedLine rom program) =
        logger.putAll (loadingEntries logger.threshold rom program) := by
    unfold loadingEntries
    by_cases hthreshold : logger.threshold = .debug
    · rw [if_pos hthreshold, Logger.logAt_of_admits (hdebug.2 hthreshold), Logger.putAll_append,
        Logger.logAt_of_admits ((logger.admits_putAll _).2 hinfo)]
    · rw [if_neg hthreshold, Logger.logAt_of_not_admits (mt hdebug.1 hthreshold),
        Logger.logAt_of_admits hinfo]
      rfl
  rw [Machine.loadRom_of_read files hread, Machine.load, Machine.make, hload, ← hlogged]
  rfl

theorem told_console (c : ConsoleReport) (notices : List Notice) :
    ∃ c', (Observer.console c).told notices = .console c' := by
  induction notices generalizing c with
  | nil => exact ⟨c, rfl⟩
  | cons notice notices ih => exact ih (c.observe notice).1

/-- The counter among the observers has counted what they were told. -/
theorem statisticsOf_told (reportAll : Bool) (notices : List Notice) :
    statisticsOf ((observers reportAll).map (·.told notices)) = Statistics.empty.told notices := by
  obtain ⟨c, hconsole⟩ := told_console (ConsoleReport.fresh (!reportAll)) notices
  have htold : (observers reportAll).map (·.told notices) =
      [.console c, .counting (Statistics.empty.told notices)] := by
    rw [observers, List.map_cons, List.map_cons, hconsole, Observer.told_counting]
    rfl
  rw [htold]
  rfl

theorem report_eq {m : Machine} (hinfo : m.logger.admits .info) (executed : Nat) :
    report m executed =
      m.logger.putAll (.text (m.state.screen.text ++ "\n") ::
        .line .info (summaryLine executed (statisticsOf m.observers).total) ::
          (statisticsOf m.observers).ranking.map fun e => .line .info (familyLine e.1 e.2)) := by
  let screen : Entry := .text (m.state.screen.text ++ "\n")
  let summary := summaryLine executed (statisticsOf m.observers).total
  have hscreen : (m.logger.putAll [screen]).admits .info := (m.logger.admits_putAll _).2 hinfo
  have hsummary : ((m.logger.putAll [screen]).putAll [.line .info summary]).admits .info :=
    (Logger.admits_putAll _ _).2 hscreen
  calc report m executed
      = (statisticsOf m.observers).ranking.foldl
          (fun l e => l.logAt .info (familyLine e.1 e.2))
          ((m.logger.putAll [screen]).logAt .info summary) := rfl
    _ = ((m.logger.putAll [screen]).putAll [.line .info summary]).putAll
          ((statisticsOf m.observers).ranking.map fun e => .line .info (familyLine e.1 e.2)) := by
        rw [Logger.logAt_of_admits hscreen, Logger.foldl_logAt_of_admits hsummary]
    _ = _ := rfl

/-- A machine that is reported on after a run prints the closing entries of the run. -/
theorem report_follow {s : State} {logger : Logger} (hinfo : logger.admits .info)
    (hwarning : logger.admits .warning) (reportAll : Bool) (played : Run) :
    report (Machine.follow ⟨s, observers reportAll, logger⟩ played) played.summary.executed =
      logger.putAll (warningEntries reportAll played ++ closingEntries played) := by
  let m : Machine := Machine.follow ⟨s, observers reportAll, logger⟩ played
  have hlogger : m.logger = logger.putAll (warningEntries reportAll played) := by
    refine (Machine.logger_tell _ _).trans ?_
    exact Logger.foldl_logAt_of_admits hwarning (fun message => message) _
  have hcounted : statisticsOf m.observers = Statistics.empty.told played.notices := by
    rw [← statisticsOf_told reportAll]
    exact congrArg statisticsOf (Machine.observers_tell _ _)
  have hskipped : (statisticsOf m.observers).total = played.summary.unsupported := by
    rw [hcounted, Statistics.total_told_notices]
    exact List.countP_eq_length_filter.symm
  have hadmits : m.logger.admits .info := by
    rw [hlogger, Logger.admits_putAll]
    exact hinfo
  rw [report_eq hadmits, hskipped, hcounted, hlogger, ← Logger.putAll_append]
  rfl

/-! ## Launches -/

namespace Launch

variable {files : Files} {texts : List String} (l : Launch files texts)

/-- The frames of a launch, on a fresh machine that has loaded the program. -/
def played : Run :=
  (State.loaded l.config .zero l.program).play (frameMoves l.cycles l.frames.toNat)

/-- All that a launch prints. -/
def transcript : List Entry :=
  loadingEntries l.threshold l.arguments.rom l.program ++
    (warningEntries l.arguments.options.reportAll l.played ++ closingEntries l.played)

/-- What the output of a launch is, by a clock. -/
def output (clock : Clock) : String :=
  ((Logger.start {} l.threshold clock).putAll l.transcript).written

/-- The machine that has loaded the program of a launch. -/
def loaded (clock : Clock) : Machine where
  state := State.loaded l.config .zero l.program
  observers := observers l.arguments.options.reportAll
  logger := (Logger.start {} l.threshold clock).putAll
    (loadingEntries l.threshold l.arguments.rom l.program)

theorem loadRom_eq (clock : Clock) :
    (Machine.make l.config .zero
      (some [.console (ConsoleReport.fresh (!l.arguments.options.reportAll)),
        .counting Statistics.empty]) (.start {} l.threshold clock)).loadRom files l.arguments.rom =
      .ok (l.loaded clock) :=
  loadRom_make l.readable l.fits l.config l.arguments.options.reportAll l.informs

theorem runConfigured_eq_runProgram (clock : Clock) :
    runConfigured files l.arguments (.start {} l.threshold clock) l.path? =
      runProgram files l.arguments (.start {} l.threshold clock) l.config := by
  rw [runConfigured, l.configured]

/-! ### Frames that can be counted out -/

section

variable (hframes : l.frames ≤ maxFrames)
include hframes

theorem runOptions_eq (m : Machine) (hm : m.state = State.loaded l.config .zero l.program) :
    runOptions l.arguments.options m = (m.follow l.played, .ok l.played.summary.executed) := by
  have hrun := runFrames_eq l.cycles l.frames.toNat m 0
  rw [hm, Nat.zero_add] at hrun
  simp only [runOptions, l.framesGiven, l.cyclesGiven, if_neg (Int.not_lt.2 hframes), hrun]
  rfl

theorem runProgram_eq (clock : Clock) :
    runProgram files l.arguments (.start {} l.threshold clock) l.config =
      ⟨.exit 0, l.output clock⟩ := by
  let logger : Logger := .start {} l.threshold clock
  have hinforms : logger.threshold = .debug ∨ logger.threshold = .info := l.informs
  obtain ⟨hinfo, hwarning, -⟩ := admits_of_informs hinforms
  let loading := loadingEntries l.threshold l.arguments.rom l.program
  have hreport : report ((l.loaded clock).follow l.played) l.played.summary.executed =
      logger.putAll l.transcript := by
    refine (report_follow ((logger.admits_putAll loading).2 hinfo)
      ((logger.admits_putAll loading).2 hwarning) _ _).trans ?_
    rw [← Logger.putAll_append]
    rfl
  simp only [runProgram, l.loadRom_eq, l.runOptions_eq hframes (l.loaded clock) rfl, hreport]
  rfl

theorem runConfigured_eq (clock : Clock) :
    runConfigured files l.arguments (.start {} l.threshold clock) l.path? =
      ⟨.exit 0, l.output clock⟩ :=
  (l.runConfigured_eq_runProgram clock).trans (l.runProgram_eq hframes clock)

theorem run_eq : run files texts = ⟨.exit 0, l.output .still⟩ :=
  (run_of_accepted l.accepted l.path l.level).trans (l.runConfigured_eq hframes .still)

end

/-! ### Too many frames -/

/-- A launch with more frames than can be counted out is aborted when its program has been loaded,
    whatever the cycles of a frame are. -/
theorem run_of_tooManyFrames (hframes : maxFrames < l.frames) :
    run files texts = ⟨.abort (.tooManyFrames l.frames), (l.loaded .still).logger.written⟩ := by
  have hrun : runOptions l.arguments.options (l.loaded .still) =
      (l.loaded .still, .error (.tooManyFrames l.frames)) := by
    simp only [runOptions, l.framesGiven, if_pos hframes]
  rw [run_of_accepted l.accepted l.path l.level, l.runConfigured_eq_runProgram]
  simp only [runProgram, l.loadRom_eq, hrun]

/-! ## Frames that do not show -/

/-- What is printed depends on the cycles and on the last screen alone. -/
theorem entries_congr {r r' : Run} (hcycles : r'.cycles = r.cycles)
    (hscreen : r'.state.screen = r.state.screen) (reportAll : Bool) :
    warningEntries reportAll r' = warningEntries reportAll r ∧
      closingEntries r' = closingEntries r := by
  have hnotices : r'.notices = r.notices := by
    simp only [Run.notices, Run.events, Run.unsupported, hcycles]
  have hsummary : r'.summary = r.summary := by
    simp only [Run.summary, hcycles]
  refine ⟨by rw [warningEntries, hnotices, warningEntries], ?_⟩
  rw [closingEntries, rankedFamilies, hnotices, hscreen, hsummary, closingEntries, rankedFamilies]

theorem played_of_core (hcore : l.config.extended = false) :
    l.played = (State.loaded l.config .zero l.program).trace (l.frames.toNat * l.cycles) :=
  (State.Intact.loaded hcore .zero l.program).play_frames l.cycles l.frames.toNat

variable {files' : Files} {texts' : List String} {l}

/-- Two launches of a program on core machines of any mode, with as many cycles altogether. -/
theorem played_congr_of_core {l' : Launch files' texts'} (hcore : l.config.extended = false)
    (hcore' : l'.config.extended = false) (hprogram : l'.program = l.program)
    (htotal : l'.frames.toNat * l'.cycles = l.frames.toNat * l.cycles) :
    l'.played.cycles = l.played.cycles ∧ l'.played.state.screen = l.played.state.screen := by
  obtain ⟨hcycles, hstate⟩ := State.trace_under_of_core (c := l'.config)
    (s := State.loaded l.config .zero l.program) hcore hcore' (l.frames.toNat * l.cycles)
  rw [l.played_of_core hcore, l'.played_of_core hcore', hprogram, htotal]
  have hscreen := congrArg State.screen hstate
  exact ⟨hcycles, hscreen⟩

theorem natCast_toNat_mul (k : Int) (n : Nat) : ((k.toNat * n : Nat) : Int) = max k 0 * n := by
  rw [Int.natCast_mul, Int.ofNat_toNat]

variable (l)

end Launch

end Chip8.CommandLine
