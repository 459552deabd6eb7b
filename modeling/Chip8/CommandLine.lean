import Chip8.CommandLine.Arguments
import Chip8.Machine
import Chip8.Screen.Text
import Chip8.Settings

set_option autoImplicit false

/-! # The command line

A run loads a program, runs it for some frames without a window, and prints the final screen and
what was skipped. Faults in the arguments or in the configuration end it with code 2, a program
that cannot be loaded with code 1. Some faults are not provided for, among them a number of frames
that is no size: they abort the run, after whatever has been printed. -/

namespace Chip8.CommandLine

/-- The faults that abort a run. -/
inductive Fault where
  /-- An option has no value where one is needed. -/
  | noValue (option : Switch)
  | level (cause : UnknownLevel)
  | settings (cause : Settings.SettingsError)
  | host (cause : HostError)
  /-- So many frames cannot be counted out. -/
  | tooManyFrames (count : Int)
deriving DecidableEq

/-- How a run ends. -/
inductive Ending where
  | exit (code : Nat)
  | abort (cause : Fault)
deriving DecidableEq

/-- What a run comes to: how it ends, and all that it has printed. -/
structure Result where
  ending : Ending
  output : String
deriving DecidableEq

/-- Whether a fault in the configuration is reported; the other ones abort the run. -/
def isReported : Settings.SettingsError → Bool
  | .file _ .nullCharacter => false
  | .file _ _ => true
  | .scalarDocument _ => true
  | .term _ => true
  | .grammar _ => true
  | .located _ => true
  | _ => false

/-- Run frames: a batch of cycles and a tick of the timers each. Counts the executed instructions.
    A batch that fails leaves the machine as it was. -/
def runFrames (cycles : Int) : Nat → Machine → Nat → Machine × Except HostError Nat
  | 0, m, executed => (m, .ok executed)
  | frames + 1, m, executed =>
    match m.cycles cycles with
    | .error cause => (m, .error cause)
    | .ok (m, summary) => runFrames cycles frames m.tick (executed + summary.executed)

/-- The most frames that can be counted out: their number is a size, and sizes are signed words of
    64 bits. -/
def maxFrames : Int := 0x7FFFFFFFFFFFFFFF

/-- Run as many frames as the options say. Frames are counted before the first one is run; the count
    of cycles is needed once there is a frame. -/
def runOptions (options : Options) (m : Machine) : Machine × Except Fault Nat :=
  match options.frames with
  | .blank => (m, .error (.noValue .frames))
  | .value frames =>
    if maxFrames < frames then (m, .error (.tooManyFrames frames))
    else match options.cyclesPerFrame with
      | .blank => (m, if 0 < frames then .error (.noValue .cyclesPerFrame) else .ok 0)
      | .value cycles =>
        let (m, outcome) := runFrames cycles frames.toNat m 0
        (m, outcome.mapError Fault.host)

/-- The counts of the first observer that counts. -/
def statisticsOf (observers : List Observer) : Statistics :=
  (observers.findSome? fun o => match o with
    | .counting s => some s
    | _ => none).getD Statistics.empty

/-- Print the final screen and what was executed and skipped. -/
def report (m : Machine) (executed : Nat) : Logger :=
  let statistics := statisticsOf m.observers
  let logger := m.logger.print (m.state.screen.text ++ "\n")
  let logger := logger.logAt .info
    ("Executed " ++ toString executed ++ " instructions, skipped " ++ toString statistics.total
      ++ " unsupported")
  statistics.ranking.foldl (fun l (family, count) =>
    l.logAt .info ("  " ++ family ++ ": " ++ toString count)) logger

/-- Run a program in a configuration. -/
def runProgram (files : Files) (arguments : Arguments) (logger : Logger) (config : Config) :
    Result :=
  let observers : List Observer :=
    [.console (ConsoleReport.fresh (!arguments.options.reportAll)), .counting Statistics.empty]
  let m := Machine.make config RandomKey.zero (some observers) logger
  match m.loadRom files arguments.rom with
  | .error cause => ⟨.exit 1, (logger.logAt .error ("Cannot load ROM: " ++ cause.message)).written⟩
  | .ok m =>
    match runOptions arguments.options m with
    | (m, .ok executed) => ⟨.exit 0, (report m executed).written⟩
    | (m, .error cause) => ⟨.abort cause, m.logger.written⟩

/-- Run with a logger and a file of settings, if there is one. -/
def runConfigured (files : Files) (arguments : Arguments) (logger : Logger)
    (path? : Option String) : Result :=
  match Settings.load files path? arguments.overrides with
  | .ok config => runProgram files arguments logger config
  | .error cause =>
    if isReported cause then
      ⟨.exit 2, (logger.logAt .error ("Invalid configuration: " ++ cause.message)).written⟩
    else ⟨.abort (.settings cause), logger.written⟩

/-- Run with arguments that have been read. -/
def runArguments (files : Files) (arguments : Arguments) : Result :=
  match arguments.options.logLevel with
  | .blank => ⟨.abort (.noValue .logLevel), ""⟩
  | .value level =>
    match Logger.make {} level Clock.still with
    | .error cause => ⟨.abort (.level cause), ""⟩
    | .ok logger =>
      match arguments.options.config? with
      | none => runConfigured files arguments logger none
      | some (.value path) => runConfigured files arguments logger (some path)
      | some .blank => ⟨.abort (.noValue .config), logger.written⟩

/-- Run with the given arguments. -/
def run (files : Files) (arguments : List String) : Result :=
  match Arguments.ofTexts arguments with
  | .error .help => ⟨.exit 0, ""⟩
  | .error _ => ⟨.exit 2, ""⟩
  | .ok arguments => runArguments files arguments

/-- Arguments that are accepted, with a level that there is and perhaps a file of settings, lead to
    a run with a fresh log. -/
theorem run_of_accepted {files : Files} {texts : List String} {arguments : Arguments}
    {path? : Option String} {threshold : Level}
    (haccepted : Arguments.ofTexts texts = .ok arguments)
    (hpath : arguments.options.config? = path?.map .value)
    (hlevel : ∃ text, arguments.options.logLevel = .value text ∧
      Level.ofText? text = some threshold) :
    run files texts = runConfigured files arguments (.start {} threshold .still) path? := by
  obtain ⟨text, htext, hthreshold⟩ := hlevel
  rw [run, haccepted]
  simp only [runArguments, htext, Logger.make, hthreshold, hpath]
  cases path? with
  | none => rfl
  | some path => rfl

/-- The file of settings that options name, as it is looked up. -/
def Options.configPath? (options : Options) : Option String :=
  match options.config? with
  | some (.value path) => some (Settings.filePath path)
  | _ => none

/-- The files that a run looks at. -/
def paths (arguments : List String) : List String :=
  match Arguments.ofTexts arguments with
  | .error _ => []
  | .ok arguments => arguments.rom :: arguments.options.configPath?.toList

/-- What is said when a run is aborted. -/
def Fault.message : Fault → String
  | noValue option => "no value for " ++ option.name
  | level cause => cause.message
  | settings cause => cause.message
  | host cause => cause.message
  | tooManyFrames count => "too many frames: " ++ toString count

end Chip8.CommandLine
