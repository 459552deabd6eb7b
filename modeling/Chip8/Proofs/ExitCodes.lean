import Chip8.CommandLine
import Chip8.Proofs.FaultKinds
import Chip8.Proofs.Isolation

set_option autoImplicit false

/-! # Exit codes

A run whose arguments are accepted ends with code 2 if its settings have a fault of a kind that is
reported, and with code 1 if its settings are good but its program cannot be loaded. Other faults in
settings are not provided for and abort the run (`Start.exit_codes`). To these belong all faults in
the text of a document, so that not every invalid configuration is reported. -/

namespace Chip8

open Settings (SettingsError)

/-! ## Kinds of faults -/

namespace CommandLine

/-- The kinds of the faults that are reported: those of settings as such, and those of the
    system. -/
def reportedKinds : List String :=
  ["ValidationError", "UnsupportedValueType", "KeyValidationError", "GrammarParseError",
   "ConfigKeyError", "ConfigTypeError", "ConfigIndexError", "InterpolationKeyError",
   "UnsupportedInterpolationType", "InterpolationToMissingValueError",
   "InterpolationValidationError", "InterpolationResolutionError", "OSError", "FileNotFoundError",
   "NotADirectoryError", "IsADirectoryError"]

/-- The kinds of the other faults: those of texts and documents, and slips in looking at them. -/
def abortingKinds : List String :=
  ["ReaderError", "ScannerError", "ParserError", "ComposerError", "ConstructorError", "ValueError",
   "OverflowError", "IndexError", "AttributeError", "KeyError", "UnicodeDecodeError", "TypeError",
   "NotImplementedError", "AssertionError"]

theorem not_mem_reportedKinds {kind : String} (h : kind ∈ abortingKinds) :
    kind ∉ reportedKinds := by
  have hdisjoint : ∀ kind ∈ abortingKinds, kind ∉ reportedKinds := by decide
  exact hdisjoint kind h

theorem termError_kind_mem (cause : Settings.TermError) : cause.kind ∈ reportedKinds := by
  cases cause <;> simp [Settings.TermError.kind, reportedKinds]

theorem cause_kind_mem (cause : Settings.Cause) : cause.kind ∈ reportedKinds := by
  cases cause with
  | term cause => exact termError_kind_mem cause
  | _ => simp [Settings.Cause.kind, reportedKinds]

theorem document_kind_mem (cause : Yaml.Error) : cause.kind ∈ abortingKinds := by
  cases cause <;> simp [Yaml.Error.kind, abortingKinds]

/-- The kind of an ordinary fault tells whether it is reported. -/
theorem kind_cases {cause : SettingsError} (h : cause.IsOrdinary) :
    isReported cause = true ∧ cause.kind ∈ reportedKinds ∨
      isReported cause = false ∧ cause.kind ∈ abortingKinds := by
  cases cause with
  | file path cause =>
      cases cause with
      | nullCharacter =>
          exact .inr ⟨rfl, by simp [SettingsError.kind, FileError.kind, abortingKinds]⟩
      | _ => exact .inl ⟨rfl, by simp [SettingsError.kind, FileError.kind, reportedKinds]⟩
  | document cause => exact .inr ⟨rfl, document_kind_mem cause⟩
  | term cause => exact .inl ⟨rfl, termError_kind_mem cause⟩
  | grammar cause =>
      have hkind : cause.kind = "GrammarParseError" := h
      exact .inl ⟨rfl, by simp [SettingsError.kind, hkind, reportedKinds]⟩
  | located fault => exact .inl ⟨rfl, cause_kind_mem fault.cause⟩
  | scalarDocument kind => exact .inl ⟨rfl, by simp [SettingsError.kind, reportedKinds]⟩
  | _ => exact .inr ⟨rfl, by simp [SettingsError.kind, abortingKinds]⟩

/-! ## Programs that cannot be loaded -/

/-- What is wrong with a program file: it cannot be read, or it does not fit. -/
inductive ProgramFault (files : Files) (path : String) : HostError → Prop where
  | unreadable {cause : FileError} (h : files.read path = .error cause) :
      ProgramFault files path (.file path cause)
  | tooLarge {program : List UInt8} (h : files.read path = .ok program)
      (hlarge : 3584 < program.length) :
      ProgramFault files path (.program (.tooLarge program.length))

variable {files files' : Files} {path : String}

theorem fault_or_fits (files : Files) (path : String) :
    (∃ cause, ProgramFault files path cause) ∨
      ∃ program, files.read path = .ok program ∧ program.length ≤ 3584 := by
  cases hread : files.read path with
  | error cause => exact .inl ⟨_, .unreadable hread⟩
  | ok program =>
      by_cases hlarge : 3584 < program.length
      · exact .inl ⟨_, .tooLarge hread hlarge⟩
      · exact .inr ⟨program, rfl, Nat.not_lt.1 hlarge⟩

theorem loadRom_of_fault {cause : HostError} (h : ProgramFault files path cause) (m : Machine) :
    m.loadRom files path = .error cause := by
  cases h with
  | unreadable hread =>
      rw [Machine.loadRom, hread]
      rfl
  | @tooLarge program hread hlarge =>
      have hvalid : ¬ ((program.length : Int) < 0 ∨ (program.length : Int) < program.length) := by
        omega
      have htooLarge : (State.maxProgramSize : Int) < program.length := Int.ofNat_lt.2 hlarge
      have hload : m.state.load program none = .error (.tooLarge program.length) := by
        rw [State.load, State.loadedPart, Option.getD_none, if_neg hvalid, if_pos htooLarge]
        rfl
      rw [Machine.loadRom_of_read files hread, Machine.load_error hload]
      rfl

theorem loadRom_of_fits {program : List UInt8} (hread : files.read path = .ok program)
    (hfits : program.length ≤ 3584) (m : Machine) :
    ∃ loaded, m.loadRom files path = .ok loaded := by
  have hload := State.load_of_loadedPart (HostOp.image?_load_of_fits files hfits) m.state
  obtain ⟨loaded, hloaded, -⟩ := Machine.load_ok hload
  refine ⟨loaded.logged .info (Machine.loadedLine path program), ?_⟩
  rw [Machine.loadRom_of_read files hread, hloaded]
  rfl

theorem runProgram_of_fault {arguments : Arguments} {cause : HostError}
    (h : ProgramFault files arguments.rom cause) (logger : Logger) (config : Config) :
    runProgram files arguments logger config =
      ⟨.exit 1, (logger.logAt .error ("Cannot load ROM: " ++ cause.message)).written⟩ := by
  simp only [runProgram, loadRom_of_fault h]

theorem ending_runProgram_of_fits {arguments : Arguments} {program : List UInt8}
    (hread : files.read arguments.rom = .ok program) (hfits : program.length ≤ 3584)
    (logger : Logger) (config : Config) {code : Nat}
    (h : (runProgram files arguments logger config).ending = .exit code) : code = 0 := by
  obtain ⟨loaded, hloaded⟩ := loadRom_of_fits hread hfits (Machine.make config .zero
    (some [.console (ConsoleReport.fresh (!arguments.options.reportAll)),
      .counting Statistics.empty]) logger)
  unfold runProgram at h
  dsimp only at h
  rw [hloaded] at h
  dsimp only at h
  -- the frames are run, or a fault of the options or of the machine aborts the run
  split at h
  · exact (Ending.exit.inj h).symm
  · cases h

/-- A program ends a run with a code other than 0 only if it cannot be loaded. -/
theorem ending_runProgram_iff {arguments : Arguments} (logger : Logger) (config : Config)
    {code : Nat} (hcode : code ≠ 0) :
    (runProgram files arguments logger config).ending = .exit code ↔
      code = 1 ∧ ∃ cause, ProgramFault files arguments.rom cause := by
  rcases fault_or_fits files arguments.rom with ⟨cause, hfault⟩ | ⟨program, hread, hfits⟩
  · rw [runProgram_of_fault hfault]
    exact ⟨fun h => ⟨(Ending.exit.inj h).symm, cause, hfault⟩, fun h => by rw [h.1]⟩
  · constructor
    · intro h
      exact absurd (ending_runProgram_of_fits hread hfits logger config h) hcode
    · rintro ⟨rfl, cause, hfault⟩
      rw [runProgram_of_fault hfault]

/-! ## Settings that cannot be loaded -/

theorem runConfigured_of_error {arguments : Arguments} {path? : Option String}
    {cause : SettingsError} (h : Settings.load files path? arguments.overrides = .error cause)
    (logger : Logger) :
    runConfigured files arguments logger path? =
      if cause.kind ∈ reportedKinds then
        ⟨.exit 2, (logger.logAt .error ("Invalid configuration: " ++ cause.message)).written⟩
      else ⟨.abort (.settings cause), logger.written⟩ := by
  simp only [runConfigured, h]
  rcases kind_cases (Settings.ordinary_load _ _ _ _ h) with ⟨hreported, hkind⟩ | ⟨haborts, hkind⟩
  · rw [if_pos hreported, if_pos hkind]
  · rw [haborts, if_neg (not_mem_reportedKinds hkind)]
    rfl

/-- Settings depend on files through the file of settings alone. -/
theorem load_congr {path? : Option String}
    (h : ∀ path ∈ path?, files'.read (Settings.filePath path) = files.read (Settings.filePath path))
    (overrides : List String) :
    Settings.load files' path? overrides = Settings.load files path? overrides := by
  cases path? with
  | none => rfl
  | some path =>
      simp only [Settings.load, Settings.draft, Settings.readFile, h path rfl]

/-- A file that is no document makes loading fail, whatever the overrides are. -/
theorem load_of_document {path : String} {bytes : List UInt8} {text : String} {e : Yaml.Error}
    (hread : files.read (Settings.filePath path) = .ok bytes)
    (htext : Settings.decodeText bytes = .ok text) (hdocument : Yaml.Value.ofText text = .error e)
    (overrides : List String) :
    Settings.load files (some path) overrides = .error (.document e) := by
  have hentries : Settings.fileEntries text = .error (.document e) := by
    rw [Settings.fileEntries, Settings.readDocument, hdocument]
    rfl
  have hfile : Settings.readFile files path = .error (.document e) := by
    rw [Settings.readFile, hread]
    show (Settings.decodeText bytes >>= fun text => Settings.fileEntries text) = _
    rw [htext]
    exact hentries
  simp only [Settings.load, Settings.draft, hfile]
  rfl

/-! ## Runs -/

/-- Arguments that are accepted, with a level of the log and perhaps a file of settings. -/
structure Start (texts : List String) where
  arguments : Arguments
  path? : Option String
  threshold : Level
  accepted : Arguments.ofTexts texts = .ok arguments
  path : arguments.options.config? = path?.map .value
  level : ∃ text, arguments.options.logLevel = .value text ∧ Level.ofText? text = some threshold

namespace Start

variable {texts : List String} (s : Start texts)

/-- The log of a run. -/
def logger : Logger := .start {} s.threshold .still

/-- What loading the settings of a run comes to. -/
def loaded (files : Files) : Except SettingsError Config :=
  Settings.load files s.path? s.arguments.overrides

theorem run_eq_runConfigured (files : Files) :
    run files texts = runConfigured files s.arguments s.logger s.path? :=
  run_of_accepted s.accepted s.path s.level

variable {s} {config : Config} {cause : SettingsError}

theorem run_of_error (h : s.loaded files = .error cause) :
    run files texts =
      if cause.kind ∈ reportedKinds then
        ⟨.exit 2, (s.logger.logAt .error ("Invalid configuration: " ++ cause.message)).written⟩
      else ⟨.abort (.settings cause), ""⟩ :=
  (s.run_eq_runConfigured files).trans (runConfigured_of_error h s.logger)

theorem run_of_ok (h : s.loaded files = .ok config) :
    run files texts = runProgram files s.arguments s.logger config := by
  have hload : Settings.load files s.path? s.arguments.overrides = .ok config := h
  rw [s.run_eq_runConfigured, runConfigured, hload]

theorem kind_mem_abortingKinds (h : s.loaded files = .error cause)
    (hkind : cause.kind ∉ reportedKinds) : cause.kind ∈ abortingKinds := by
  rcases kind_cases (Settings.ordinary_load _ _ _ _ h) with ⟨-, hreported⟩ | ⟨-, haborting⟩
  · exact absurd hreported hkind
  · exact haborting

theorem ending_eq_two_iff : (run files texts).ending = .exit 2 ↔
    ∃ cause, s.loaded files = .error cause ∧ cause.kind ∈ reportedKinds := by
  cases hload : s.loaded files with
  | error cause =>
      rw [run_of_error hload]
      by_cases hkind : cause.kind ∈ reportedKinds
      · simp [hkind]
      · simp [hkind]
  | ok config =>
      rw [run_of_ok hload, ending_runProgram_iff s.logger config (by decide)]
      simp

theorem ending_eq_one_iff : (run files texts).ending = .exit 1 ↔
    (∃ config, s.loaded files = .ok config) ∧
      ∃ cause, ProgramFault files s.arguments.rom cause := by
  cases hload : s.loaded files with
  | error cause =>
      rw [run_of_error hload]
      by_cases hkind : cause.kind ∈ reportedKinds
      · simp [hkind]
      · simp [hkind]
  | ok config =>
      rw [run_of_ok hload, ending_runProgram_iff s.logger config (by decide)]
      simp

variable (s)

/-- A fault in the settings ends a run with code 2, and with a line that says so, if it is of a kind
    that is reported. If it is of another kind, the run is aborted and has printed nothing; in
    particular if the file of settings is no document. In both cases the program is not looked at.
    If the settings are good, a fault of the program ends the run with code 1. There are no other
    reasons for these codes. -/
theorem exit_codes (files : Files) :
    (∀ cause, s.loaded files = .error cause → cause.kind ∈ reportedKinds → run files texts =
        ⟨.exit 2, (s.logger.logAt .error ("Invalid configuration: " ++ cause.message)).written⟩) ∧
      (∀ cause, s.loaded files = .error cause → cause.kind ∉ reportedKinds →
        cause.kind ∈ abortingKinds ∧ run files texts = ⟨.abort (.settings cause), ""⟩) ∧
      (∀ cause, s.loaded files = .error cause → ∀ files' : Files, (∀ path ∈ s.path?,
          files'.read (Settings.filePath path) = files.read (Settings.filePath path)) →
        run files' texts = run files texts) ∧
      (∀ path ∈ s.path?, ∀ bytes text e, files.read (Settings.filePath path) = .ok bytes →
        Settings.decodeText bytes = .ok text → Yaml.Value.ofText text = .error e →
        run files texts = ⟨.abort (.settings (.document e)), ""⟩) ∧
      (∀ config cause, s.loaded files = .ok config → ProgramFault files s.arguments.rom cause →
        run files texts =
          ⟨.exit 1, (s.logger.logAt .error ("Cannot load ROM: " ++ cause.message)).written⟩) ∧
      ((run files texts).ending = .exit 2 ↔
        ∃ cause, s.loaded files = .error cause ∧ cause.kind ∈ reportedKinds) ∧
      ((run files texts).ending = .exit 1 ↔
        (∃ config, s.loaded files = .ok config) ∧
          ∃ cause, ProgramFault files s.arguments.rom cause) := by
  refine ⟨?_, ?_, ?_, ?_, ?_, ending_eq_two_iff, ending_eq_one_iff⟩
  · intro cause hload hkind
    rw [run_of_error hload, if_pos hkind]
  · intro cause hload hkind
    exact ⟨kind_mem_abortingKinds hload hkind, by rw [run_of_error hload, if_neg hkind]⟩
  · intro cause hload files' hfiles
    have hload' : s.loaded files' = .error cause :=
      (load_congr hfiles s.arguments.overrides).trans hload
    rw [run_of_error hload', run_of_error hload]
  · intro path hpath bytes text e hread htext hdocument
    have hsome : s.path? = some path := hpath
    have hload : s.loaded files = .error (.document e) := by
      rw [loaded, hsome]
      exact load_of_document hread htext hdocument _
    have hkind : (SettingsError.document e).kind ∉ reportedKinds :=
      not_mem_reportedKinds (document_kind_mem e)
    rw [run_of_error hload, if_neg hkind]
  · intro config cause hload hfault
    rw [run_of_ok hload, runProgram_of_fault hfault]

/-- A file of settings that is not there is reported before the program, and a program that is not
    there is reported if the settings are good. -/
theorem exit_codes_not_found :
    let files : Files := ⟨fun path => if path = "loop" then .ok [0x12, 0x00] else .error .notFound⟩
    let nothing : Files := ⟨fun _ => .error .notFound⟩
    let texts := ["loop", "--config", "settings"]
    (run files texts).ending = .exit 2 ∧ run nothing texts = run files texts ∧
      (run nothing ["lost", "modern_mode=false"]).ending = .exit 1 := by
  intro files nothing texts
  have hlevel : ∃ text, Setting.value "INFO" = .value text ∧ Level.ofText? text = some .info :=
    ⟨"INFO", rfl, by decide +kernel⟩
  let s : Start texts :=
    { arguments := ⟨"loop", [], { config? := some (.value "settings") }⟩
      path? := some "settings"
      threshold := .info
      accepted := by decide +kernel
      path := rfl
      level := hlevel }
  let s' : Start ["lost", "modern_mode=false"] :=
    { arguments := ⟨"lost", ["modern_mode=false"], {}⟩
      path? := none
      threshold := .info
      accepted := by decide +kernel
      path := rfl
      level := hlevel }
  obtain ⟨hreported, -, hsame, -⟩ := s.exit_codes files
  obtain ⟨-, -, -, -, hrefused, -⟩ := s'.exit_codes nothing
  have hload : Settings.load files (some "settings") [] = .error (.file "settings" .notFound) := by
    decide +kernel
  have hload' : Settings.load nothing none ["modern_mode=false"] = .ok ⟨.core, false⟩ := by
    decide +kernel
  have hkind : (SettingsError.file "settings" .notFound).kind ∈ reportedKinds := by decide
  refine ⟨by rw [hreported _ hload hkind], hsame _ hload nothing ?_, ?_⟩
  · intro path hpath
    obtain rfl : "settings" = path := Option.some.inj hpath
    decide +kernel
  · rw [hrefused _ _ hload' (.unreadable rfl)]

/-- An override whose value is no document is a fault in the settings, but the run is aborted. -/
theorem exit_codes_no_document :
    let files : Files := ⟨fun path => if path = "l.ch8" then .ok [0x12, 0x00] else .error .notFound⟩
    let texts := ["l.ch8", "--no-progress", "--frames", "2", "modern_mode=%x"]
    ∃ (s : Start texts) (cause : SettingsError), s.loaded files = .error cause ∧
      cause.kind = "ScannerError" ∧ run files texts = ⟨.abort (.settings cause), ""⟩ ∧
      (run files texts).ending ≠ .exit 2 := by
  intro files texts
  let s : Start texts :=
    { arguments := ⟨"l.ch8", ["modern_mode=%x"], { frames := .value 2 }⟩
      path? := none
      threshold := .info
      accepted := by decide +kernel
      path := rfl
      level := ⟨"INFO", rfl, by decide +kernel⟩ }
  let cause : SettingsError :=
    .document (.token .unknownDirective (.during .directive ⟨0, 0, 0⟩ ⟨2, 0, 2⟩))
  have hload : s.loaded files = .error cause := by decide +kernel
  have hrun : run files texts = ⟨.abort (.settings cause), ""⟩ := by
    rw [run_of_error hload, if_neg (by decide)]
  refine ⟨s, cause, hload, rfl, hrun, ?_⟩
  rw [hrun]
  simp

end Start

end CommandLine

end Chip8
