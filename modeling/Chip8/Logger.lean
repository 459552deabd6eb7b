import Chip8.Decimal.Fixed
import Chip8.Text.Uppercase

set_option autoImplicit false

/-! # The console log

A logger writes lines of the form `[ time][   LEVEL][name] message`. Calls below its threshold
write nothing and do not look at the clock. Everything it has written is part of its value, and so
is the clock, which is a list of readings. -/

namespace Chip8

/-- The levels of importance. -/
inductive Level where
  | debug
  | info
  | warning
  | error
  | critical
deriving DecidableEq

namespace Level

/-- Every level, the least important first. -/
def all : List Level := [debug, info, warning, error, critical]

/-- The name of a level. -/
def name : Level → String
  | debug => "DEBUG"
  | info => "INFO"
  | warning => "WARNING"
  | error => "ERROR"
  | critical => "CRITICAL"

/-- The place of a level in the order of importance. -/
def rank : Level → Nat
  | debug => 0
  | info => 1
  | warning => 2
  | error => 3
  | critical => 4

/-- The level with a given name. -/
def ofName? (text : String) : Option Level := all.find? (·.name == text)

/-- The level that a text names in any case. -/
def ofText? (text : String) : Option Level := ofName? (Text.Uppercase.ofText text)

/-- The rank of an upper-case level text; texts that name no level rank with `info`. -/
def rankOf (text : String) : Nat := ((ofName? text).getD info).rank

theorem ofName?_name (level : Level) : ofName? level.name = some level := by
  cases level <;> decide

theorem rankOf_name (level : Level) : rankOf level.name = level.rank := by
  simp [rankOf, ofName?_name]

end Level

/-- A text that names no level. -/
structure UnknownLevel where
  text : String
deriving DecidableEq

/-- What is said of a text that names no level. -/
def UnknownLevel.message (e : UnknownLevel) : String :=
  "Unknown log level '" ++ e.text
    ++ "'. Available: ['DEBUG', 'INFO', 'WARNING', 'ERROR', 'CRITICAL']"

/-- Successive readings of a clock, in seconds. The last reading repeats. -/
structure Clock where
  now : Float
  later : List Float

namespace Clock

/-- A clock that stands at zero. -/
def still : Clock := ⟨0, []⟩

/-- The clock after one reading. -/
def advance (c : Clock) : Clock :=
  match c.later with
  | [] => c
  | reading :: rest => ⟨reading, rest⟩

end Clock

/-- How a logger is set up. Colours are used only on a terminal. -/
structure LoggerOptions where
  name : String := "chip8vm"
  colours : Bool := true
  terminal : Bool := false
  timestamps : Bool := true

/-- A console logger with all that it has written so far. -/
structure Logger where
  name : String
  threshold : Level
  coloured : Bool
  timestamps : Bool
  started : Float
  clock : Clock
  written : String

/-- One call: a level, in any case, and a message. -/
structure LogCall where
  level : String
  message : String

namespace Logger

/-- A new logger of a given threshold. Making it reads the clock once. -/
def start (options : LoggerOptions) (threshold : Level) (clock : Clock) : Logger where
  name := options.name
  threshold := threshold
  coloured := options.colours && options.terminal
  timestamps := options.timestamps
  started := clock.now
  clock := clock.advance
  written := ""

/-- A new logger whose threshold is given as text. -/
def make (options : LoggerOptions) (level : String) (clock : Clock) : Except UnknownLevel Logger :=
  match Level.ofText? level with
  | some threshold => .ok (start options threshold clock)
  | none => .error ⟨level⟩

/-- The code that ends every colour. -/
def plainCode : String := "\x1b[0m"

/-- The colour code of an upper-case level text. -/
def colourCode (level : String) : String :=
  match Level.ofName? level with
  | some .debug => "\x1b[36m"
  | some .info => "\x1b[32m"
  | some .warning => "\x1b[33m"
  | some .error => "\x1b[31m"
  | some .critical => "\x1b[35m"
  | none => if level = "RESET" then plainCode else ""

/-- Whether an upper-case level text passes the threshold. -/
def passes (l : Logger) (level : String) : Bool := l.threshold.rank ≤ Level.rankOf level

/-- The time stamp of a line: seconds since the start, with two places, in a field of eight. -/
def stamp (l : Logger) : String :=
  let elapsed := Decimal.Fixed.text 2 (Decimal.Binary.ofFloat (l.clock.now - l.started))
  "[" ++ String.ofList (Decimal.Fixed.rightAligned 8 elapsed) ++ "s]"

/-- The level field, right-aligned to eight characters and in colour on a terminal. -/
def levelField (l : Logger) (level : String) : String :=
  let field := "[" ++ String.ofList (Decimal.Fixed.rightAligned 8 level.toList) ++ "]"
  if l.coloured then colourCode level ++ field ++ plainCode else field

/-- The line of an upper-case level text and a message. -/
def line (l : Logger) (level message : String) : String :=
  (if l.timestamps then l.stamp else "") ++ l.levelField level ++ "[" ++ l.name ++ "] "
    ++ message ++ "\n"

/-- Write a line, reading the clock if lines carry time stamps. -/
def write (l : Logger) (level message : String) : Logger :=
  { l with
    clock := if l.timestamps then l.clock.advance else l.clock
    written := l.written ++ l.line level message }

/-- Log a message at a level, given in any case. -/
def log (l : Logger) (call : LogCall) : Logger :=
  let level := Text.Uppercase.ofText call.level
  if l.passes level then l.write level call.message else l

/-- Log a list of calls in order. -/
def logAll (l : Logger) (calls : List LogCall) : Logger := calls.foldl log l

/-- Log a message at one of the known levels. -/
def logAt (l : Logger) (level : Level) (message : String) : Logger :=
  l.log ⟨level.name, message⟩

/-- Log warnings in order. -/
def warnAll (l : Logger) (messages : List String) : Logger :=
  messages.foldl (·.logAt .warning ·) l

/-- Write a text as it stands, beside the log lines on the same output. -/
def print (l : Logger) (text : String) : Logger := { l with written := l.written ++ text }

end Logger

end Chip8
