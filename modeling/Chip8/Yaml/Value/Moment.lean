import Chip8.Yaml.Atom

set_option autoImplicit false

/-! # Days and times

A day is written as a year of four digits, a month and a day with dashes between them. A time may
follow, and behind that an offset from universal time. First the form of a text is read, then the
numbers in it are checked, the offset before the day and the day before the time. -/

namespace Chip8.Yaml.Moment

/-! ## Form -/

/-- Read a number of some digits, as many as there are up to a bound. -/
def digits? (least most : Nat) (cs : List Char) : Option (Nat × List Char) :=
  let ds := (cs.take most).takeWhile Char.isDigit
  if ds.length < least then none
  else some (ds.foldl (fun n c => 10 * n + (c.toNat - 48)) 0, cs.drop ds.length)

/-- Read a character. -/
def mark? (mark : Char) : List Char → Option (List Char)
  | c :: rest => if c = mark then some rest else none
  | [] => none

/-- Drop blanks. -/
def dropBlanks (cs : List Char) : List Char := cs.dropWhile fun c => c = ' ' || c = '\t'

/-- The microseconds of a fraction of a second, whose digits past the sixth are left out. -/
def microseconds (fraction : List Char) : Nat :=
  let ds := fraction.take 6
  ds.foldl (fun n c => 10 * n + (c.toNat - 48)) 0 * Nat.pow 10 (6 - ds.length)

/-- Read a fraction of a second, if there is one. -/
def fraction : List Char → Nat × List Char
  | '.' :: rest =>
    let ds := rest.takeWhile Char.isDigit
    (microseconds ds, rest.drop ds.length)
  | cs => (0, cs)

/-- Whether the end of the text is reached, perhaps behind a line feed. -/
def atEnd (cs : List Char) : Bool := cs.isEmpty || cs = ['\n']

/-- Read an offset without its sign: hours, and perhaps minutes. -/
def readSpan? (cs : List Char) : Option (Nat × List Char) := do
  let (hours, rest) ← digits? 1 2 cs
  match rest with
  | ':' :: more =>
    let (minutes, rest) ← digits? 2 2 more
    return (60 * hours + minutes, rest)
  | _ => return (60 * hours, rest)

/-- Read an offset at the end of a text, if there is one. -/
def readOffset? (cs : List Char) : Option (Option Int) :=
  if atEnd cs then some none
  else match dropBlanks cs with
    | 'Z' :: rest => if atEnd rest then some (some 0) else none
    | '+' :: rest => do
      let (minutes, rest) ← readSpan? rest
      if atEnd rest then return some (minutes : Int) else none
    | '-' :: rest => do
      let (minutes, rest) ← readSpan? rest
      if atEnd rest then return some (-(minutes : Int)) else none
    | _ => none

/-- Read a time at the end of a text. -/
def readTime? (cs : List Char) : Option DayTime := do
  let (hour, rest) ← digits? 1 2 cs
  let (minute, rest) ← digits? 2 2 (← mark? ':' rest)
  let (second, rest) ← digits? 2 2 (← mark? ':' rest)
  let (microsecond, rest) := fraction rest
  return ⟨hour, minute, second, microsecond, ← readOffset? rest⟩

/-- Drop what stands between a day and a time. -/
def gap? : List Char → Option (List Char)
  | [] => none
  | c :: rest =>
    if c = 'T' || c = 't' then some rest
    else if c = ' ' || c = '\t' then some (dropBlanks rest)
    else none

/-- Read the form of a text. -/
def read? (cs : List Char) : Option Moment := do
  let (year, rest) ← digits? 4 4 cs
  let (month, rest) ← digits? 1 2 (← mark? '-' rest)
  let (day, rest) ← digits? 1 2 (← mark? '-' rest)
  if atEnd rest then return ⟨year, month, day, none⟩
  else return ⟨year, month, day, some (← readTime? (← gap? rest))⟩

/-! ## Numbers -/

/-- Whether a year has a leap day. -/
def isLeap (year : Nat) : Bool := year % 4 = 0 && (year % 100 ≠ 0 || year % 400 = 0)

/-- How many days a month has. -/
def daysIn (year month : Nat) : Nat :=
  if month = 2 then if isLeap year then 29 else 28
  else if [4, 6, 9, 11].contains month then 30
  else 31

/-- How many minutes a day has. -/
def minutesOfDay : Nat := 24 * 60

/-- Why there is no such day. -/
def dayFault? (m : Moment) : Option MomentError :=
  if m.year = 0 then some (.year m.year)
  else if m.month = 0 || 12 < m.month then some .month
  else if m.day = 0 || daysIn m.year m.month < m.day then some .day
  else none

/-- Why there is no such offset. -/
def offsetFault? (t : DayTime) : Option MomentError :=
  match t.offset? with
  | some minutes => if minutes.natAbs < minutesOfDay then none else some (.offset minutes)
  | none => none

/-- Why there is no such time. -/
def timeFault? (t : DayTime) : Option MomentError :=
  if 23 < t.hour then some .hour
  else if 59 < t.minute then some .minute
  else if 59 < t.second then some .second
  else none

/-- The first reason why there is no such day or time. -/
def fault? (m : Moment) : Option MomentError :=
  ((m.time?.bind offsetFault?).orElse fun _ => m.dayFault?).orElse fun _ => m.time?.bind timeFault?

/-- The day or time that a text denotes. -/
def ofText (text : String) : Except Error Moment :=
  match read? text.toList with
  | none => .error .notMoment
  | some m => match m.fault? with
    | some cause => .error (.moment cause)
    | none => .ok m

end Chip8.Yaml.Moment
