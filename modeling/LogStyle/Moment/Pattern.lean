import LogStyle.Moment
import LogStyle.Text.Case
import LogStyle.Text.Digit

/-! # Patterns of times

A pattern is a text in which a percent sign and a letter stand for one part of a time. Between the two may
stand flags, which say what fills a part up and whether its case is changed, a width, and a letter that
asks for another script. What stands for no part is kept as it is written.

Microseconds and offsets are put in first, where their letter stands right after the percent sign. A time
that is longer than the room for it is left out.
-/

namespace LogStyle

namespace Moment

/-- What fills a part up to its width. -/
inductive Fill where
  | spaces
  | zeros
  /-- Numbers are not filled up; where a width is given, spaces. -/
  | nothing
  deriving Repr, DecidableEq

/-- The fill that a flag asks for. -/
def Fill.ofFlag? : CodePoint → Option Fill
  | '_' => some .spaces
  | '0' => some .zeros
  | '-' => some .nothing
  | _ => none

/-- How a part of a time is to be shown. -/
structure Manner where
  /-- The fill that a flag asks for, if one does. -/
  fill : Option Fill := none
  upper : Bool := false
  /-- Whether the case is to be changed: names are shown in upper case, the rest in lower. -/
  otherCase : Bool := false
  width : Nat := 0
  /-- The letter that asks for another script. -/
  script : Option CodePoint := none
  deriving Repr, DecidableEq

namespace Manner

/-- A character in upper case, when that is a single character. -/
def raise (c : CodePoint) : CodePoint :=
  CaseRun.move upperRuns c

/-- Fill a text up to the width. -/
def place (f : Manner) (t : Text) : Text :=
  if f.fill = some .zeros then Text.zeroPad f.width t else Text.padLeft f.width t

/-- A text whose case the flags may change. -/
def word (f : Manner) (t : Text) : Text :=
  f.place (if f.upper then t.map raise else t)

/-- A name, which is shown in upper case when its case is changed. -/
def name (f : Manner) (t : Text) : Text :=
  ({ f with upper := f.upper || f.otherCase } : Manner).word t

/-- A text that is shown in lower case when its case is changed. -/
def mark (f : Manner) (t : Text) : Text :=
  if f.otherCase then f.place t.lower else f.word t

/-- What stands for no part: the percent sign and what follows it up to a letter. -/
def keep (f : Manner) (read : Text) (letter : CodePoint) : Text :=
  if letter = '%' then f.place ['%']
  else if letter = 'b' || letter = 'h' then f.name (read ++ [letter])
  else f.word (read ++ [letter])

/-- A number with at least some digits, filled up with zeros unless a flag says otherwise. -/
def number (f : Manner) (digits n : Nat) : Text :=
  let shown := Text.ofNat n
  match f.fill with
  | some .nothing => f.place shown
  | some .spaces => Text.padLeft (max digits f.width) shown
  | _ => Text.zeroPad (max digits f.width) shown

/-- A number filled up with spaces unless a flag says otherwise. -/
def spacedNumber (f : Manner) (digits n : Nat) : Text :=
  ({ f with fill := f.fill.getD .spaces } : Manner).number digits n

end Manner

/-- What one letter of a pattern stands for, if it stands for anything. -/
def part? (m : Moment) (f : Manner) (letter : CodePoint) : Option Text :=
  let plain (t : Text) : Option Text := if f.script = none then some t else none
  let unlessEra (t : Text) : Option Text := if f.script = some 'E' then none else some t
  let unlessOther (t : Text) : Option Text := if f.script = some 'O' then none else some t
  match letter with
  | 'Y' => unlessOther (f.number 1 m.date.year)
  | 'y' => some (f.number 2 (m.date.year % 100))
  | 'C' => some (f.number 1 (m.date.year / 100))
  | 'G' => unlessEra (f.number 1 m.date.weekYear.1)
  | 'g' => unlessEra (f.number 2 (m.date.weekYear.1 % 100))
  | 'V' => unlessEra (f.number 2 m.date.weekYear.2)
  | 'U' => unlessEra (f.number 2 m.date.weekFromSunday)
  | 'W' => unlessEra (f.number 2 m.date.weekFromMonday)
  | 'm' => unlessEra (f.number 2 m.date.month)
  | 'd' => unlessEra (f.number 2 m.date.day)
  | 'e' => unlessEra (f.spacedNumber 2 m.date.day)
  | 'j' => unlessEra (f.number 3 m.date.dayOfYear)
  | 'H' => unlessEra (f.number 2 m.hour)
  | 'k' => unlessEra (f.spacedNumber 2 m.hour)
  | 'I' => unlessEra (f.number 2 m.clockHour)
  | 'l' => unlessEra (f.spacedNumber 2 m.clockHour)
  | 'M' => unlessEra (f.number 2 m.minute)
  | 'S' => unlessEra (f.number 2 m.second)
  | 's' => some (f.place (Text.ofInt m.secondsSince1970))
  | 'w' => unlessEra (f.number 1 m.date.weekday)
  | 'u' => some (f.number 1 m.date.weekdayFromMonday)
  | 'a' => plain (f.name (m.weekdayName.take 3))
  | 'A' => plain (f.name m.weekdayName)
  | 'b' | 'h' => unlessEra (f.name (m.monthName.take 3))
  | 'B' => unlessEra (f.name m.monthName)
  | 'p' => some (f.mark m.half)
  | 'P' => some (f.place m.half.lower)
  | 'D' => plain (f.word m.shortDay)
  | 'x' => unlessOther (f.word m.shortDay)
  | 'F' => plain (f.word m.longDay)
  | 'R' => some (f.word m.hourMinute)
  | 'T' => some (f.word m.clock)
  | 'X' => unlessOther (f.word m.clock)
  | 'r' => some (f.word m.halfDayClock)
  | 'c' => unlessOther (f.word m.dayAndClock)
  | 'z' => some []
  | 'Z' => some (if f.fill = some .nothing then [] else f.place [])
  | 'n' => some (f.place ['\n'])
  | 't' => some (f.place ['\t'])
  | '%' => plain (f.place ['%'])
  | _ => none

/-- Read the flags after a percent sign. -/
def readFlags (f : Manner) : Text → Manner × Text
  | c :: rest =>
    match Fill.ofFlag? c with
    | some fill => readFlags { f with fill } rest
    | none =>
      if c = '^' then readFlags { f with upper := true } rest
      else if c = '#' then readFlags { f with otherCase := true } rest
      else (f, c :: rest)
  | [] => (f, [])

/-- Read what stands between a percent sign and the letter after it. No width past `widest` is told from it. -/
def readManner (widest : Nat) (t : Text) : Manner × Text :=
  let (f, rest) := readFlags {} t
  let digits := rest.takeWhile isBasicDigit
  let f := { f with width := digits.foldl (fun n c => min widest (10 * n + (c.toNat - '0'.toNat))) 0 }
  match rest.dropWhile isBasicDigit with
  | 'E' :: rest => ({ f with script := some 'E' }, rest)
  | 'O' :: rest => ({ f with script := some 'O' }, rest)
  | rest => (f, rest)

/-- The first piece of a time laid out by a pattern, and the rest of the pattern. -/
def piece (m : Moment) (widest : Nat) : Text → Text × Text
  | [] => ([], [])
  | '%' :: rest =>
    let (f, after) := readManner widest rest
    let read := .char '%' :: rest.take (rest.length - after.length)
    match after with
    | [] => (f.word read, [])
    | c :: after =>
      ((m.part? f c).getD (f.keep read c), after)
  | c :: rest => ([c], rest)

/-- A time laid out by a pattern, if it is shorter than the room for it. Every piece takes up at least one
    character of the pattern. -/
def layout? (m : Moment) (fuel room : Nat) (pattern : Text) : Option Text :=
  match fuel with
  | 0 => some []
  | fuel + 1 =>
    if pattern = [] then some []
    else
      let (shown, rest) := m.piece room pattern
      if shown.length < room then (layout? m fuel (room - shown.length) rest).map (shown ++ ·)
      else none

/-- A pattern with the microseconds put in; a time without an offset has nothing to put in for it. -/
def fillIn (m : Moment) : Text → Text
  | '%' :: 'f' :: rest => zeros 6 m.microsecond ++ fillIn m rest
  | '%' :: 'z' :: rest | '%' :: 'Z' :: rest => fillIn m rest
  | '%' :: c :: rest => '%' :: c :: fillIn m rest
  | c :: rest => c :: fillIn m rest
  | [] => []

/-- The room for a time: it starts at 1024 characters, one of which is for the end, and is doubled until
    it is large for the pattern. -/
def room (fuel : Nat) (size pattern : Nat) : Nat :=
  match fuel with
  | 0 => size
  | fuel + 1 => if 256 * pattern ≤ size then size else room fuel (2 * size) pattern

/-- A time shown by a pattern, which ends at its first null character. -/
def format (m : Moment) (pattern : Text) : Text :=
  let filled := m.fillIn (pattern.takeWhile (· ≠ '\x00'))
  (m.layout? filled.length (room filled.length 1024 filled.length) filled).getD []

end Moment

end LogStyle
