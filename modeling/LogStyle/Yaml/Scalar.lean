import LogStyle.Number.Reading
import LogStyle.Value
import LogStyle.Yaml.Implicit

/-! # Values of scalars

What a scalar of a type stands for. A scalar that got its type from its form can still be impossible, such
as a day that no month has; with an explicit tag anything may stand where a number is asked for.
-/

namespace LogStyle

namespace Yaml

namespace Scalar

/-- A scalar that stands for no value of its type. -/
def impossible {α : Type} (obstacle : Document.Obstacle) (message : Text) : Except Trouble α :=
  .error (.impossible obstacle message)

/-- A character is asked for where a scalar has ended. -/
def pastEnd {α : Type} : Except Trouble α :=
  impossible .index "string index out of range"

/-- The truth values by their words in lower case. -/
def truths : List (Text × Bool) :=
  [("yes", true), ("no", false), ("true", true), ("false", false), ("on", true), ("off", false)]

/-- Read a truth value. -/
def readBool (t : Text) : Except Trouble Bool :=
  match truths.lookup t.lower with
  | some b => .ok b
  | none => impossible .key t.lower.quoted

/-- Read an integer in a base. -/
def readBase (base : Nat) (t : Text) : Except Trouble Int :=
  match Numeral.read base t with
  | .ok n => .ok n
  | .error fault => impossible .value fault.message

/-- The parts of a number to the base sixty. -/
def sixtieths (t : Text) : List Text :=
  Text.splitOn ':' t

/-- Read an integer: binary, octal or hexadecimal by the way it starts, to the base sixty if it has colons,
    and else decimal. -/
def readInt (t : Text) : Except Trouble Int :=
  match t.filter (· ≠ .char '_') with
  | [] => pastEnd
  | digits =>
    let (negative, unsigned) := Numeral.signOf digits
    let size : Except Trouble Int :=
      match unsigned with
      | [] => pastEnd
      | ['0'] => .ok 0
      | '0' :: 'b' :: binary => readBase 2 binary
      | '0' :: 'x' :: hexadecimal => readBase 16 hexadecimal
      | '0' :: _ => readBase 8 unsigned
      | _ =>
        if unsigned.contains ':' then do
          let parts ← (sixtieths unsigned).mapM (readBase 10)
          pure (parts.foldl (fun n part => 60 * n + part) 0)
        else readBase 10 unsigned
    size.map (Numeral.withSign negative)

/-- Read a real number by itself. -/
def readPart (t : Text) : Except Trouble Binary64 :=
  match Binary64.ofText? t with
  | some x => .ok x
  | none => impossible .value ("could not convert string to float: " ++ t.quoted)

/-- The sum of numbers of which each next counts `base` sixty times, and each rounded as it is added. -/
def sumSixtieths (total : Binary64) (base : Nat) : List Binary64 → Except Trouble Binary64
  | [] => .ok total
  | part :: rest =>
    match Binary64.ofInt base with
    | .infinite _ => impossible .overflow "int too large to convert to float"
    | factor => sumSixtieths (total.add (part.mul factor)) (60 * base) rest

/-- Read a real number: to the base sixty if it has colons. -/
def readReal (t : Text) : Except Trouble Binary64 :=
  match Text.lower (t.filter (· ≠ '_')) with
  | [] => pastEnd
  | digits =>
    let (negative, unsigned) := Numeral.signOf digits
    let size : Except Trouble Binary64 :=
      if unsigned = ".inf" then .ok (.infinite false)
      else if unsigned = ".nan" then .ok .nan
      else if unsigned.contains ':' then do
        let parts ← (sixtieths unsigned).mapM readPart
        sumSixtieths (.ofInt 0) 1 parts.reverse
      else readPart unsigned
    size.map fun x => if negative then x.neg else x

/-- How an offset of a day or more is shown. -/
def shownOffset (seconds : Int) : Text :=
  let days := Int.fdiv seconds 86400
  let rest := Int.fmod seconds 86400
  let fine : Text := if rest = 0 then "" else ", seconds=" ++ Text.ofInt rest
  "datetime.timedelta(days=" ++ Text.ofInt days ++ fine ++ ")"

/-- The offset of a time in seconds, if it states one. -/
def readZone : Option (Option CodePoint × Text × Text) → Except Trouble (Option Int)
  | none => .ok none
  | some (none, _, _) => .ok (some 0)
  | some (some sign, hours, minutes) =>
    let size : Int := 3600 * Numeral.value hours + 60 * Numeral.value minutes
    let offset := Numeral.withSign (sign = '-') size
    if size < 86400 then .ok (some offset)
    else
      let range : Text := "strictly between -timedelta(hours=24) and timedelta(hours=24)"
      impossible .value ("offset must be a timedelta " ++ range ++ ", not " ++ shownOffset offset ++ ".")

/-- A day, if there is one with these numbers. -/
def readDate (year month day : Nat) : Except Trouble Date :=
  if year = 0 then impossible .value "year 0 is out of range"
  else if month = 0 || 12 < month then impossible .value "month must be in 1..12"
  else if day = 0 || Date.daysInMonth year month < day then
    impossible .value "day is out of range for month"
  else .ok ⟨year, month, day⟩

/-- The microseconds of a fraction of a second. -/
def microseconds (fraction : Text) : Nat :=
  let digits := fraction.take 6
  Numeral.value digits * Nat.pow 10 (6 - digits.length)

/-- Read a time or a day. -/
def readTime (t : Text) : Except Trouble LogStyle.Scalar :=
  match Tag.time? true (Tag.beforeLineEnd t) with
  | none => impossible .attribute "'NoneType' object has no attribute 'groupdict'"
  | some parts => do
    let day := readDate (Numeral.value parts.year) (Numeral.value parts.month) (Numeral.value parts.day)
    match parts.clock with
    | none => day.map .date
    | some (hour, minute, second) => do
      let offset ← readZone parts.zone
      let date ← day
      let hour := Numeral.value hour
      let minute := Numeral.value minute
      let second := Numeral.value second
      if 23 < hour then impossible .value "hour must be in 0..23"
      else if 59 < minute then impossible .value "minute must be in 0..59"
      else if 59 < second then impossible .value "second must be in 0..59"
      else pure (.moment ⟨date, hour, minute, second, microseconds parts.fraction⟩ offset)

/-- The characters that stand for six bits each. -/
def sixBits : Text :=
  "ABCDEFGHIJKLMNOPQRSTUVWXYZabcdefghijklmnopqrstuvwxyz0123456789+/"

/-- The value of a character that stands for six bits. -/
def sixBits? (c : CodePoint) : Option Nat :=
  let place := sixBits.takeWhile (· ≠ c)
  if place.length < sixBits.length then some place.length else none

/-- Read groups of four characters as three bytes each; characters that stand for nothing are passed over.
    `held` are the six bits read of a group, `pads` the equals signs after them. -/
def readGroups (held : List Nat) (pads : Nat) : Text → Option (List Nat)
  | [] => if held = [] then some [] else none
  | c :: rest =>
    if c = '=' then
      if 2 ≤ held.length && 4 ≤ held.length + pads + 1 then
        match held with
        | [a, b] => some [(a * 64 + b) / 16]
        | [a, b, c] => some [(a * 64 + b) / 16, (b * 64 + c) / 4 % 256]
        | _ => some []
      else readGroups held (if 2 ≤ held.length then pads + 1 else pads) rest
    else
      match sixBits? c with
      | none => readGroups held pads rest
      | some d =>
        match held with
        | [a, b, c] =>
          (readGroups [] 0 rest).map fun bytes =>
            (a * 64 + b) / 16 :: (b * 64 + c) / 4 % 256 :: (c * 64 + d) % 256 :: bytes
        | _ => readGroups (held ++ [d]) 0 rest

/-- Read bytes. -/
def readBinary (t : Text) : Except Trouble (List Nat) :=
  if t.all Literal.isBasic then
    match readGroups [] 0 t with
    | some bytes => .ok bytes
    | none => .error .malformed
  else .error .malformed

/-- Read a scalar of a type. -/
def read (tag : Tag) (t : Text) : Except Trouble LogStyle.Scalar :=
  match tag with
  | .null => .ok .null
  | .bool => (readBool t).map .bool
  | .int => (readInt t).map .int
  | .real => (readReal t).map .real
  | .binary => (readBinary t).map .bytes
  | .timestamp => readTime t
  | .text => .ok (.text t)
  | _ => .error .malformed

/-- Whether a type is one of scalars. -/
def isType : Tag → Bool
  | .null | .bool | .int | .real | .binary | .timestamp | .text => true
  | _ => false

end Scalar

end Yaml

end LogStyle
