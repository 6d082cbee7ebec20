import LogStyle.Yaml.Char

/-! # Types of plain scalars

A tag says what type a node has. A plain scalar without a tag has the type whose form it has: a null, a
truth value, an integer, a real number, a time, one of two marks, or else a text.
-/

namespace LogStyle

namespace Yaml

/-- The types of nodes. -/
inductive Tag where
  | null
  | bool
  | int
  | real
  | binary
  | timestamp
  /-- A list of single entries without doubles in their keys. -/
  | orderedMap
  /-- A list of single entries. -/
  | pairs
  | set
  | text
  | list
  | map
  /-- The key under which other mappings are merged in. -/
  | merge
  /-- The key under which a mapping holds the scalar it stands for. -/
  | default
  /-- A type that is no plain data. -/
  | other
  deriving Repr, DecidableEq

namespace Tag

/-- What all known tags start with. -/
def commonStart : Text := "tag:yaml.org,2002:"

/-- The known tags without their common beginning. -/
def names : List (Text × Tag) :=
  [("null", null), ("bool", bool), ("int", int), ("float", real), ("binary", binary),
    ("timestamp", timestamp), ("omap", orderedMap), ("pairs", pairs), ("set", set), ("str", text),
    ("seq", list), ("map", map), ("merge", merge), ("value", default)]

/-- Whether a type is one of collections. -/
def isCollection : Tag → Bool
  | .list | .map | .set | .orderedMap | .pairs => true
  | _ => false

/-- The type that a tag stands for. -/
def ofText (t : Text) : Tag :=
  ((Text.dropLead? commonStart t).bind fun name => names.lookup name).getD other

/-- The truth values as they are written. -/
def truthWords : List Text :=
  ["yes", "Yes", "YES", "no", "No", "NO", "true", "True", "TRUE", "false", "False", "FALSE", "on", "On",
    "ON", "off", "Off", "OFF"]

/-- The null as it is written. -/
def nullWords : List Text :=
  ["", "~", "null", "Null", "NULL"]

/-- A text without its sign. -/
def unsigned : Text → Text
  | '+' :: t | '-' :: t => t
  | t => t

/-- Whether a character is a digit or a separator of digits. -/
def isSpacedDigit (c : CodePoint) : Bool :=
  isBasicDigit c || c = '_'

/-- Whether a text is a digit followed by digits and their separators. -/
def isDigits : Text → Bool
  | c :: rest => isBasicDigit c && rest.all isSpacedDigit
  | [] => false

/-- Whether a text is a number below sixty. -/
def isSixtieth : Text → Bool
  | [c] => isBasicDigit c
  | [c, d] => '0' ≤ c && c ≤ '5' && isBasicDigit d
  | _ => false

/-- Whether a text is one or more numbers below sixty, a colon before each. -/
def isSixtieths (t : Text) : Bool :=
  match Text.splitOn ':' t with
  | _ :: part :: parts => (part :: parts).all isSixtieth
  | _ => false

/-- Whether a text is an integer: binary, octal, decimal, hexadecimal, or to the base sixty. -/
def isInt (t : Text) : Bool :=
  match unsigned t with
  | '0' :: 'b' :: rest => rest ≠ [] && rest.all fun c => c = '0' || c = '1' || c = '_'
  | '0' :: 'x' :: rest => rest ≠ [] && rest.all fun c => (Literal.hexValue? c).isSome || c = '_'
  | ['0'] => true
  | '0' :: rest => rest.all fun c => Literal.isOctal c || c = '_'
  | c :: rest =>
    let (first, _) := Text.cut ':' (c :: rest)
    isDigits first && ((c :: rest) = first || isSixtieths (c :: rest))
  | [] => false

/-- Whether a text is empty or an exponent. -/
def isExponent : Text → Bool
  | [] => true
  | 'e' :: sign :: digits | 'E' :: sign :: digits =>
    (sign = '+' || sign = '-') && digits ≠ [] && digits.all isBasicDigit
  | _ => false

/-- Whether a text is a fraction with its point. -/
def isFraction (t : Text) : Bool :=
  isExponent (t.dropWhile isSpacedDigit)

/-- The infinity as it is written after the point. -/
def infinityWords : List Text :=
  ["inf", "Inf", "INF"]

/-- What is no number as it is written after the point. -/
def nanWords : List Text :=
  ["nan", "NaN", "NAN"]

/-- Whether a text is a real number. -/
def isReal (t : Text) : Bool :=
  match Text.cut? '.' t with
  | none => false
  | some ([], fraction) =>
    isDigits (fraction.takeWhile isSpacedDigit) && isFraction fraction
      || infinityWords.contains fraction || nanWords.contains fraction
  | some (whole, fraction) =>
    let whole := unsigned whole
    isDigits whole && isFraction fraction
      || isDigits (Text.cut ':' whole).1 && isSixtieths whole && fraction.all isSpacedDigit
      || whole = [] && infinityWords.contains fraction

/-- Whether a text consists of digits of a number that lies in a range. -/
def isCount (low high : Nat) (t : Text) : Bool :=
  low ≤ t.length && t.length ≤ high && t.all isBasicDigit

/-- The parts of a time as they are written. -/
structure TimeText where
  year : Text
  month : Text
  day : Text
  /-- The hour, the minute and the second. -/
  clock : Option (Text × Text × Text)
  fraction : Text
  /-- The sign, the hours and the minutes of the offset; without a sign the offset is zero. -/
  zone : Option (Option CodePoint × Text × Text)
  deriving Repr, DecidableEq

/-- The offset at the end of a time. -/
def zone? (t : Text) : Option (Option (Option CodePoint × Text × Text)) :=
  match t.dropWhile isGap with
  | [] => if t = [] then some none else none
  | ['Z'] => some (some (none, [], []))
  | sign :: offset =>
    let (hours, minutes) := Text.cut ':' offset
    if (sign = '+' || sign = '-') && isCount 1 2 hours && (offset = hours || isCount 2 2 minutes) then
      some (some (some sign, hours, minutes))
    else none

/-- The clock of a time and what follows it. -/
def clock? (t : Text) : Option ((Text × Text × Text) × Text × Option (Option CodePoint × Text × Text)) := do
  let (hour, rest) ← Text.cut? ':' t
  let (minute, rest) ← Text.cut? ':' rest
  let second := rest.take 2
  let rest := rest.drop 2
  let (fraction, rest) : Text × Text :=
    match rest with
    | '.' :: after => (after.takeWhile isBasicDigit, after.dropWhile isBasicDigit)
    | _ => ([], rest)
  let zone ← zone? rest
  if isCount 1 2 hour && isCount 2 2 minute && isCount 2 2 second then
    pure ((hour, minute, second), fraction, zone)
  else none

/-- The parts of a text that has the form of a time. Without a clock, `short` decides whether the month
    and the day may have one digit. -/
def time? (short : Bool) (t : Text) : Option TimeText := do
  let (year, rest) ← Text.cut? '-' t
  let (month, rest) ← Text.cut? '-' rest
  let day := rest.takeWhile isBasicDigit
  let after := rest.dropWhile isBasicDigit
  if !(isCount 4 4 year && isCount 1 2 month && isCount 1 2 day) then none
  else if after = [] then
    if short || (month.length = 2 && day.length = 2) then pure ⟨year, month, day, none, [], none⟩
    else none
  else do
    let clockText : Text :=
      match after with
      | 'T' :: rest | 't' :: rest => rest
      | _ => after.dropWhile isGap
    if clockText = after then none
    else do
      let (clock, fraction, zone) ← clock? clockText
      pure ⟨year, month, day, some clock, fraction, zone⟩

/-- Signs that stand for a type of their own when nothing else is written. -/
def loneSigns : List Text :=
  ["!", "&", "*"]

/-- The type of the form that a text has. -/
def ofForm (t : Text) : Tag :=
  if truthWords.contains t then bool
  else if isReal t then real
  else if isInt t then int
  else if t = "<<" then merge
  else if nullWords.contains t then null
  else if (time? false t).isSome then timestamp
  else if t = "=" then default
  else if loneSigns.contains t then other
  else text

/-- A text without one line end after it; a line end alone stays. -/
def beforeLineEnd (t : Text) : Text :=
  if t.getLast? = some '\n' && t ≠ [.char '\n'] then t.dropLast else t

/-- The type of a scalar that has none but by its form; a line end may follow the form. -/
def ofPlain (t : Text) : Tag :=
  ofForm (beforeLineEnd t)

end Tag

end Yaml

end LogStyle
