import LogStyle.Settings
import LogStyle.Text.Blank
import LogStyle.Text.Numeral

/-! # Values of settings

One reader of the values of settings: truth values by their words, integers with blanks around them, signs,
needless zeros, underscores between digits and a fraction of zeros.
-/

namespace LogStyle

namespace Settings

/-- Why a value cannot be read. -/
inductive Unreadable where
  | notTruth
  | notInteger
  /-- A number with more digits than are read. -/
  | longInteger
  deriving Repr, DecidableEq

/-- What a failed reading is called. -/
def Unreadable.name : Unreadable → Text
  | .notTruth => "bool_parsing"
  | .notInteger => "int_parsing"
  | .longInteger => "int_parsing_size"

/-- The words for yes. -/
def yesWords : List Text :=
  ["1", "on", "t", "true", "y", "yes"]

/-- The words for no. -/
def noWords : List Text :=
  ["0", "off", "f", "false", "n", "no"]

/-- Read a truth value, in any case. -/
def readTruth (t : Text) : Except Unreadable Bool :=
  if yesWords.contains t.lower then .ok true
  else if noWords.contains t.lower then .ok false
  else .error .notTruth

/-- Whether a character may stand around an integer: a blank that is no separator of information. -/
def isAround (c : CodePoint) : Bool :=
  isBlank c && !(0x1C ≤ c.toNat && c.toNat ≤ 0x1F)

/-- A text without what may stand around an integer. -/
def trim (t : Text) : Text :=
  ((t.dropWhile isAround).reverse.dropWhile isAround).reverse

/-- Read an integer in its plain form: digits without needless zeros, a minus sign in front or not. -/
def readPlain (t : Text) : Except Unreadable Int :=
  let (negative, digits) : Bool × Text :=
    match t with
    | '-' :: rest => (true, rest)
    | _ => (false, t)
  let run := digits.takeWhile isBasicDigit
  if run = [] || (run.head? = some '0' && run ≠ [.char '0']) then .error .notInteger
  else if Numeral.digitLimit < run.length then .error .longInteger
  else if run ≠ digits then .error .notInteger
  else .ok (if negative then -(Numeral.value run : Int) else Numeral.value run)

/-- What follows zeros and underscores after a first zero, `last` being the character before. A point keeps
    the zero before it, and of nothing but zeros the last character is left. -/
def afterZeros? (last : CodePoint) : Text → Option Text
  | [] => some [last]
  | c :: rest =>
    if c = '0' || c = '_' then afterZeros? c rest
    else if isBasicDigit c || c = '-' then some (c :: rest)
    else if c = '.' then some (last :: c :: rest)
    else none

/-- A text without the zeros at its beginning, if it begins like an integer. -/
def withoutZeros? : Text → Option Text
  | c :: rest =>
    if c = '0' then afterZeros? c rest
    else if isBasicDigit c || c = '-' then some (c :: rest)
    else none
  | [] => none

/-- A text without a fraction of zeros at its end. -/
def withoutFraction (t : Text) : Text :=
  let (whole, fraction) := Text.cut '.' t
  if fraction ≠ [] && fraction.all (· = '0') then whole else t

/-- A text without underscores, if each stands alone between other characters; else the text itself. -/
def withoutUnderscores (t : Text) : Text :=
  let pieces := Text.splitOn '_' t
  if pieces.all (· ≠ []) then pieces.flatten else t

/-- The plain form of an integer that has a plus sign, needless zeros, a fraction of zeros or underscores. -/
def plainForm? (t : Text) : Option Text :=
  let unsigned? : Option Text :=
    match t with
    | '+' :: '-' :: _ => none
    | '+' :: rest => some rest
    | _ => some t
  (unsigned?.bind withoutZeros?).map fun t => withoutUnderscores (withoutFraction t)

/-- Read an integer, blanks around it allowed. -/
def readInteger (t : Text) : Except Unreadable Int :=
  let t := trim t
  match readPlain t with
  | .ok n => .ok n
  | .error why =>
    match plainForm? t with
    | some plain => readPlain plain
    | none => .error why

/-- How values are read by their words and digits. -/
def ValueReader.plain : ValueReader where
  truth t := (readTruth t).mapError Unreadable.name
  integer t := (readInteger t).mapError Unreadable.name

end Settings

end LogStyle
