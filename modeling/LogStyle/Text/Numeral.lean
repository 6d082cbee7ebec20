import LogStyle.Text.Blank
import LogStyle.Text.Digit
import LogStyle.Text.Literal
import LogStyle.Text.Quoted

/-! # Numerals

Reading a whole number written with the digits of any script, in base ten or in another one whose mark may
stand in front of the digits. A decimal numeral has at most `Numeral.digitLimit` digits, leading zeros
included and the sign left out; nor is a number written out that has more.
-/

namespace LogStyle

namespace Numeral

/-- The most digits a decimal numeral may have. -/
def digitLimit : Nat := 4300

/-- The number that a row of decimal digits stands for. -/
def value (digits : Text) : Nat :=
  digits.foldl (fun n c => 10 * n + (digitValue? c).getD 0) 0

/-- Why a text is not read as a number. -/
inductive Fault where
  /-- There are more digits than the limit allows. -/
  | tooLong (digits : Nat)
  /-- The text is no numeral to the base. -/
  | notNumeral (base : Nat) (t : Text)
  deriving Repr, DecidableEq

/-- The most characters of a text that a message shows. -/
def shownLimit : Nat := 200

/-- What is said of the limit of digits. -/
def limitMessage (found : Text) : Text :=
  "Exceeds the limit (" ++ Text.ofNat digitLimit ++ " digits) for integer string conversion" ++ found
    ++ "; use sys.set_int_max_str_digits() to increase the limit"

/-- A fault put into words. -/
def Fault.message : Fault → Text
  | .tooLong digits => limitMessage (": value has " ++ Text.ofNat digits ++ " digits")
  | .notNumeral base t =>
    "invalid literal for int() with base " ++ Text.ofNat base ++ ": " ++ t.quoted.take shownLimit

/-- Whether an integer has more digits than are written out. -/
def isLong (n : Int) : Bool :=
  Nat.pow 10 digitLimit ≤ n.natAbs

/-- What is said of an integer that is not written out. -/
def longMessage : Text :=
  limitMessage []

/-- Read a row of decimal digits without a sign. The digits are counted up to the first character
    that is none. -/
def readNat (t : Text) : Except Fault Nat :=
  let digits := t.takeWhile isDecimal
  if digitLimit < digits.length then .error (.tooLong digits.length)
  else if digits = t ∧ t ≠ [] then .ok (value t)
  else .error (.notNumeral 10 t)

/-- Read a row of decimal digits that may have a minus sign in front. -/
def readInt : Text → Except Fault Int
  | '-' :: t => (readNat t).map fun n => -(n : Int)
  | t => (readNat t).map Int.ofNat

/-- The sign of a number, true when it is a minus, and the rest of it. -/
def signOf : Text → Bool × Text
  | '-' :: rest => (true, rest)
  | '+' :: rest => (false, rest)
  | t => (false, t)

/-- A number with a sign. -/
def withSign (negative : Bool) (n : Int) : Int :=
  if negative then -n else n

/-- A text in basic characters: digits of any script become basic digits, blanks spaces, and what is neither
    a question mark. Basic characters stay. -/
def basic (t : Text) : Text :=
  t.map fun (c : CodePoint) =>
    if Literal.isBasic c then c
    else if isBlank c then ' '
    else
      match digitValue? c with
      | some n => .ofNat ('0'.toNat + n)
      | none => '?'

/-- Whether a basic character may stand around a number. -/
def isMargin (c : CodePoint) : Bool :=
  c = ' ' || (0x9 ≤ c.toNat && c.toNat ≤ 0xD)

/-- A number in basic characters without what may stand around it. -/
def bare (t : Text) : Text :=
  (((basic t).dropWhile isMargin).reverse.dropWhile isMargin).reverse

/-- Whether a character is a digit of a base. -/
def isDigitOf (base : Nat) (c : CodePoint) : Bool :=
  match Literal.hexValue? c with
  | some n => n < base
  | none => false

/-- The letters that mark a base, after a zero. -/
def marks : Nat → Text
  | 2 => ['b', 'B']
  | 8 => ['o', 'O']
  | 16 => ['x', 'X']
  | _ => []

/-- A numeral without the mark of its base. -/
def withoutMark (base : Nat) (t : Text) : Text :=
  match t with
  | '0' :: c :: rest => if (marks base).contains c then rest else t
  | _ => t

/-- Read an integer in a base: blanks around it, a sign, and the mark of the base are allowed. -/
def read (base : Nat) (t : Text) : Except Fault Int :=
  let (negative, unsigned) := signOf (bare t)
  let digits := withoutMark base unsigned
  let run := digits.takeWhile (isDigitOf base)
  if base = 10 && digitLimit < run.length then .error (.tooLong run.length)
  else if run = [] || run ≠ digits then .error (.notNumeral base t)
  else .ok (withSign negative (Literal.digitsValue base run))

end Numeral

end LogStyle
