import LogStyle.Number.Binary64
import LogStyle.Text.Case
import LogStyle.Text.Numeral

/-! # Reading real numbers

A real number is written in decimal digits of any script, with a point and an exponent or without, or by the
words for the infinity and for what is no number.
-/

namespace LogStyle

namespace Binary64

/-- The exponent at the end of a decimal numeral; zero when there is none. -/
def exponent? : Text → Option Int
  | [] => some 0
  | 'e' :: rest =>
    let (down, digits) := Numeral.signOf rest
    if digits ≠ [] && digits.all isBasicDigit then some (Numeral.withSign down (Numeral.value digits)) else none
  | _ => none

/-- A decimal numeral in basic digits without a sign. -/
def ofDigits? (negative : Bool) (t : Text) : Option Binary64 :=
  let whole := t.takeWhile isBasicDigit
  let (fraction, rest) : Text × Text :=
    match t.dropWhile isBasicDigit with
    | '.' :: rest => (rest.takeWhile isBasicDigit, rest.dropWhile isBasicDigit)
    | rest => ([], rest)
  if whole = [] && fraction = [] then none
  else
    (exponent? rest).map fun exponent =>
      ofDecimal negative (Numeral.value (whole ++ fraction)) (exponent - fraction.length)

/-- The number that a text stands for; blanks around it and a sign are allowed, and letters of any case. -/
def ofText? (t : Text) : Option Binary64 :=
  let (negative, unsigned) := Numeral.signOf (Numeral.bare t).lower
  if unsigned = "inf" || unsigned = "infinity" then some (.infinite negative)
  else if unsigned = "nan" then some .nan
  else ofDigits? negative unsigned

end Binary64

end LogStyle
