import LogStyle.Text.Basic

/-! # Binary floating-point numbers

Numbers of 53 binary digits, held exactly. Decimal numerals round to the nearest one, a half to the even
neighbour; printing gives the fewest decimal digits that read back as the same number.
-/

namespace LogStyle

/-- A floating-point number: a whole multiple of a power of two, an infinity, or no number at all. -/
inductive Binary64 where
  /-- `significand * 2 ^ exponent`, negated when `negative`. -/
  | finite (negative : Bool) (significand : Nat) (exponent : Int)
  | infinite (negative : Bool)
  | nan
  deriving Repr, DecidableEq

namespace Binary64

/-- Significands are below this number: they have at most 53 digits to the base two. -/
def significandLimit : Nat := 0x20000000000000

/-- The least exponent; with it the significand may have fewer than 53 digits. -/
def leastExponent : Int := -1074

/-- The greatest exponent. -/
def greatestExponent : Int := 971

/-- A fraction rounded to a whole number, a half to the even neighbour. -/
def roundHalfEven (num den : Nat) : Nat :=
  let quotient := num / den
  let twice := 2 * (num % den)
  if den < twice || (twice = den && quotient % 2 = 1) then quotient + 1 else quotient

/-- A fraction as a numerator and a denominator, scaled by a power of a base. -/
def scaled (base : Nat) (num den : Nat) (power : Int) : Nat × Nat :=
  match power with
  | .ofNat n => (num * Nat.pow base n, den)
  | .negSucc n => (num, den * Nat.pow base (n + 1))

/-- The number nearest to a fraction. -/
def ofFraction (negative : Bool) (num den : Nat) : Binary64 :=
  if num = 0 then .finite negative 0 leastExponent
  else
    let guess : Int := (Nat.log2 num : Int) - Nat.log2 den - 53
    let exponent := max guess leastExponent
    let fits (e : Int) : Nat :=
      let (n, d) := scaled 2 num den (-e)
      roundHalfEven n d
    let settle (e : Int) : Nat × Int :=
      if fits e < significandLimit then (fits e, e)
      else if fits (e + 1) < significandLimit then (fits (e + 1), e + 1)
      else (fits (e + 2), e + 2)
    let (significand, power) := settle exponent
    if greatestExponent < power then .infinite negative
    else .finite negative significand power

/-- The number nearest to `digits * 10 ^ power`. -/
def ofDecimal (negative : Bool) (digits : Nat) (power : Int) : Binary64 :=
  let size : Int := (Nat.toDigits 10 digits).length + power
  if digits = 0 || size < -400 then .finite negative 0 leastExponent
  else if 400 < size then .infinite negative
  else
    let (num, den) := scaled 10 digits 1 power
    ofFraction negative num den

/-- The whole part, when there is one. -/
def truncate? : Binary64 → Option Int
  | .finite negative significand exponent =>
    let (num, den) := scaled 2 significand 1 exponent
    some (if negative then -((num / den : Nat) : Int) else (num / den : Nat))
  | _ => none

/-- Decimal digits and the place of the point in front of them: `0.d₁d₂… * 10 ^ point`. -/
structure Digits where
  digits : Text
  point : Int
  deriving Repr, DecidableEq

/-- Digits of a positive fraction of a given count that read back as `x`, the nearer ones first. -/
def digitsOf? (x : Binary64) (num den : Nat) (point : Int) (count : Nat) : Option Digits :=
  let power := point - count
  let (n, d) := scaled 10 num den (-power)
  let below := n / d
  let nearer := roundHalfEven n d
  let further := if nearer = below then below + 1 else below
  let reads (k : Nat) : Bool := ofDecimal false k power = x
  let written (k : Nat) : Digits :=
    let digits := Text.ofNat k
    ⟨digits, power + digits.length⟩
  if reads nearer then some (written nearer)
  else if reads further then some (written further)
  else none

/-- Digits without the zeros at their end. -/
def Digits.trim (d : Digits) : Digits :=
  let kept := (d.digits.reverse.dropWhile (· = .char '0')).reverse
  ⟨if kept = [] then [.char '0'] else kept, d.point⟩

/-- The fewest decimal digits that read back as the number `significand * 2 ^ exponent`. -/
def shortest (significand : Nat) (exponent : Int) : Digits :=
  let x := Binary64.finite false significand exponent
  let (num, den) := scaled 2 significand 1 exponent
  let guess : Int := (Nat.toDigits 10 num).length - (Nat.toDigits 10 den).length
  let (n, d) := scaled 10 num den (-guess)
  let point := if d ≤ n then guess + 1 else guess
  let counts := (List.range 17).map (· + 1)
  ((counts.findSome? (digitsOf? x num den point)).getD ⟨['0'], 1⟩).trim

/-- Digits laid out with a point, or with an exponent when they are far from the point. -/
def Digits.layout (d : Digits) : Text :=
  let count : Int := d.digits.length
  if -4 < d.point && d.point ≤ 16 then
    if d.point ≤ 0 then "0." ++ List.replicate (-d.point).toNat (CodePoint.char '0') ++ d.digits
    else if count ≤ d.point then
      d.digits ++ List.replicate (d.point - count).toNat (CodePoint.char '0') ++ ".0"
    else d.digits.take d.point.toNat ++ "." ++ d.digits.drop d.point.toNat
  else
    let exponent := d.point - 1
    let fraction : Text := if d.digits.length = 1 then [] else '.' :: d.digits.drop 1
    let sign : Text := if exponent < 0 then "e-" else "e+"
    d.digits.take 1 ++ fraction ++ sign ++ Text.zeroPad 2 (Text.ofNat exponent.natAbs)

/-- A number in the fewest decimal digits. -/
def toText : Binary64 → Text
  | .nan => "nan"
  | .infinite negative => if negative then "-inf" else "inf"
  | .finite negative significand exponent =>
    let size : Text := if significand = 0 then "0.0" else (shortest significand exponent).layout
    if negative then '-' :: size else size

/-- Whether the first number is below the second. -/
def below : Binary64 → Binary64 → Bool
  | .nan, _ | _, .nan => false
  | .infinite a, .infinite b => a && !b
  | .infinite a, _ => a
  | _, .infinite b => !b
  | .finite a m e, .finite b n f =>
    let low := min e f
    let left : Int := (m * Nat.pow 2 (e - low).toNat : Nat)
    let right : Int := (n * Nat.pow 2 (f - low).toNat : Nat)
    (if a then -left else left) < (if b then -right else right)

/-- The number nearest to an integer. -/
def ofInt (n : Int) : Binary64 :=
  ofFraction (n < 0) n.natAbs 1

/-- The number with the other sign. -/
def neg : Binary64 → Binary64
  | .finite negative m e => .finite (!negative) m e
  | .infinite negative => .infinite (!negative)
  | .nan => .nan

/-- The number nearest to a whole multiple of a power of two. -/
def ofScaled (negative : Bool) (significand : Nat) (exponent : Int) : Binary64 :=
  let (num, den) := scaled 2 significand 1 exponent
  ofFraction negative num den

/-- The number nearest to the product of two. -/
def mul : Binary64 → Binary64 → Binary64
  | .nan, _ | _, .nan => .nan
  | .infinite a, .infinite b => .infinite (a != b)
  | .infinite a, .finite b n _ => if n = 0 then .nan else .infinite (a != b)
  | .finite a m _, .infinite b => if m = 0 then .nan else .infinite (a != b)
  | .finite a m e, .finite b n f => ofScaled (a != b) (m * n) (e + f)

/-- The number nearest to the sum of two. A sum of zero is negative only when both numbers are. -/
def add : Binary64 → Binary64 → Binary64
  | .nan, _ | _, .nan => .nan
  | .infinite a, .infinite b => if a = b then .infinite a else .nan
  | .infinite a, .finite _ _ _ => .infinite a
  | .finite _ _ _, .infinite b => .infinite b
  | .finite a m e, .finite b n f =>
    let low := min e f
    let left : Int := (m * Nat.pow 2 (e - low).toNat : Nat)
    let right : Int := (n * Nat.pow 2 (f - low).toNat : Nat)
    let total := (if a then -left else left) + (if b then -right else right)
    if total = 0 then .finite (a && b) 0 leastExponent
    else ofScaled (total < 0) total.natAbs low

end Binary64

end LogStyle
