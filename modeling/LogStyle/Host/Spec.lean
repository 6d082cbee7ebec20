import LogStyle.Fault
import LogStyle.Text.Case
import LogStyle.Text.Numeral
import LogStyle.Value

/-! # Layouts of inserted values

A field of a message may say how its value is laid out: in a column of some width, with a sign, to a number
of digits, to another base. What a layout may ask for depends on the type of the value.
-/

namespace LogStyle

/-- The sides a value may be pushed to in its column. -/
inductive Align where
  | left
  | right
  | center
  /-- The padding stands between the sign and the digits. -/
  | inner
  deriving Repr, DecidableEq

/-- How a value is laid out. -/
structure Spec where
  fill : CodePoint := ' '
  align : Option Align := none
  sign : Option CodePoint := none
  /-- A zero is never negative. -/
  plainZero : Bool := false
  alternate : Bool := false
  width : Nat := 0
  /-- The separator of digit groups. -/
  group : Option CodePoint := none
  precision : Option Nat := none
  type : Option CodePoint := none
  deriving Repr, DecidableEq

namespace Spec

/-- A layout that cannot be used. -/
def fail {α : Type} (message : Text) : Except Fault α :=
  .error ⟨.value, message⟩

/-- The side that a character stands for. -/
def align? : CodePoint → Option Align
  | '<' => some .left
  | '>' => some .right
  | '^' => some .center
  | '=' => some .inner
  | _ => none

/-- The greatest number that a layout may hold. -/
def numberLimit : Nat := 0x7FFFFFFFFFFFFFFF

/-- A number at the beginning of a text, if there is one, and what follows. -/
def number? (t : Text) : Except Fault (Option Nat × Text) :=
  let digits := t.takeWhile isDecimal
  if digits = [] then .ok (none, t)
  else if numberLimit < Numeral.value digits then fail "Too many decimal digits in format string"
  else .ok (some (Numeral.value digits), t.dropWhile isDecimal)

/-- The fill and the side at the beginning of a layout, and what follows. -/
def readAlign (t : Text) : Option CodePoint × Option Align × Text :=
  match t with
  | c :: d :: rest =>
    match align? d with
    | some a => (some c, some a, rest)
    | none =>
      match align? c with
      | some a => (none, some a, d :: rest)
      | none => (none, none, t)
  | [c] =>
    match align? c with
    | some a => (none, some a, [])
    | none => (none, none, t)
  | [] => (none, none, [])

/-- A character at the beginning of a text, if it is one of some, and what follows. -/
def readOne (chars : List CodePoint) : Text → Option CodePoint × Text
  | c :: rest => if chars.contains c then (some c, rest) else (none, c :: rest)
  | [] => (none, [])

/-- How a character of a layout is shown in messages. -/
def shownChar (c : CodePoint) : Text :=
  if 32 < c.toNat && c.toNat < 128 then [c] else "\\x" ++ hexCode 0 c.toNat

/-- The types for which digits may be grouped with a separator. -/
def groups (separator : CodePoint) (type : Option CodePoint) : Bool :=
  match type with
  | none => true
  | some c =>
    ("deEfFgG%" : Text).contains c || (separator = '_' && ("boxX" : Text).contains c)

/-- Read a layout for a value of a type; `number` when it has digits, which are pushed to the right. -/
def read (typeName : Text) (number : Bool) (t : Text) : Except Fault Spec := do
  let (fill, align, rest) := readAlign t
  let (sign, rest) := readOne [' ', '+', '-'] rest
  let (zero, rest) := readOne ['z'] rest
  let (hash, rest) := readOne ['#'] rest
  let (padding, rest) := if fill.isNone then readOne ['0'] rest else (none, rest)
  let align := if padding.isSome && align.isNone && number then some .inner else align
  let fill : CodePoint := if padding.isSome then '0' else fill.getD ' '
  let (width, rest) ← number? rest
  let (comma, rest) := readOne [','] rest
  let (underscore, rest) := readOne ['_'] rest
  if underscore.isSome && (comma.isSome || rest.head? = some ',') then
    fail "Cannot specify both ',' and '_'."
  let group := comma.or underscore
  let (precision, rest) ←
    match rest with
    | '.' :: rest => do
      match ← number? rest with
      | (none, _) => fail "Format specifier missing precision"
      | (some n, rest) => pure (some n, rest)
    | rest => pure (none, rest)
  let type : Option CodePoint ←
    match rest with
    | [] => pure (if number then none else some 's')
    | [c] => pure (some c)
    | _ =>
      fail ("Invalid format specifier '" ++ t ++ "' for object of type '" ++ typeName ++ "'")
  match group with
  | some separator =>
    if !groups separator type then
      fail ("Cannot specify '" ++ [separator] ++ "' with '" ++ shownChar (type.getD ' ') ++ "'.")
  | none => pure ()
  pure {
    fill, align, sign, plainZero := zero.isSome, alternate := hash.isSome, width := width.getD 0, group,
    precision, type }

/-- A layout's type that values of a type do not have. -/
def unknownType {α : Type} (c : CodePoint) (typeName : Text) : Except Fault α :=
  fail ("Unknown format code '" ++ shownChar c ++ "' for object of type '" ++ typeName ++ "'")

/-- A text in its column. -/
def pad (s : Spec) (side : Align) (t : Text) : Text :=
  let total := s.width - t.length
  let left := match s.align.getD side with
    | .left => 0
    | .right | .inner => total
    | .center => total / 2
  List.replicate left s.fill ++ t ++ List.replicate (total - left) s.fill

/-- Lay out a text. -/
def layText (s : Spec) (t : Text) : Except Fault Text :=
  match s.type with
  | some c => if c = 's' then lay else unknownType c "str"
  | none => lay
where
  /-- Lay out a text as such. -/
  lay : Except Fault Text :=
    if s.sign = some ' ' then fail "Space not allowed in string format specifier"
    else if s.sign.isSome then fail "Sign not allowed in string format specifier"
    else if s.plainZero then fail "Negative zero coercion (z) not allowed in string format specifier"
    else if s.alternate then fail "Alternate form (#) not allowed in string format specifier"
    else if s.align = some .inner then fail "'=' alignment not allowed in string format specifier"
    else .ok (s.pad .left (match s.precision with | some n => t.take n | none => t))

/-- Digits in groups of a size, counted from the right; zeros are put in front up to a width. -/
def grouped (separator : CodePoint) (size width : Nat) (digits : Text) : Text :=
  let rec go (fuel count : Nat) (reversed written : Text) : Text :=
    match fuel with
    | 0 => written
    | fuel + 1 =>
      let wanted := reversed ≠ [] || written.length < width
      if !wanted then written
      else
        let c := reversed.headD '0'
        if count = size then
          go fuel 1 (reversed.drop 1) (c :: separator :: written)
        else go fuel (count + 1) (reversed.drop 1) (c :: written)
  go (digits.length + width + 1) 0 digits.reverse []

/-- The parts of a number: its sign, what marks its base, its whole digits, and the rest. -/
structure Parts where
  negative : Bool
  base : Text := []
  whole : Text
  rest : Text := []
  deriving Repr, DecidableEq

/-- Lay out a number whose whole digits are grouped by some count. -/
def layNumber (s : Spec) (size : Nat) (p : Parts) : Text :=
  let sign : Text :=
    if p.negative then ['-']
    else
      match s.sign with
      | some '+' => ['+']
      | some ' ' => [' ']
      | _ => []
  let lead := sign ++ p.base
  let inner := s.align = some .inner
  let room := if inner && s.fill = '0' then s.width - lead.length - p.rest.length else 0
  let whole :=
    match s.group with
    | some separator => if p.whole = [] then [] else grouped separator size room p.whole
    | none => p.whole
  let body := whole ++ p.rest
  if inner then
    lead ++ List.replicate (s.width - lead.length - body.length) s.fill ++ body
  else s.pad .right (lead ++ body)

/-- The numbers of a machine word are below this one, and not below its negation. -/
def wordLimit : Int := 0x8000000000000000

/-- Lay out a character by its code point. -/
def layChar (s : Spec) (n : Int) : Except Fault Text :=
  if s.sign.isSome then fail "Sign not allowed with integer format specifier 'c'"
  else if s.alternate then fail "Alternate form (#) not allowed with integer format specifier 'c'"
  else if n < -wordLimit || wordLimit ≤ n then
    .error ⟨.overflow, "Python int too large to convert to C long"⟩
  else if n < 0 || 0x10FFFF < n then .error ⟨.overflow, "%c arg not in range(0x110000)"⟩
  else .ok (s.layNumber 3 { negative := false, whole := [], rest := [.ofNat n.toNat] })

/-- Lay out an integer to a base; the mark of the base is written in the alternate form. -/
def layBase (s : Spec) (base : Nat) (mark : Text) (capital : Bool) (n : Int) : Text :=
  let digits : Text := (Nat.toDigits base n.natAbs).map fun c => .char (if capital then c.toUpper else c)
  s.layNumber (if base = 10 then 3 else 4)
    { negative := n < 0, base := if s.alternate then mark else [], whole := digits }

/-- Lay out a fraction in fixed digits after the point. -/
def fixed (num den places : Nat) (alternate : Bool) : Text × Text :=
  let scaled := Binary64.roundHalfEven (num * Nat.pow 10 places) den
  let digits := Text.zeroPad (places + 1) (Text.ofNat scaled)
  let whole := digits.take (digits.length - places)
  let rest := digits.drop (digits.length - places)
  (whole, if places = 0 && !alternate then [] else '.' :: rest)

/-- The exponent of a fraction and its digits, of which there are `places` after the first. -/
def scientific (num den places : Nat) : Int × Text :=
  if num = 0 then (0, List.replicate (places + 1) '0')
  else
    let guess : Int := (Nat.toDigits 10 num).length - (Nat.toDigits 10 den).length
    let (n, d) := Binary64.scaled 10 num den (-guess)
    let exponent := if d ≤ n then guess else guess - 1
    let (n, d) := Binary64.scaled 10 num den (places - exponent)
    let digits := Text.ofNat (Binary64.roundHalfEven n d)
    if digits.length = places + 1 then (exponent, digits) else (exponent + 1, digits.take (places + 1))

/-- An exponent as it is written. -/
def exponentText (letter : CodePoint) (e : Int) : Text :=
  letter :: (if e < 0 then '-' else '+') :: Text.zeroPad 2 (Text.ofNat e.natAbs)

/-- Digits without the zeros at their end. -/
def trimZeros (digits : Text) : Text :=
  (digits.reverse.dropWhile (· = .char '0')).reverse

/-- A point and the digits after it; the point alone is kept in the alternate form. -/
def pointed (alternate : Bool) (digits : Text) : Text :=
  if digits = [] && !alternate then [] else '.' :: digits

/-- Lay out a fraction to a number of digits in all: with an exponent if the point is far from them. -/
def general (num den precision : Nat) (alternate dotted : Bool) (letter : CodePoint) : Text × Text :=
  let count := max precision 1
  let (exponent, digits) := scientific num den (count - 1)
  if -4 ≤ exponent && exponent < (if dotted then count - 1 else count : Int) then
    let all := if exponent < 0 then List.replicate (-exponent).toNat (.char '0') ++ digits else digits
    let places := (exponent + 1).toNat
    let whole := if exponent < 0 then [.char '0'] else all.take places
    let rest := if exponent < 0 then all.drop 1 else all.drop places
    let rest := if alternate then rest else trimZeros rest
    (whole, if dotted && rest = [] then ".0" else pointed alternate rest)
  else
    let rest := if alternate then digits.drop 1 else trimZeros (digits.drop 1)
    (digits.take 1, pointed alternate rest ++ exponentText letter exponent)

/-- The whole digits and the rest of the fewest digits of a positive number; in the alternate form a point
    stands after digits without a fraction. -/
def shortestParts (alternate : Bool) (x : Binary64) : Text × Text :=
  let t := x.toText
  let rest := t.dropWhile isDecimal
  (t.takeWhile isDecimal, if alternate && rest.head? ≠ some '.' then '.' :: rest else rest)

/-- A number in the words for what has no digits. -/
def wordParts (capital negative : Bool) (word : Text) : Parts :=
  { negative, whole := [], rest := if capital then word.upper else word }

/-- Lay out a number by its exact value. -/
def realParts (s : Spec) (type : Option CodePoint) (negative : Bool) (m : Nat) (e : Int) : Parts :=
  let (num, den) := Binary64.scaled 2 m 1 e
  let precision := s.precision.getD 6
  let (whole, rest) : Text × Text :=
    match type with
    | some 'f' | some 'F' => fixed num den precision s.alternate
    | some '%' =>
      let (whole, rest) := fixed num den precision s.alternate
      (whole, rest ++ [.char '%'])
    | some 'e' | some 'E' =>
      let (exponent, digits) := scientific num den precision
      (digits.take 1, pointed s.alternate (digits.drop 1)
        ++ exponentText (if type = some 'e' then 'e' else 'E') exponent)
    | some c => general num den precision s.alternate false (if c = 'G' then 'E' else 'e')
    | none =>
      match s.precision with
      | some n => general num den n s.alternate true 'e'
      | none => shortestParts s.alternate (.finite false m e)
  let zero := (whole ++ rest).all fun c => !(('1' ≤ c && c ≤ '9'))
  { negative := negative && !(s.plainZero && zero), whole, rest }

/-- A number of percent. -/
def hundredfold : Binary64 → Binary64
  | .finite negative m e =>
    let (num, den) := Binary64.scaled 2 (100 * m) 1 e
    Binary64.ofFraction negative num den
  | x => x

/-- The most digits that a real number may be laid out to. -/
def placesLimit : Nat := 0x7FFFFFFF

/-- Lay out a real number. -/
def layReal (s : Spec) (typeName : Text) (x : Binary64) : Except Fault Text :=
  let known : Bool :=
    match s.type with
    | none => true
    | some c => ("eEfFgGn%" : Text).contains c
  if !known then unknownType (s.type.getD ' ') typeName
  else if placesLimit < s.precision.getD 0 then fail "precision too big"
  else
    let capital := ([some 'E', some 'F', some 'G'] : List (Option CodePoint)).contains s.type
    let percent : Text := if s.type = some '%' then ['%'] else []
    let x := if s.type = some '%' then hundredfold x else x
    let parts : Parts :=
      match x with
      | .nan => wordParts capital false ("nan" ++ percent)
      | .infinite negative => wordParts capital negative ("inf" ++ percent)
      | .finite negative m e => s.realParts s.type negative m e
    .ok (s.layNumber 3 parts)

/-- Lay out an integer. -/
def layInt (s : Spec) (typeName : Text) (n : Int) : Except Fault Text :=
  let whole (lay : Except Fault Text) : Except Fault Text :=
    if s.precision.isSome then fail "Precision not allowed in integer format specifier"
    else if s.plainZero then fail "Negative zero coercion (z) not allowed in integer format specifier"
    else lay
  match s.type with
  | none | some 'd' | some 'n' => whole (.ok (s.layBase 10 [] false n))
  | some 'b' => whole (.ok (s.layBase 2 "0b" false n))
  | some 'o' => whole (.ok (s.layBase 8 "0o" false n))
  | some 'x' => whole (.ok (s.layBase 16 "0x" false n))
  | some 'X' => whole (.ok (s.layBase 16 "0X" true n))
  | some 'c' => whole (s.layChar n)
  | some c =>
    if ("eEfFgG%" : Text).contains c then
      match Binary64.ofInt n with
      | .infinite _ => .error ⟨.overflow, "int too large to convert to float"⟩
      | x => s.layReal typeName x
    else unknownType c typeName

/-- The widest column that there is memory for. -/
def widest : Nat := 100000000000

/-- A layout of values of a type, as it is read from a text. Nothing is laid out that is wider than there is
    memory for. -/
def laidOut (typeName : Text) (number : Bool) (spec : Text) (lay : Spec → Except Fault Text) : Except Fault Text := do
  let s ← read typeName number spec
  if widest < s.width then do
    let _ ← lay { s with width := 0 }
    throw ⟨.memory, ""⟩
  else lay s

end Spec

/-- Lay out a value. An empty layout writes it as part of a running text. -/
def Value.layout (v : Value) (spec : Text) : Except Fault Text :=
  if spec = [] then .ok v.shown
  else
    match v with
    | .scalar (.text t) => Spec.laidOut "str" false spec fun s => s.layText t
    | .scalar (.int n) => Spec.laidOut "int" true spec fun s => s.layInt "int" n
    | .scalar (.bool b) => Spec.laidOut "bool" true spec fun s => s.layInt "bool" (if b then 1 else 0)
    | .scalar (.real x) => Spec.laidOut "float" true spec fun s => s.layReal "float" x
    | v => .error ⟨.type, "unsupported format string passed to " ++ v.typeName ++ ".__format__"⟩

end LogStyle
