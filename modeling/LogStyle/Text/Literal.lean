import LogStyle.Text.Encoding

/-! # String literals

A string literal is a body between double quotes in which a backslash starts an escape. `encode` writes
a text as a literal by escaping quotes and backslashes only; `decode` reads every escape.

An escape may ask for a character by its name. Which characters have which names is not said here: it is taken
as given, and whatever is said of literals holds for all names.

Faults in escapes are located by offsets in the body. There a character outside the basic 128 counts
`wideWidth`, and a backslash in front of one counts `widenedBackslash`, because offsets count the body
as it reads with such characters written out as eight-digit escapes.
-/

namespace LogStyle

/-- The names of characters. -/
class CharNames where
  /-- The character with a name, which is a text of basic characters. -/
  named? : Text → Option Char

/-- No character has a name. -/
@[reducible] def CharNames.none : CharNames :=
  ⟨fun _ => .none⟩

namespace Literal

/-- What is wrong with an escape. -/
inductive EscapeFault where
  | truncatedByte
  | truncatedShort
  | truncatedLong
  | beyondUnicode
  | malformedName
  | unknownName
  deriving Repr, DecidableEq

/-- Why a literal has no value. -/
inductive Fault where
  /-- The literal holds surrogates. -/
  | unencodable (run : SurrogateRun)
  /-- The body holds the null character. -/
  | containsNull
  /-- The given line of the literal ends before the closing quote. -/
  | unterminated (line : Nat)
  /-- The escape between two offsets cannot be read; the literal ends on the given line. -/
  | badEscape (first last : Nat) (why : EscapeFault) (line : Nat)
  deriving Repr, DecidableEq

/-- What an escape fault is called. -/
def EscapeFault.message : EscapeFault → Text
  | .truncatedByte => "truncated \\xXX escape"
  | .truncatedShort => "truncated \\uXXXX escape"
  | .truncatedLong => "truncated \\UXXXXXXXX escape"
  | .beyondUnicode => "illegal Unicode character"
  | .malformedName => "malformed \\N character escape"
  | .unknownName => "unknown Unicode character name"

/-- The wording of a fault. -/
def Fault.message : Fault → Text
  | .unencodable run => run.message
  | .containsNull => "source code string cannot contain null bytes"
  | .unterminated line =>
    "unterminated string literal (detected at line " ++ Text.ofNat line ++ ") (<unknown>, line 1)"
  | .badEscape first last why line =>
    "(unicode error) 'unicodeescape' codec can't decode bytes in position " ++ Text.ofNat first ++ "-"
      ++ Text.ofNat last ++ ": " ++ why.message ++ " (<unknown>, line " ++ Text.ofNat line ++ ")"

/-- How one character is written in the body of a literal. -/
def encodeChar (c : CodePoint) : Text :=
  if c = '"' || c = '\\' then ['\\', c] else [c]

/-- Write a text as a literal. -/
def encode (t : Text) : Text :=
  .char '"' :: t.flatMap encodeChar ++ [.char '"']

/-- Whether a character is one of the basic 128. -/
def isBasic (c : CodePoint) : Bool :=
  c.toNat < 0x80

/-- The offsets taken up by a character outside the basic 128. -/
def wideWidth : Nat := 10

/-- The offsets taken up by a backslash in front of a character outside the basic 128. -/
def widenedBackslash : Nat := 6

/-- The offsets taken up by one character. -/
def charWidth (c : CodePoint) : Nat :=
  if isBasic c then 1 else wideWidth

/-- The offsets taken up by a stretch of the body. -/
def width : Text → Nat
  | [] => 0
  | '\\' :: c :: rest =>
    (if isBasic c then 2 else widenedBackslash + wideWidth) + width rest
  | c :: rest => charWidth c + width rest

/-- The line on which a body breaks off: the first with a line feed that no backslash precedes. -/
def brokenLine? (line : Nat) : Text → Option Nat
  | [] => none
  | '\n' :: _ => some line
  | '\\' :: '\n' :: rest => brokenLine? (line + 1) rest
  | '\\' :: _ :: rest => brokenLine? line rest
  | _ :: rest => brokenLine? line rest

/-- The value of a hexadecimal digit. -/
def hexValue? (c : CodePoint) : Option Nat :=
  if '0' ≤ c && c ≤ '9' then some (c.toNat - '0'.toNat)
  else if 'a' ≤ c && c ≤ 'f' then some (c.toNat - 'a'.toNat + 10)
  else if 'A' ≤ c && c ≤ 'F' then some (c.toNat - 'A'.toNat + 10)
  else none

/-- The number written by a row of digits in a base. -/
def digitsValue (base : Nat) (digits : Text) : Nat :=
  digits.foldl (fun n c => base * n + (hexValue? c).getD 0) 0

/-- Whether a character is an octal digit. -/
def isOctal (c : CodePoint) : Bool :=
  '0' ≤ c && c ≤ '7'

/-- One escape that has been read: what it stands for, the offsets it takes up, and how many characters
    after the backslash belong to it. -/
structure Escape where
  value : Text
  width : Nat
  length : Nat
  deriving Repr, DecidableEq

/-- Read an escape of a fixed number of hexadecimal digits; `after` follows its letter. -/
def hexEscape (count : Nat) (truncated : EscapeFault) (offset : Nat) (after : Text) :
    Except (Nat × Nat × EscapeFault) Escape :=
  let digits := (after.take count).takeWhile (hexValue? · |>.isSome)
  if digits.length < count then .error (offset, offset + 1 + digits.length, truncated)
  else if 0x10FFFF < digitsValue 16 digits then .error (offset, offset + 1 + count, .beyondUnicode)
  else .ok ⟨[.ofNat (digitsValue 16 digits)], 2 + count, 1 + count⟩

section

variable [CharNames]

/-- The character with a name, if the name is in basic characters and a character has it. -/
def named? (name : Text) : Option Char :=
  if name.all isBasic then CharNames.named? name else none

/-- Read an escape by name; `after` follows its letter. -/
def nameEscape (offset : Nat) (after : Text) : Except (Nat × Nat × EscapeFault) Escape :=
  match after with
  | '\x7b' :: after =>
    match Text.cut? '\x7d' after with
    | none => .error (offset, offset + 2 + width after, .malformedName)
    | some ([], _) => .error (offset, offset + 2, .malformedName)
    | some (name, _) =>
      match named? name with
      | some c => .ok ⟨[c], 4 + name.length, 3 + name.length⟩
      | none => .error (offset, offset + 3 + width name, .unknownName)
  | _ => .error (offset, offset + 1, .malformedName)

/-- Read the escape whose backslash stands at an offset; the character after it is given apart. -/
def readEscape (offset : Nat) (c : CodePoint) (after : Text) :
    Except (Nat × Nat × EscapeFault) Escape :=
  if !isBasic c then .ok ⟨['\\'], widenedBackslash, 0⟩
  else if isOctal c then
    let digits := c :: (after.take 2).takeWhile isOctal
    .ok ⟨[.ofNat (digitsValue 8 digits)], 1 + digits.length, digits.length⟩
  else
    match c with
    | '\n' => .ok ⟨[], 2, 1⟩
    | '\\' => .ok ⟨['\\'], 2, 1⟩
    | '\x27' => .ok ⟨['\x27'], 2, 1⟩
    | '"' => .ok ⟨['"'], 2, 1⟩
    | 'a' => .ok ⟨['\x07'], 2, 1⟩
    | 'b' => .ok ⟨['\x08'], 2, 1⟩
    | 'f' => .ok ⟨['\x0c'], 2, 1⟩
    | 'n' => .ok ⟨['\n'], 2, 1⟩
    | 'r' => .ok ⟨['\r'], 2, 1⟩
    | 't' => .ok ⟨['\t'], 2, 1⟩
    | 'v' => .ok ⟨['\x0b'], 2, 1⟩
    | 'x' => hexEscape 2 .truncatedByte offset after
    | 'u' => hexEscape 4 .truncatedShort offset after
    | 'U' => hexEscape 8 .truncatedLong offset after
    | 'N' => nameEscape offset after
    | _ => .ok ⟨['\\', c], 2, 1⟩

/-- The value of a body that starts at an offset and whose line ends are unified. -/
def decodeBody (offset : Nat) (body : Text) : Except (Nat × Nat × EscapeFault) Text :=
  match body with
  | [] => .ok []
  | '\\' :: c :: after => do
    let escape ← readEscape offset c after
    let rest ← decodeBody (offset + escape.width) ((c :: after).drop escape.length)
    pure (escape.value ++ rest)
  | c :: after => do
    let rest ← decodeBody (offset + charWidth c) after
    pure (c :: rest)
termination_by body.length
decreasing_by
  all_goals simp only [List.length_cons, List.length_drop]; omega

/-- Read the body of a literal. A run of surrogates is located in the literal, whose quote stands before its
    body. -/
def decode (body : Text) : Except Fault Text :=
  match body.surrogateRun? with
  | some run => .error (.unencodable { run with position := 1 + run.position })
  | none =>
    if body.contains '\x00' then .error .containsNull
    else
      let unified := Text.unifyLineEnds body
      match brokenLine? 1 unified with
      | some line => .error (.unterminated line)
      | none =>
        match decodeBody 0 unified with
        | .ok t => .ok t
        | .error (first, last, why) => .error (.badEscape first last why (1 + unified.count (.char '\n')))

end

end Literal

end LogStyle
