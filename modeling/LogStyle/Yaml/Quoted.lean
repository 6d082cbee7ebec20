import LogStyle.Yaml.Char

/-! # Quoted scalars

A scalar between single quotes, in which two quotes stand for one, or between double quotes, in which a
backslash starts an escape. Line ends inside fold like those of plain scalars.
-/

namespace LogStyle

namespace Yaml

namespace Quoted

/-- What the character after a backslash stands for, if it stands for one character. -/
def escaped? : CodePoint → Option CodePoint
  | '0' => some '\x00'
  | 'a' => some '\x07'
  | 'b' => some '\x08'
  | 't' | '\t' => some '\t'
  | 'n' => some '\n'
  | 'v' => some '\x0b'
  | 'f' => some '\x0c'
  | 'r' => some '\r'
  | 'e' => some '\x1b'
  | ' ' => some ' '
  | '"' => some '"'
  | '\\' => some '\\'
  | '/' => some '/'
  | 'N' => some '\x85'
  | '_' => some '\xa0'
  | 'L' => some '\u2028'
  | 'P' => some '\u2029'
  | _ => none

/-- The number of hexadecimal digits after a letter that starts a numeric escape. -/
def codeLength? : CodePoint → Option Nat
  | 'x' => some 2
  | 'u' => some 4
  | 'U' => some 8
  | _ => none

/-- The character with a code point. -/
def charOf (code : Nat) : Except Trouble CodePoint :=
  if code ≤ 0x10FFFF then .ok (.ofNat code)
  else if code ≤ 0x7FFFFFFF then .error (.impossible .value "chr() arg not in range(0x110000)")
  else .error (.impossible .overflow "Python int too large to convert to C int")

/-- The line ends after the first one in a scalar, and what follows them. A mark that ends the document may
    not stand here. -/
def furtherBreaks (lineStart : Bool) : Text → Except Trouble (Text × Text)
  | [] => .ok ([], [])
  | c :: rest =>
    if lineStart && startsDocumentMark (c :: rest) then .error .malformed
    else if isGap c then furtherBreaks false rest
    else
      match lineBreak? [c] with
      | none => .ok ([], c :: rest)
      | some (b, _) => do
        let (breaks, after) ← furtherBreaks true rest
        pure (b :: breaks, after)

/-- The blanks inside a scalar: what they are read as, and what follows. -/
def blanks (t : Text) : Except Trouble (Text × Text) :=
  let spaces := t.takeWhile isGap
  let after := t.dropWhile isGap
  match after with
  | [] => .error .unfinished
  | c :: rest =>
    match lineBreak? [c] with
    | none => .ok (spaces, after)
    | some (first, _) => do
      let (others, after) ← furtherBreaks true rest
      pure (foldBreaks first others, after)

/-- One step inside double quotes, after a backslash: what it is read as, and what follows. -/
def escape (t : Text) : Except Trouble (Text × Text) :=
  match t with
  | [] => .error .unfinished
  | c :: rest =>
    match escaped? c, codeLength? c with
    | some e, _ => .ok ([e], rest)
    | none, some count =>
      let digits := rest.take count
      if digits.length = count && digits.all fun d => (Literal.hexValue? d).isSome then
        (charOf (Literal.digitsValue 16 digits)).map fun e => ([e], rest.drop count)
      else .error .malformed
    | none, none =>
      match lineBreak? [c] with
      | none => .error .malformed
      | some _ => furtherBreaks true rest

/-- Read a scalar between quotes, the opening one of which has been read. -/
def readFrom (fuel : Nat) (mark : CodePoint) (t : Text) : Except Trouble (Text × Text) :=
  match fuel with
  | 0 => .error .malformed
  | fuel + 1 =>
    match t with
    | [] => .error .unfinished
    | c :: rest =>
      if c = mark then
        if mark = '\x27' && peek rest = mark then do
          let (value, after) ← readFrom fuel mark (rest.drop 1)
          pure (mark :: value, after)
        else .ok ([], rest)
      else if c = '\\' && mark = '"' then do
        let (piece, after) ← escape rest
        let (value, after) ← readFrom fuel mark after
        pure (piece ++ value, after)
      else if isGap c || isBreak c then do
        let (piece, after) ← blanks t
        let (value, after) ← readFrom fuel mark after
        pure (piece ++ value, after)
      else do
        let (value, after) ← readFrom fuel mark rest
        pure (c :: value, after)

/-- Read a scalar whose opening quote has been read. -/
def read (mark : CodePoint) (t : Text) : Except Trouble (Text × Text) :=
  readFrom (t.length + 1) mark t

end Quoted

end Yaml

end LogStyle
