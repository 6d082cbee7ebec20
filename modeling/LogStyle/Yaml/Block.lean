import LogStyle.Yaml.Char

/-! # Block scalars

A scalar that is set off by its indentation, taken line by line. A header says whether line ends are kept
or folded, what becomes of those at the end, and how deep the lines are indented; else the first line that
is not empty decides the depth.
-/

namespace LogStyle

namespace Yaml

namespace Block

/-- What becomes of the line ends after the last line. -/
inductive Chomping where
  /-- All but the first are dropped. -/
  | clip
  /-- All are dropped. -/
  | strip
  /-- All are kept. -/
  | keep
  deriving Repr, DecidableEq

/-- The header of a block scalar. -/
structure Header where
  chomping : Chomping := .clip
  /-- The depth of the lines below that of the surroundings, when it is stated. -/
  increment : Option Nat := none
  deriving Repr, DecidableEq

/-- The chomping that a character asks for. -/
def chomping? : CodePoint → Option Chomping
  | '+' => some .keep
  | '-' => some .strip
  | _ => none

/-- The depth that a character states, and whether it may. -/
def increment? (c : CodePoint) : Option Nat :=
  if isBasicDigit c then some (c.toNat - '0'.toNat) else none

/-- What follows a line's comment and its end, if nothing else stands there. -/
def restOfLine? (t : Text) : Option Text :=
  let after := t.dropWhile (· = .char ' ')
  let after := if peek after = '#' then after.dropWhile fun c => !isBreak c else after
  match lineBreak? after with
  | some (_, rest) => some rest
  | none => if after = [] then some [] else none

/-- Read a header and the rest of its line. -/
def header? (t : Text) : Option (Header × Text) :=
  let marked : Header × Text :=
    match chomping? (peek t), increment? (peek t) with
    | some chomping, _ =>
      match increment? (peekAt 1 t) with
      | some n => (⟨chomping, some n⟩, t.drop 2)
      | none => (⟨chomping, none⟩, t.drop 1)
    | none, some n =>
      match chomping? (peekAt 1 t) with
      | some chomping => (⟨chomping, some n⟩, t.drop 2)
      | none => (⟨.clip, some n⟩, t.drop 1)
    | none, none => ({}, t)
  if marked.1.increment = some 0 || !isSpaceOrEnd (peek marked.2) then none
  else (restOfLine? marked.2).map fun rest => (marked.1, rest)

/-- The empty lines at the beginning, the widest indentation among them and the line after them, and what
    follows; `column` is the place in the line. -/
def leadingLines (column : Nat) : Text → Text × Nat × Nat × Text
  | [] => ([], 0, column, [])
  | c :: rest =>
    if c = ' ' then
      let (breaks, widest, last, after) := leadingLines (column + 1) rest
      (breaks, max (column + 1) widest, last, after)
    else
      match lineBreak? [c] with
      | some (b, _) =>
        let (breaks, widest, last, after) := leadingLines 0 rest
        (b :: breaks, widest, last, after)
      | none => ([], 0, column, c :: rest)

/-- The empty lines before the next line, whose indentation is taken off up to a depth; and the place in
    that line. -/
def emptyLines (indent column : Nat) : Text → Text × Nat × Text
  | [] => ([], column, [])
  | c :: rest =>
    if c = ' ' && column < indent then emptyLines indent (column + 1) rest
    else
      match lineBreak? [c] with
      | some (b, _) =>
        let (breaks, last, after) := emptyLines indent 0 rest
        (b :: breaks, last, after)
      | none => ([], column, c :: rest)

/-- What the end of a line is read as between two lines. -/
def between (folded : Bool) (lineEnd : Text) (blankBefore blankAfter : Bool) (breaks : Text) : Text :=
  if folded && lineEnd = [.char '\n'] && !blankBefore && !blankAfter then
    if breaks = [] then [' '] else []
  else lineEnd

/-- The line ends that are left after the last line. -/
def trailing (chomping : Chomping) (lineEnd breaks : Text) : Text :=
  match chomping with
  | .clip => lineEnd
  | .strip => []
  | .keep => lineEnd ++ breaks

/-- Read the lines at a depth. Before them stand the line ends `breaks`; `column` is the place in the line.
    The place where the scalar ends is given back too. -/
def readLines (fuel : Nat) (folded : Bool) (chomping : Chomping) (indent : Nat) (lineEnd breaks : Text)
    (column : Nat) (t : Text) : Text × Text :=
  match fuel with
  | 0 => ([], t)
  | fuel + 1 =>
    if column = indent && t ≠ [] then
      let line := t.takeWhile fun c => !isBreak c
      let after := t.dropWhile fun c => !isBreak c
      let (nextEnd, afterBreak) : Text × Text :=
        match lineBreak? after with
        | some (b, rest) => ([b], rest)
        | none => ([], after)
      let (nextBreaks, nextColumn, rest) := emptyLines indent (if nextEnd = [] then column + line.length else 0) afterBreak
      let join : Text :=
        if nextColumn = indent && rest ≠ [] then
          between folded nextEnd (isGap (peek line)) (isGap (peek rest)) nextBreaks
        else []
      let (value, rest) := readLines fuel folded chomping indent nextEnd nextBreaks nextColumn rest
      (breaks ++ line ++ join ++ value, rest)
    else (trailing chomping lineEnd breaks, t)

/-- Read a block scalar after its indicator. The surroundings are indented to `outer`. -/
def read? (folded : Bool) (outer : Int) (t : Text) : Option (Text × Text) := do
  let (header, t) ← header? t
  let least := (max (outer + 1) 1).toNat
  match header.increment with
  | some n =>
    let indent := least + n - 1
    let (breaks, column, rest) := emptyLines indent 0 t
    pure (readLines (t.length + 1) folded header.chomping indent [] breaks column rest)
  | none =>
    let (breaks, widest, column, rest) := leadingLines 0 t
    pure (readLines (t.length + 1) folded header.chomping (max least widest) [] breaks column rest)

end Block

end Yaml

end LogStyle
