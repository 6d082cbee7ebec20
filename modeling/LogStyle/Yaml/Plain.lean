import LogStyle.Yaml.Char

/-! # Plain scalars

A scalar without quotes. It ends before a comment, before what could be a mapping's colon, and, inside
brackets, before what separates entries. It may go on for several lines as long as they are indented.
-/

namespace LogStyle

namespace Yaml

namespace Plain

/-- Whether a character between brackets separates entries. -/
def separates (flow : Bool) (c : CodePoint) : Bool :=
  flow && (c = ',' || c = '[' || c = ']' || c = '\x7b' || c = '\x7d')

/-- Whether a stretch of a plain scalar ends before a character, given the one after it. -/
def stops (flow : Bool) (c next : CodePoint) : Bool :=
  isBlankOrEnd c || (c = ':' && (isBlankOrEnd next || separates flow next)) || separates flow c
    || (flow && c = '?')

/-- The stretch of a plain scalar up to the next blank, and what follows it. -/
def stretch (flow : Bool) : Text → Text × Text
  | [] => ([], [])
  | c :: rest =>
    if stops flow c (peek rest) then ([], c :: rest)
    else
      let (run, after) := stretch flow rest
      (c :: run, after)

/-- The line ends and the spaces of empty lines, and what follows them. At a mark that ends the document
    nothing is told. -/
def emptyLines : Text → Option (Text × Text)
  | [] => some ([], [])
  | c :: rest =>
    if c = ' ' then emptyLines rest
    else
      match lineBreak? [c] with
      | none => some ([], c :: rest)
      | some (b, _) =>
        if startsDocumentMark rest then none
        else (emptyLines rest).map fun (breaks, after) => (b :: breaks, after)

/-- What separates two stretches. -/
structure Gap where
  /-- What the gap is read as; nothing when the scalar ends here. -/
  spaces : Text
  rest : Text
  /-- Whether a line end was passed. -/
  newLine : Bool
  deriving Repr, DecidableEq

/-- Where a scalar that is followed by a document's end leaves off. -/
def skipToMark : Text → Text
  | [] => []
  | c :: rest => if startsDocumentMark (c :: rest) then c :: rest else skipToMark rest

/-- The gap after a stretch. -/
def gap (t : Text) : Gap :=
  let spaces := t.takeWhile (· = .char ' ')
  let after := t.dropWhile (· = .char ' ')
  match lineBreak? after with
  | none => ⟨spaces, after, false⟩
  | some (first, rest) =>
    if startsDocumentMark rest then ⟨[], rest, true⟩
    else
      match emptyLines rest with
      | none => ⟨[], skipToMark rest, true⟩
      | some (others, rest) => ⟨foldBreaks first others, rest, true⟩

/-- The number of characters between the start of a line and a text that the line ends with. -/
def columnIn (before : Text) : Nat :=
  (before.reverse.takeWhile fun c => !isBreak c).length

/-- The column after a gap that a text starts with, if a line end is in it. -/
def Gap.column (g : Gap) (t : Text) : Nat :=
  columnIn (t.take (t.length - g.rest.length))

/-- A plain scalar: its value, what follows, and whether it ended at a line end. -/
structure Found where
  value : Text
  rest : Text
  newLine : Bool
  deriving Repr, DecidableEq

/-- Read a plain scalar whose further lines are indented to a column. The value read so far ends with what
    the last gap was read as. -/
def readFrom (fuel : Nat) (flow : Bool) (indent : Nat) (spaces : Text) (newLine : Bool) (t : Text) : Found :=
  match fuel with
  | 0 => ⟨[], t, newLine⟩
  | fuel + 1 =>
    if peek t = '#' then ⟨[], t, newLine⟩
    else
      let (run, after) := stretch flow t
      if run = [] then ⟨[], t, newLine⟩
      else
        let g := gap after
        if g.spaces = [] || peek g.rest = '#' || (!flow && g.newLine && g.column after < indent) then
          ⟨spaces ++ run, g.rest, g.newLine⟩
        else
          let found := readFrom fuel flow indent g.spaces g.newLine g.rest
          { found with value := spaces ++ run ++ found.value }

/-- Read a plain scalar. -/
def read (flow : Bool) (indent : Nat) (t : Text) : Found :=
  readFrom (t.length + 1) flow indent [] false t

end Plain

end Yaml

end LogStyle
