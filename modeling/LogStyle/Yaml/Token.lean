import LogStyle.Text.Numeral
import LogStyle.Yaml.Block
import LogStyle.Yaml.Plain
import LogStyle.Yaml.Quoted
import LogStyle.Yaml.Tag

/-! # Tokens of YAML texts

A text is cut into tokens from left to right. Indentation opens and closes blocks. A key without a question
mark is known as one only when its colon is read, so the place of every token that could be such a key is
kept until then.
-/

namespace LogStyle

namespace Yaml

/-- A piece of a YAML text. -/
inductive Token where
  /-- The major number of the version that a text asks for. -/
  | version (major : Nat)
  /-- What a handle of tags stands for. -/
  | handle (name beginning : Text)
  /-- A directive without a meaning. -/
  | directive
  | documentStart
  | documentEnd
  | blockList
  | blockMap
  | blockEnd
  | flowList
  | flowListEnd
  | flowMap
  | flowMapEnd
  | key
  | value
  | blockItem
  | flowItem
  | alias (name : Text)
  | anchor (name : Text)
  | tag (tag : TagText)
  | scalar (t : Text) (plain : Bool)
  /-- The text cannot be read from here on. -/
  | broken (trouble : Trouble)
  deriving Repr, DecidableEq

/-- A place in a text. -/
structure Cursor where
  rest : Text
  index : Nat := 0
  line : Nat := 0
  column : Nat := 0
  deriving Repr, DecidableEq

namespace Cursor

/-- The place after one more character. A byte order mark takes up no column. -/
def pass (c : Cursor) (char : CodePoint) : Cursor :=
  let rest := c.rest.drop 1
  if isBreak char then ⟨rest, c.index + 1, c.line + 1, 0⟩
  else if char = '\ufeff' then ⟨rest, c.index + 1, c.line, c.column⟩
  else ⟨rest, c.index + 1, c.line, c.column + 1⟩

/-- The place after some more characters, or at the end of the text. -/
def skip (c : Cursor) (count : Nat) : Cursor :=
  match count, c.rest with
  | count + 1, char :: _ => (c.pass char).skip count
  | _, _ => c

/-- The place where a text is left that the present one ends with. -/
def moveTo (c : Cursor) (rest : Text) : Cursor :=
  c.skip (c.rest.length - rest.length)

end Cursor

/-- A token that could be a key, by its number and its place. -/
structure PossibleKey where
  number : Nat
  /-- Nothing but a key can stand here. -/
  required : Bool
  index : Nat
  line : Nat
  column : Nat
  deriving Repr, DecidableEq

/-- A text of which some tokens have been read. -/
structure Scan where
  cursor : Cursor
  /-- Why nothing can be read behind the text, if it is not the whole text. -/
  beyond : Option Trouble := none
  /-- The number of brackets that are open. -/
  flow : Nat := 0
  /-- The column of the innermost open block. -/
  indent : Int := -1
  /-- The columns of the blocks around it. -/
  outer : List Int := []
  allowKey : Bool := true
  /-- The possible key at the present depth of brackets. -/
  possible : Option PossibleKey := none
  /-- The possible keys at the depths around it. -/
  outerPossible : List (Option PossibleKey) := []
  /-- The tokens read so far, the last one first. -/
  tokens : List Token := []
  deriving Repr, DecidableEq

namespace Scan

/-- Add a token. -/
def push (s : Scan) (token : Token) : Scan :=
  { s with tokens := token :: s.tokens }

/-- Put a token in the place of the one with a number. -/
def pushAt (s : Scan) (number : Nat) (token : Token) : Scan :=
  let later := s.tokens.length - number
  { s with tokens := s.tokens.take later ++ token :: s.tokens.drop later }

/-- Go on where a text is left. -/
def goTo (s : Scan) (rest : Text) : Scan :=
  { s with cursor := s.cursor.moveTo rest }

/-- Go on after some characters. -/
def skip (s : Scan) (count : Nat) : Scan :=
  { s with cursor := s.cursor.skip count }

/-- The most characters between a key and its colon. -/
def keyLimit : Nat := 1024

/-- Whether a possible key has become impossible: its colon must stand on the same line and not too far. -/
def isStale (s : Scan) (k : PossibleKey) : Bool :=
  k.line ≠ s.cursor.line || keyLimit < s.cursor.index - k.index

/-- Forget a possible key that has become impossible. -/
def checkKey (s : Scan) : Option PossibleKey → Except Trouble (Option PossibleKey)
  | none => .ok none
  | some k =>
    if s.isStale k then if k.required then .error .malformed else .ok none
    else .ok (some k)

/-- Forget all possible keys that have become impossible. -/
def dropStale (s : Scan) : Except Trouble Scan := do
  let outerPossible ← s.outerPossible.mapM s.checkKey
  let possible ← s.checkKey s.possible
  pure { s with possible, outerPossible }

/-- Forget the possible key at the present depth. -/
def dropKey (s : Scan) : Except Trouble Scan :=
  match s.possible with
  | some k => if k.required then .error .malformed else .ok { s with possible := none }
  | none => .ok s

/-- Keep the next token as a possible key, if there may be one. -/
def keepKey (s : Scan) : Except Trouble Scan :=
  if s.allowKey then do
    let s ← s.dropKey
    let c := s.cursor
    let required := s.flow = 0 && s.indent = c.column
    pure { s with possible := some ⟨s.tokens.length, required, c.index, c.line, c.column⟩ }
  else .ok s

/-- Close the blocks that are indented deeper than a column. -/
def closeBlocks (column indent : Int) (tokens : List Token) : List Int → Int × List Int × List Token
  | [] => (indent, [], tokens)
  | next :: outer =>
    if column < indent then closeBlocks column next (.blockEnd :: tokens) outer
    else (indent, next :: outer, tokens)

/-- Close the blocks that end at a column. Between brackets indentation does not count. -/
def unwind (s : Scan) (column : Int) : Scan :=
  if s.flow ≠ 0 then s
  else
    let (indent, outer, tokens) := closeBlocks column s.indent s.tokens s.outer
    { s with indent, outer, tokens }

/-- Open a block at a column if it is deeper than the present one; whether it was opened. -/
def openBlock (s : Scan) (column : Nat) : Scan × Bool :=
  if s.indent < column then ({ s with indent := column, outer := s.indent :: s.outer }, true)
  else (s, false)

/-- Open a block at the present column, outside brackets. -/
def openHere (s : Scan) (token : Token) : Except Trouble Scan :=
  if s.flow ≠ 0 then .ok s
  else if !s.allowKey then .error .malformed
  else
    match s.openBlock s.cursor.column with
    | (s, true) => .ok (s.push token)
    | (s, false) => .ok s

/-- The place after the blanks, comments and line ends that a text starts with, which stands at a place, and
    whether a line end was passed. -/
def skipBlanks (comment newLine : Bool) (c : Cursor) : Text → Cursor × Bool
  | [] => (c, newLine)
  | char :: rest =>
    if isBreak char then skipBlanks false true (c.pass char) rest
    else if comment then skipBlanks true newLine (c.pass char) rest
    else if char = ' ' then skipBlanks false newLine (c.pass char) rest
    else if char = '#' then skipBlanks true newLine (c.pass char) rest
    else (c, newLine)

/-- Go to the next token. -/
def toNext (s : Scan) : Except Trouble Scan := do
  let s := if s.cursor.index = 0 && peek s.cursor.rest = '\ufeff' then s.skip 1 else s
  let (cursor, newLine) := skipBlanks false false s.cursor s.cursor.rest
  let s := { s with cursor }
  let s := if newLine && s.flow = 0 then { s with allowKey := true } else s
  let s ← s.dropStale
  pure (s.unwind s.cursor.column)

/-- What cannot be read. -/
def orMalformed {α : Type} : Option α → Except Trouble α
  | some a => .ok a
  | none => .error .malformed

/-- A number of a version, and what follows. -/
def versionNumber (t : Text) : Except Trouble (Nat × Text) :=
  let digits := t.takeWhile isBasicDigit
  if digits = [] then .error .malformed
  else
    match Numeral.readNat digits with
    | .ok n => .ok (n, t.dropWhile isBasicDigit)
    | .error fault => .error (.impossible .value fault.message)

/-- The version that a directive asks for, and what follows. -/
def version (t : Text) : Except Trouble (Token × Text) := do
  let (major, dot) ← versionNumber (t.dropWhile (· = ' '))
  if peek dot ≠ '.' then throw .malformed
  else do
    let (_, rest) ← versionNumber (dot.drop 1)
    if isSpaceOrEnd (peek rest) then pure (.version major, rest) else throw .malformed

/-- What a directive makes a handle stand for, and what follows. -/
def handle? (t : Text) : Option (Token × Text) := do
  let (name, after) ← TagText.handle? (t.dropWhile (· = ' '))
  if peek after = ' ' then do
    let (beginning, rest) ← TagText.rest? (after.dropWhile (· = ' '))
    if isSpaceOrEnd (peek rest) then pure (.handle name beginning, rest) else none
  else none

/-- A directive after its percent sign, and what follows its line. -/
def directive (t : Text) : Except Trouble (Token × Text) := do
  let name := t.takeWhile isNameChar
  let after := t.dropWhile isNameChar
  if name = [] || !isSpaceOrEnd (peek after) then throw .malformed
  else do
    let (token, rest) ←
      if name = "YAML" then version after
      else if name = "TAG" then orMalformed (handle? after)
      else pure (.directive, after.dropWhile fun c => !isBreak c)
    let rest ← orMalformed (Block.restOfLine? rest)
    pure (token, rest)

/-- The name of an anchor or an alias after its sign, and what follows. -/
def name? (t : Text) : Option (Text × Text) :=
  let name := t.takeWhile isNameChar
  let after := t.dropWhile isNameChar
  let next := peek after
  if name ≠ [] && (isBlankOrEnd next || ("?:,]\x7d%@\x60" : Text).contains next) then some (name, after)
  else none

/-- Whether a plain scalar may start here. -/
def startsPlain (flow : Bool) (c next : CodePoint) : Bool :=
  !(isBlankOrEnd c || ("-?:,[]\x7b\x7d#&*!|>\"%@\x60\x27" : Text).contains c)
    || (!isBlankOrEnd next && (c = '-' || (!flow && (c = '?' || c = ':'))))

/-- Read a directive. -/
def readDirective (s : Scan) : Except Trouble Scan := do
  let s ← (s.unwind (-1)).dropKey
  let (token, rest) ← directive (s.cursor.rest.drop 1)
  pure (({ s with allowKey := false }.goTo rest).push token)

/-- Read a mark that starts or ends a document. -/
def readDocumentMark (token : Token) (s : Scan) : Except Trouble Scan := do
  let s ← (s.unwind (-1)).dropKey
  pure (({ s with allowKey := false }.skip 3).push token)

/-- Read an opening bracket. -/
def readOpening (token : Token) (s : Scan) : Except Trouble Scan := do
  let s ← s.keepKey
  let s := { s with
    flow := s.flow + 1, allowKey := true, possible := none, outerPossible := s.possible :: s.outerPossible }
  pure ((s.skip 1).push token)

/-- Read a closing bracket. -/
def readClosing (token : Token) (s : Scan) : Except Trouble Scan := do
  let s ← s.dropKey
  match s.outerPossible with
  | [] => .error .malformed
  | possible :: outerPossible =>
    let s := { s with flow := s.flow - 1, allowKey := false, possible, outerPossible }
    pure ((s.skip 1).push token)

/-- Read a comma between brackets. -/
def readFlowItem (s : Scan) : Except Trouble Scan := do
  let s ← s.dropKey
  pure (({ s with allowKey := true }.skip 1).push .flowItem)

/-- Read the dash of a list's item. -/
def readBlockItem (s : Scan) : Except Trouble Scan := do
  let s ← s.openHere .blockList
  let s ← { s with allowKey := true }.dropKey
  pure ((s.skip 1).push .blockItem)

/-- Read the question mark of a key. -/
def readKey (s : Scan) : Except Trouble Scan := do
  let s ← s.openHere .blockMap
  let s ← { s with allowKey := s.flow = 0 }.dropKey
  pure ((s.skip 1).push .key)

/-- Read the colon of a value: the possible key before it is one. -/
def readValue (s : Scan) : Except Trouble Scan := do
  match s.possible with
  | some k =>
    let s := { s with possible := none, allowKey := false }.pushAt k.number .key
    let s :=
      if s.flow ≠ 0 then s
      else
        match s.openBlock k.column with
        | (s, true) => s.pushAt k.number .blockMap
        | (s, false) => s
    pure ((s.skip 1).push .value)
  | none =>
    let s ← s.openHere .blockMap
    pure (({ s with allowKey := s.flow = 0 }.skip 1).push .value)

/-- Read an alias or an anchor. -/
def readName (token : Text → Token) (s : Scan) : Except Trouble Scan := do
  let s ← s.keepKey
  let (name, rest) ← orMalformed (name? (s.cursor.rest.drop 1))
  pure (({ s with allowKey := false }.goTo rest).push (token name))

/-- Read a tag. -/
def readTag (s : Scan) : Except Trouble Scan := do
  let s ← s.keepKey
  let (tag, rest) ← orMalformed (TagText.read? s.cursor.rest)
  pure (({ s with allowKey := false }.goTo rest).push (.tag tag))

/-- Read a block scalar. -/
def readBlock (folded : Bool) (s : Scan) : Except Trouble Scan := do
  let s ← { s with allowKey := true }.dropKey
  let (t, rest) ← orMalformed (Block.read? folded s.indent (s.cursor.rest.drop 1))
  pure ((s.goTo rest).push (.scalar t false))

/-- Read a quoted scalar. -/
def readQuoted (mark : CodePoint) (s : Scan) : Except Trouble Scan := do
  let s ← s.keepKey
  let (t, rest) ← Quoted.read mark (s.cursor.rest.drop 1)
  pure (({ s with allowKey := false }.goTo rest).push (.scalar t false))

/-- Read a plain scalar. -/
def readPlain (s : Scan) : Except Trouble Scan := do
  let s ← s.keepKey
  let found := Plain.read (s.flow ≠ 0) (s.indent + 1).toNat s.cursor.rest
  pure (({ s with allowKey := found.newLine }.goTo found.rest).push (.scalar found.value true))

/-- Read the next token. -/
def step (s : Scan) : Except Trouble Scan :=
  let t := s.cursor.rest
  let c := peek t
  let flow : Bool := s.flow ≠ 0
  let atMark : Bool := s.cursor.column = 0 && startsDocumentMark t
  if c = '%' && s.cursor.column = 0 then s.readDirective
  else if c = '-' && atMark then s.readDocumentMark .documentStart
  else if c = '.' && atMark then s.readDocumentMark .documentEnd
  else if c = '[' then s.readOpening .flowList
  else if c = '\x7b' then s.readOpening .flowMap
  else if c = ']' then s.readClosing .flowListEnd
  else if c = '\x7d' then s.readClosing .flowMapEnd
  else if c = ',' then s.readFlowItem
  else if c = '-' && isBlankOrEnd (peekAt 1 t) then s.readBlockItem
  else if c = '?' && (flow || isBlankOrEnd (peekAt 1 t)) then s.readKey
  else if c = ':' && (flow || isBlankOrEnd (peekAt 1 t)) then s.readValue
  else if c = '*' then s.readName .alias
  else if c = '&' then s.readName .anchor
  else if c = '!' then s.readTag
  else if c = '|' && !flow then s.readBlock false
  else if c = '>' && !flow then s.readBlock true
  else if c = '\x27' || c = '"' then s.readQuoted c
  else if startsPlain flow c (peekAt 1 t) then s.readPlain
  else .error .malformed

/-- Close what is open at the end of a text. -/
def finish (s : Scan) : Except Trouble Scan :=
  (s.unwind (-1)).dropKey

/-- The number of tokens that are settled: those before the first that could still turn out to be a key. -/
def settled (s : Scan) : Nat :=
  (s.possible :: s.outerPossible).foldl (fun least k =>
    match k with
    | some k => if s.isStale k then least else min least k.number
    | none => least) s.tokens.length

/-- The settled tokens of a text that cannot be read any further. -/
def broken (s : Scan) (trouble : Trouble) : List Token :=
  let trouble := if trouble = .unfinished then s.beyond.getD trouble else trouble
  s.tokens.reverse.take s.settled ++ [.broken trouble]

/-- Whether it takes more than the text to know what was read last. -/
def isOpen (s : Scan) : Bool :=
  s.beyond.isSome && s.cursor.rest = []

/-- The tokens of what is left of a text, after those that have been read. -/
def all (fuel : Nat) (s : Scan) : List Token :=
  match fuel with
  | 0 => s.broken .malformed
  | fuel + 1 =>
    match s.toNext with
    | .error trouble => s.broken trouble
    | .ok next =>
      if next.isOpen then s.broken .unfinished
      else if next.cursor.rest = [] then
        match next.finish with
        | .ok last => last.tokens.reverse
        | .error trouble => s.broken trouble
      else
        match next.step with
        | .error trouble => s.broken trouble
        | .ok next => if next.isOpen then s.broken .unfinished else all fuel next

end Scan

/-- The tokens of a text. Each takes up at least one character, so their number is bounded by its length. -/
def Token.scan (s : Source) : List Token :=
  Scan.all (s.text.length + 1) { cursor := { rest := s.text }, beyond := s.beyond }

end Yaml

end LogStyle
