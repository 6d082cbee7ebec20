import LogStyle.Document
import LogStyle.Text.Digit
import LogStyle.Text.Literal

/-! # Characters of YAML texts

The classes of characters that the tokens of YAML 1.1 are made of. The end of the text reads as a null
character, which no text holds. Line ends are unified before a text is read.
-/

namespace LogStyle

namespace Yaml

/-- Why a text has no value. -/
inductive Trouble where
  /-- The text is not YAML, or has no value that is plain data. -/
  | malformed
  /-- A scalar that has the form of its type stands for no value of it. -/
  | impossible (obstacle : Document.Obstacle) (message : Text)
  /-- The bytes are no text. -/
  | undecodable (fault : Utf8.Fault)
  /-- The text ends in the middle of something. -/
  | unfinished
  deriving Repr, DecidableEq

/-- A trouble as it is told: a text that ends too early is malformed. -/
def Trouble.told : Trouble → Document.Trouble
  | malformed | unfinished => .malformed
  | impossible obstacle message => .impossible obstacle message
  | undecodable fault => .undecodable fault

/-- A text as far as it can be read. -/
structure Source where
  text : Text
  /-- Why nothing can be read behind it, if it is not the whole text. -/
  beyond : Option Trouble := none
  deriving Repr, DecidableEq

/-- The character that the end of a text reads as. -/
def endMark : CodePoint := '\x00'

/-- The first character of a text. -/
def peek (t : Text) : CodePoint :=
  t.headD endMark

/-- A character of a text, counted from zero. -/
def peekAt (n : Nat) (t : Text) : CodePoint :=
  peek (t.drop n)

/-- Whether a character may stand in a text. -/
def isPermitted (c : CodePoint) : Bool :=
  let n := c.toNat
  n = 0x9 || n = 0xA || n = 0xD || (0x20 ≤ n && n ≤ 0x7E) || n = 0x85 || (0xA0 ≤ n && n ≤ 0xD7FF)
    || (0xE000 ≤ n && n ≤ 0xFFFD) || 0x10000 ≤ n

/-- Whether a character ends a line. -/
def isBreak (c : CodePoint) : Bool :=
  c = '\n' || c = '\x85' || c = '\u2028' || c = '\u2029'

/-- Whether a character ends a line or the text. -/
def isBreakOrEnd (c : CodePoint) : Bool :=
  c = endMark || isBreak c

/-- Whether a character is a space or ends a line or the text. -/
def isSpaceOrEnd (c : CodePoint) : Bool :=
  c = ' ' || isBreakOrEnd c

/-- Whether a character is a space or a tab or ends a line or the text. -/
def isBlankOrEnd (c : CodePoint) : Bool :=
  c = '\t' || isSpaceOrEnd c

/-- Whether a character is a space or a tab. -/
def isGap (c : CodePoint) : Bool :=
  c = ' ' || c = '\t'

/-- Whether a character may stand in the name of an anchor or a directive. -/
def isNameChar (c : CodePoint) : Bool :=
  isBasicDigit c || ('A' ≤ c && c ≤ 'Z') || ('a' ≤ c && c ≤ 'z') || c = '-' || c = '_'

/-- What a line end is read as, and what follows it. -/
def lineBreak? : Text → Option (CodePoint × Text)
  | c :: rest =>
    if c = '\n' || c = '\x85' then some ('\n', rest)
    else if c = '\u2028' || c = '\u2029' then some (c, rest)
    else none
  | [] => none

/-- Whether a line starts with a mark that ends a document. -/
def startsDocumentMark (t : Text) : Bool :=
  (t.take 3 = [.char '-', .char '-', .char '-'] || t.take 3 = [.char '.', .char '.', .char '.']) && isBlankOrEnd (peekAt 3 t)

/-- What line ends inside a scalar are read as: a single one as a space, of several the first is left out. -/
def foldBreaks (first : CodePoint) (others : Text) : Text :=
  if first ≠ '\n' then first :: others
  else if others = [] then [' ']
  else others

end Yaml

end LogStyle
