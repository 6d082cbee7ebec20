import LogStyle.Text.Printable

/-! # Quoted texts

A text as messages show it: between quotes, on one line, every unprintable character spelled out.
Single quotes are used unless the text has a single quote and no double one.
-/

namespace LogStyle

/-- A code point in hexadecimal, filled up with zeros to a width. -/
def hexCode (width : Nat) (n : Nat) : Text :=
  Text.zeroPad width ((Nat.toDigits 16 n).map .char)

/-- How one character is written between the given quotes. -/
def quotedChar (mark : CodePoint) (c : CodePoint) : Text :=
  if c = mark || c = '\\' then ['\\', c]
  else if c = '\n' then ['\\', 'n']
  else if c = '\r' then ['\\', 'r']
  else if c = '\t' then ['\\', 't']
  else if isPrintable c then [c]
  else if c.toNat < 0x100 then '\\' :: 'x' :: hexCode 2 c.toNat
  else if c.toNat < 0x10000 then '\\' :: 'u' :: hexCode 4 c.toNat
  else '\\' :: 'U' :: hexCode 8 c.toNat

namespace Text

/-- The quotes a text is shown between. -/
def quoteMark (t : Text) : CodePoint :=
  if t.contains '\x27' && !t.contains '"' then '"' else '\x27'

/-- A text as messages show it. -/
def quoted (t : Text) : Text :=
  let mark := t.quoteMark
  mark :: t.flatMap (quotedChar mark) ++ [mark]

end Text

end LogStyle
