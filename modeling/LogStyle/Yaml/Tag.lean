import LogStyle.Text.Utf8
import LogStyle.Yaml.Char

/-! # Tags as they are written

A tag starts with an exclamation mark. A handle, an exclamation mark or a name between two of them, stands
for the beginning of the tag; a tag between angle brackets is written out.
-/

namespace LogStyle

namespace Yaml

/-- A tag as it is written: a handle that stands for a beginning, and the rest. -/
structure TagText where
  handle : Option Text
  rest : Text
  deriving Repr, DecidableEq

namespace TagText

/-- Whether a character may stand in the rest of a tag. -/
def isTagChar (c : CodePoint) : Bool :=
  isNameChar c || (";/?:@&=+$,.!~*()[]" : Text).contains c || c = '\x27'

/-- The longest rest of a tag at the beginning of a text, and what follows it. The bytes of the escapes
    just read are kept until the last of them is known. -/
def restFrom (bytes : List UInt8) : Text → Option (Text × Text)
  | '%' :: a :: b :: t =>
    match Literal.hexValue? a, Literal.hexValue? b with
    | some m, some n => restFrom (bytes ++ [UInt8.ofNat (16 * m + n)]) t
    | _, _ => none
  | c :: t =>
    if c = '%' then none
    else if isTagChar c then do
      let start ← Utf8.text? bytes
      let (rest, after) ← restFrom [] t
      pure (start ++ c :: rest, after)
    else (Utf8.text? bytes).map fun start => (start, c :: t)
  | [] => (Utf8.text? bytes).map fun start => (start, [])

/-- The rest of a tag at the beginning of a text, and what follows it. -/
def rest? (t : Text) : Option (Text × Text) :=
  if peek t = '%' || isTagChar (peek t) then restFrom [] t else none

/-- The handle at the beginning of a text, and what follows it. -/
def handle? (t : Text) : Option (Text × Text) :=
  if peek t ≠ '!' then none
  else if peekAt 1 t = ' ' then some (['!'], t.drop 1)
  else
    let name := (t.drop 1).takeWhile isNameChar
    let after := (t.drop 1).dropWhile isNameChar
    if peek after = '!' then some (.char '!' :: name ++ [.char '!'], after.drop 1) else none

/-- A tag at the beginning of a text, and what follows it. -/
def read? (t : Text) : Option (TagText × Text) := do
  let (tag, after) ← readAny
  if isSpaceOrEnd (peek after) then pure (tag, after) else none
where
  /-- A tag, whatever follows it. -/
  readAny : Option (TagText × Text) :=
    let next := peekAt 1 t
    if next = '<' then do
      let (rest, after) ← rest? (t.drop 2)
      if peek after = '>' then pure (⟨none, rest⟩, after.drop 1) else none
    else if isBlankOrEnd next then some (⟨none, ['!']⟩, t.drop 1)
    else if ((t.drop 1).takeWhile fun c => !isSpaceOrEnd c).contains '!' then do
      let (handle, after) ← handle? t
      let (rest, after) ← rest? after
      pure (⟨some handle, rest⟩, after)
    else do
      let (rest, after) ← rest? (t.drop 1)
      pure (⟨some ['!'], rest⟩, after)

end TagText

end Yaml

end LogStyle
