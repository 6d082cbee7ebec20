import LogStyle.Text.Quoted

/-! # Texts from bytes

Reading UTF-8. A character past the first 128 is a lead byte and one to three continuation bytes; the lead
byte narrows the range of the first continuation byte, so that no character has two forms.

Bytes are taken in by portions and passed on as text by blocks. Offsets are counted in a portion, together with
the bytes of a character that the portion before it began. A sequence that the end cuts off is only noticed
after everything before it, so its offsets are counted from its own lead byte.
-/

namespace LogStyle

namespace Utf8

/-- What a lead byte promises. -/
structure Lead where
  /-- The number of continuation bytes. -/
  count : Nat
  /-- The range of the first continuation byte. -/
  low : UInt8 := 0x80
  high : UInt8 := 0xBF
  /-- The bits that the lead byte contributes. -/
  bits : Nat
  deriving Repr, DecidableEq

/-- What a byte promises as a lead byte, if it can be one. -/
def lead? (b : UInt8) : Option Lead :=
  if b < 0x80 then some { count := 0, bits := b.toNat }
  else if b < 0xC2 then none
  else if b < 0xE0 then some { count := 1, bits := b.toNat - 0xC0 }
  else if b = 0xE0 then some { count := 2, low := 0xA0, bits := 0 }
  else if b = 0xED then some { count := 2, high := 0x9F, bits := 0xD }
  else if b < 0xF0 then some { count := 2, bits := b.toNat - 0xE0 }
  else if b = 0xF0 then some { count := 3, low := 0x90, bits := 0 }
  else if b < 0xF4 then some { count := 3, bits := b.toNat - 0xF0 }
  else if b = 0xF4 then some { count := 3, high := 0x8F, bits := 4 }
  else none

/-- The continuation bytes that bytes start with, at most a given number, the first of them in a range. -/
def continuation (count : Nat) (low high : UInt8) : List UInt8 → List UInt8
  | [] => []
  | b :: rest =>
    match count with
    | 0 => []
    | count + 1 => if low ≤ b && b ≤ high then b :: continuation count 0x80 0xBF rest else []

/-- What is wrong with a sequence. -/
inductive Problem where
  | startByte
  | continuationByte
  | cutOff
  deriving Repr, DecidableEq

/-- What a problem is called. -/
def Problem.message : Problem → Text
  | .startByte => "invalid start byte"
  | .continuationByte => "invalid continuation byte"
  | .cutOff => "unexpected end of data"

/-- A sequence that is no character: its lead byte, its offset and its length. -/
structure Fault where
  byte : UInt8
  offset : Nat
  length : Nat
  problem : Problem
  deriving Repr, DecidableEq

/-- A fault put into words. -/
def Fault.message (f : Fault) : Text :=
  let place : Text :=
    if f.length = 1 then
      "byte 0x" ++ hexCode 2 f.byte.toNat ++ " in position " ++ Text.ofNat f.offset
    else
      "bytes in position " ++ Text.ofNat f.offset ++ "-" ++ Text.ofNat (f.offset + f.length - 1)
  "'utf-8' codec can't decode " ++ place ++ ": " ++ f.problem.message

/-! ## Decoding -/

/-- Bytes decoded as far as they go. -/
structure Decoded where
  text : Text := []
  /-- The bytes of a character whose end has not come yet. -/
  begun : List UInt8 := []
  /-- What stopped the decoding. -/
  fault : Option Fault := none
  deriving Repr, DecidableEq

/-- Whether bytes are the first two of a surrogate: that it is no character is noticed only with the third. -/
def startsSurrogate (b : UInt8) (rest : List UInt8) : Bool :=
  b = 0xED && rest.length = 1 && rest.all fun c => 0xA0 ≤ c && c ≤ 0xBF

/-- Decode bytes that start at an offset and of which more may come. -/
def decodeFrom (offset : Nat) (bytes : List UInt8) : Decoded :=
  match bytes with
  | [] => {}
  | b :: rest =>
    match lead? b with
    | none => { fault := some ⟨b, offset, 1, .startByte⟩ }
    | some lead =>
      let good := continuation lead.count lead.low lead.high rest
      if good.length < lead.count then
        if good.length = rest.length || startsSurrogate b rest then { begun := b :: rest }
        else { fault := some ⟨b, offset, 1 + good.length, .continuationByte⟩ }
      else
        let code := good.foldl (fun n c => 64 * n + (c.toNat - 0x80)) lead.bits
        let after := decodeFrom (offset + 1 + lead.count) (rest.drop lead.count)
        { after with text := CodePoint.ofNat code :: after.text }
termination_by bytes.length
decreasing_by simp only [List.length_cons, List.length_drop]; omega

/-- The fault of a character whose end never comes. -/
def cutOff? : List UInt8 → Option Fault
  | [] => none
  | b :: rest =>
    if startsSurrogate b rest then some ⟨b, 0, 1, .continuationByte⟩
    else some ⟨b, 0, 1 + rest.length, .cutOff⟩

/-- The text of bytes, if they are one. -/
def text? (bytes : List UInt8) : Option Text :=
  let decoded := decodeFrom 0 bytes
  if decoded.begun = [] && decoded.fault.isNone then some decoded.text else none

/-! ## Reading -/

/-- A text as far as it can be read, and what is wrong with the bytes behind it. -/
structure Reading where
  text : Text
  fault : Option Fault := none
  deriving Repr, DecidableEq

/-- The number of characters that are asked for at once. -/
def blockSize : Nat := 4096

/-- The least number of bytes that are taken in at once. -/
def portionSize : Nat := 8192

/-- How far reading has come. -/
structure Progress where
  /-- The number of characters that have been read. -/
  count : Nat := 0
  /-- The number of bytes taken in last, and of characters they gave. -/
  bytes : Nat := 0
  characters : Nat := 0
  /-- A carriage return that may be half of a line end. -/
  held : Text := []
  /-- The bytes of a character whose end has not come yet. -/
  begun : List UInt8 := []
  deriving Repr, DecidableEq

namespace Progress

/-- The number of bytes to take in next: enough for the block that is asked for, when they give as many
    characters as the last ones did. -/
def nextSize (p : Progress) : Nat :=
  let missing := blockSize - p.count % blockSize
  max portionSize (if p.characters < p.bytes && p.characters ≠ 0 then p.bytes * missing / p.characters else missing)

/-- Some bytes are always taken in. -/
theorem nextSize_pos (p : Progress) : 0 < p.nextSize :=
  Nat.lt_of_lt_of_le (by decide) (Nat.le_max_left _ _)

/-- What was read after some more bytes, with line ends unified, and how far reading has come then. -/
def afterPortion (p : Progress) (size : Nat) (decoded : Decoded) : Text × Progress :=
  let raw := p.held ++ decoded.text
  let held : Text := if raw.getLast? = some '\r' then ['\r'] else []
  let text := Text.unifyLineEnds (raw.take (raw.length - held.length))
  (text, ⟨p.count + text.length, size, text.length, held, decoded.begun⟩)

end Progress

/-- The text of the bytes that are left. -/
def readFrom (p : Progress) (bytes : List UInt8) : Reading :=
  match bytes with
  | [] => ⟨Text.unifyLineEnds p.held, cutOff? p.begun⟩
  | b :: rest =>
    let size := p.nextSize
    let portion := (b :: rest).take size
    let decoded := decodeFrom 0 (p.begun ++ portion)
    match decoded.fault with
    | some fault => ⟨[], some fault⟩
    | none =>
      let (text, next) := p.afterPortion portion.length decoded
      let after := readFrom next ((b :: rest).drop size)
      { after with text := text ++ after.text }
termination_by bytes.length
decreasing_by
  simp only [List.length_cons, List.length_drop]
  have := p.nextSize_pos
  omega

/-- The number of characters that have been passed on when one of a given number is asked for: whole blocks,
    the first two of them together. -/
def passedOn (count : Nat) : Nat :=
  if count < 2 * blockSize then 0 else count / blockSize * blockSize

/-- The text of bytes. Before a fault only whole blocks are passed on. -/
def read (bytes : List UInt8) : Reading :=
  let all := readFrom {} bytes
  match all.fault with
  | none => all
  | some _ => { all with text := all.text.take (passedOn all.text.length) }

end Utf8

end LogStyle
