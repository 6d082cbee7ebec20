import LogStyle.Palette.Basic
import LogStyle.Text.Numeral

/-! # Palettes as data

A palette is written as a mapping from level names to mappings from uses to fragments. What is left out or
null is empty. A level that is named twice has the fragments of its last entry.
-/

namespace LogStyle

namespace Palette

/-- Why data is no palette. -/
inductive DataError where
  /-- A key that names no level. -/
  | unknownLevel (key : Scalar)
  /-- A level whose value is no mapping. -/
  | notMapping (key : Scalar)
  /-- Keys of a level that name no use, in increasing order. -/
  | unknownFields (key : Scalar) (fields : List Scalar)
  /-- Keys of a level that name no use and have no order; the types of two of them. -/
  | unorderedFields (left right : Text)
  /-- Such keys that are a day and a time. -/
  | dayAndTime
  /-- Such keys that are times, only one of which states its offset. -/
  | mixedOffsets
  /-- A fragment that is no text. -/
  | notText (key : Scalar) (field : Text)
  deriving Repr, DecidableEq

/-- Whether a key is a number that is too long to be shown. -/
def isLongKey : Scalar → Bool
  | .int n => Numeral.isLong n
  | _ => false

/-- A fault that shows keys, unless one of them is too long to be shown. -/
def faultShowing (keys : List Scalar) (message : Text) : Fault :=
  if keys.any isLongKey then ⟨.value, Numeral.longMessage⟩ else ⟨.theme, message⟩

/-- An error put into words. -/
def DataError.fault : DataError → Fault
  | unknownLevel key => faultShowing [key] ("Palette has unknown level " ++ key.quoted)
  | notMapping key => ⟨.theme, "Palette level " ++ key.quoted ++ " must be a mapping"⟩
  | unknownFields key fields =>
    faultShowing fields ("Palette level " ++ key.quoted ++ " has unknown fields: ["
      ++ Text.join ", " (fields.map Scalar.quoted) ++ "]")
  | unorderedFields left right =>
    ⟨.type, "'<' not supported between instances of '" ++ left ++ "' and '" ++ right ++ "'"⟩
  | dayAndTime => ⟨.type, "can't compare datetime.datetime to datetime.date"⟩
  | mixedOffsets => ⟨.type, "can't compare offset-naive and offset-aware datetimes"⟩
  | notText key field => ⟨.theme, "Palette field " ++ key.shown ++ "." ++ field ++ " must be a string"⟩

/-- Whether a key goes before another, if the two have an order. -/
def before (a b : Scalar) : Except DataError Bool :=
  match a, b with
  | .text t, .text u => .ok (Text.before t u)
  | .bytes s, .bytes t => .ok (Text.before (s.map CodePoint.ofNat) (t.map CodePoint.ofNat))
  | .date d, .date e => .ok (d.dayNumber < e.dayNumber)
  | .date _, .moment _ _ | .moment _ _, .date _ => .error .dayAndTime
  | .moment m none, .moment n none => .ok (m.microseconds < n.microseconds)
  | .moment m (some offset), .moment n (some other) => .ok (m.instant offset < n.instant other)
  | .moment _ _, .moment _ _ => .error .mixedOffsets
  | a, b =>
    match a.number?, b.number? with
    | some x, some y => .ok (x.below y)
    | _, _ => .error (.unorderedFields a.typeName b.typeName)

/-- Put a key among keys in increasing order. -/
def insertKey (key : Scalar) : List Scalar → Except DataError (List Scalar)
  | [] => .ok [key]
  | k :: rest => do
    if ← before key k then pure (key :: k :: rest)
    else (insertKey key rest).map (k :: ·)

/-- Keys in increasing order. -/
def sortKeys (keys : List Scalar) : Except DataError (List Scalar) :=
  keys.foldlM (fun sorted key => insertKey key sorted) []

/-- The use that a key names. -/
def partOf? : Scalar → Option Part
  | .text t => Part.ofName? t
  | _ => none

/-- The value of an entry as a fragment, if it is one. -/
def fragmentOf? : Value → Option Text
  | .scalar .null => some []
  | .scalar (.text t) => some t
  | _ => none

/-- Put a fragment to a use. -/
def place (style : LevelStyle) (fragment : Text) : Part → LevelStyle
  | .first => { style with first := fragment }
  | .trail => { style with trail := fragment }
  | .label => { style with label := fragment }

/-- The fragments of one level, all of whose keys name a use. -/
def readStyle (key : Scalar) (entries : List (Scalar × Value)) : Except DataError LevelStyle :=
  entries.foldlM (fun style (field, value) =>
    match partOf? field, fragmentOf? value with
    | some part, some fragment => .ok (place style fragment part)
    | some part, none => .error (.notText key part.name)
    | none, _ => .ok style) {}

/-- The entries of a level's value, if it is a mapping or null. -/
def entriesOf? : Value → Option (List (Scalar × Value))
  | .scalar .null => some []
  | .dict entries => some entries
  | _ => none

/-- The level and the fragments of one entry of a palette. -/
def readEntry (key : Scalar) (value : Value) : Except DataError (Level × LevelStyle) :=
  match Level.ofName? key.shown with
  | none => .error (.unknownLevel key)
  | some level =>
    match entriesOf? value with
    | none => .error (.notMapping key)
    | some entries => do
      let unknown := (entries.map (·.1)).filter fun field => (partOf? field).isNone
      if unknown ≠ [] then
        let sorted ← sortKeys unknown
        throw (.unknownFields key sorted)
      let style ← readStyle key entries
      pure (level, style)

/-- The palette that a mapping stands for. -/
def ofEntries (entries : List (Scalar × Value)) : Except DataError Palette :=
  entries.foldlM (fun palette (key, value) => do
    let (level, style) ← readEntry key value
    pure (palette.set level style)) empty

/-- The palette that a value stands for. -/
def ofValue : Value → Except Fault Palette
  | .dict entries => (ofEntries entries).mapError DataError.fault
  | v => .error ⟨.attribute, "'" ++ v.typeName ++ "' object has no attribute 'items'"⟩

end Palette

end LogStyle
