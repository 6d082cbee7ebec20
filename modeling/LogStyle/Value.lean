import LogStyle.Moment
import LogStyle.Number.Binary64
import LogStyle.Text.Quoted

/-! # Values of data files

The values that palette files and callers supply where a text is expected but anything may arrive. A
scalar can be a key of a mapping; lists and mappings cannot.
-/

namespace LogStyle

/-- A value without parts. -/
inductive Scalar where
  | null
  | bool (b : Bool)
  | int (n : Int)
  | real (x : Binary64)
  | text (t : Text)
  | date (d : Date)
  /-- A time, with its offset from universal time in seconds when it states one. -/
  | moment (m : Moment) (offset : Option Int)
  | bytes (b : List Nat)
  deriving Repr, DecidableEq

/-- A value of a data file. -/
inductive Value where
  | scalar (s : Scalar)
  | list (items : List Value)
  /-- Entries in the order in which their keys first appear. -/
  | dict (entries : List (Scalar × Value))
  deriving Repr

namespace Scalar

/-- What messages call the type of a value. -/
def typeName : Scalar → Text
  | .null => "NoneType"
  | .bool _ => "bool"
  | .int _ => "int"
  | .real _ => "float"
  | .text _ => "str"
  | .date _ => "datetime.date"
  | .moment _ _ => "datetime.datetime"
  | .bytes _ => "bytes"

/-- How messages show an offset from universal time. -/
def quotedOffset (seconds : Int) : Text :=
  if seconds = 0 then "datetime.timezone.utc"
  else if 0 < seconds then
    "datetime.timezone(datetime.timedelta(seconds=" ++ Text.ofInt seconds ++ "))"
  else
    "datetime.timezone(datetime.timedelta(days=-1, seconds=" ++ Text.ofInt (86400 + seconds) ++ "))"

/-- How messages show a time: trailing zero seconds and microseconds are left out. -/
def quotedMoment (m : Moment) (offset : Option Int) : Text :=
  let day := [m.date.year, m.date.month, m.date.day, m.hour, m.minute]
  let fine :=
    if m.microsecond ≠ 0 then [m.second, m.microsecond]
    else if m.second ≠ 0 then [m.second]
    else []
  let zone : List Text :=
    match offset with
    | some seconds => ["tzinfo=" ++ quotedOffset seconds]
    | none => []
  "datetime.datetime(" ++ Text.join ", " ((day ++ fine).map Text.ofNat ++ zone) ++ ")"

/-- How messages show bytes: as a text in which every byte past the basic printable ones is spelled out. -/
def quotedBytes (b : List Nat) : Text :=
  let codes := b.map CodePoint.ofNat
  let mark := Text.quoteMark codes
  let shown (c : CodePoint) : Text :=
    if 0x7F ≤ c.toNat then '\\' :: 'x' :: hexCode 2 c.toNat else quotedChar mark c
  .char 'b' :: mark :: codes.flatMap shown ++ [mark]

/-- A value as messages show it. -/
def quoted : Scalar → Text
  | .null => "None"
  | .bool b => if b then "True" else "False"
  | .int n => Text.ofInt n
  | .real x => x.toText
  | .text t => t.quoted
  | .date d =>
    "datetime.date(" ++ Text.join ", " ([d.year, d.month, d.day].map Text.ofNat) ++ ")"
  | .moment m offset => quotedMoment m offset
  | .bytes b => quotedBytes b

/-- A value as part of a running text. -/
def shown : Scalar → Text
  | .text t => t
  | .date d =>
    Moment.zeros 4 d.year ++ "-" ++ Moment.zeros 2 d.month ++ "-" ++ Moment.zeros 2 d.day
  | s => s.quoted

/-- The number a value counts as when it is compared, if it is a number. Integers are not rounded. -/
def number? : Scalar → Option Binary64
  | .bool b => some (.finite false (if b then 1 else 0) 0)
  | .int n => some (.finite (n < 0) n.natAbs 0)
  | .real x => some x
  | _ => none

/-- Whether two values are one key: equal numbers are, whatever their type, and so are two ways to state one
    point in time. -/
def sameKey (a b : Scalar) : Bool :=
  match a, b with
  | .moment m (some offset), .moment n (some other) => m.instant offset = n.instant other
  | a, b =>
    match a.number?, b.number? with
    | some x, some y => x ≠ .nan && y ≠ .nan && !x.below y && !y.below x
    | _, _ => a = b

end Scalar

namespace Value

/-- Whether a value counts as yes: all do but null, no, zeros and what is empty. -/
def isYes : Value → Bool
  | .scalar .null => false
  | .scalar (.bool b) => b
  | .scalar (.int n) => n ≠ 0
  | .scalar (.real (.finite _ significand _)) => significand ≠ 0
  | .scalar (.text t) => t ≠ []
  | .scalar (.bytes b) => b ≠ []
  | .scalar _ => true
  | .list items => !items.isEmpty
  | .dict entries => !entries.isEmpty

/-- A text as a value. -/
def ofText (t : Text) : Value :=
  .scalar (.text t)

/-- What messages call the type of a value. -/
def typeName : Value → Text
  | .scalar s => s.typeName
  | .list _ => "list"
  | .dict _ => "dict"

mutual

/-- A value as messages show it. -/
def quoted : Value → Text
  | .scalar s => s.quoted
  | .list items => "[" ++ Text.join ", " (quotedItems items) ++ "]"
  | .dict entries => "\x7b" ++ Text.join ", " (quotedEntries entries) ++ "\x7d"

/-- The items of a list as messages show them. -/
def quotedItems : List Value → List Text
  | [] => []
  | v :: rest => quoted v :: quotedItems rest

/-- The entries of a mapping as messages show them. -/
def quotedEntries : List (Scalar × Value) → List Text
  | [] => []
  | (k, v) :: rest => (k.quoted ++ ": " ++ quoted v) :: quotedEntries rest

end

/-- A value as part of a running text. -/
def shown : Value → Text
  | .scalar s => s.shown
  | v => v.quoted

/-- Put an entry into a mapping: a key that is there keeps its place and its spelling. -/
def insertEntry (key : Scalar) (value : Value) :
    List (Scalar × Value) → List (Scalar × Value)
  | [] => [(key, value)]
  | (k, v) :: rest =>
    if k.sameKey key then (k, value) :: rest else (k, v) :: insertEntry key value rest

end Value

end LogStyle
