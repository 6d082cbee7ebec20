import LogStyle.Program.Basic
import LogStyle.Signature
import LogStyle.Template.Segment

/-! # Conditional styles

A format may style lines of one level only. While the format is compiled, each such directive runs its
fragment from the style in force there, enters the result into a ledger and leaves behind a field that
names the entry. A fragment that cannot be read or run leaves a diagnostic in its place.
-/

namespace LogStyle

/-- A style for the lines of one level. -/
structure Conditional where
  /-- The name of the level, in lower case. -/
  target : Text
  /-- What leads to the style. -/
  sequence : Text
  /-- What leads back to the style in force before. -/
  previous : Text
  deriving Repr, DecidableEq

namespace Conditional

/-- Whether a style is for lines of a level. -/
def applies (c : Conditional) (level : Level) : Bool :=
  c.target.lower = level.lower

end Conditional

/-- The conditional styles entered so far, and the notes on them. -/
structure Ledger where
  conditionals : List Conditional := []
  notes : List Note := []
  deriving Repr, DecidableEq

namespace Ledger

/-- Report a note. -/
def report (l : Ledger) (note : Note) : Ledger :=
  { l with notes := l.notes ++ [note] }

/-- The field that inserts what it is named for. -/
def placeholder (name : Text) : Text :=
  Segment.fieldText name

/-- The name of the fields that stand for conditional styles. -/
def conditionalName : Text := "onlevel"

/-- The name of the fields that store the style in force. -/
def storeName : Text := "store"

/-- The name of the fields that lead back to the stored style. -/
def restoreName : Text := "restore"

/-- Enter a conditional style; its number is the count of those before it. A number too long to be written
    out is refused. -/
def enter (l : Ledger) (c : Conditional) : Except Fault Text × Ledger :=
  if Numeral.isLong l.conditionals.length then (.error ⟨.value, Numeral.longMessage⟩, l)
  else
    let number := Text.ofNat l.conditionals.length
    let entered := { l with conditionals := l.conditionals ++ [c] }
    (.ok (placeholder (conditionalName ++ ":" ++ number)),
      entered.report (.internal 3 ("Token " ++ number ++ ": " ++ c.target)))

/-- What is left in place of a broken fragment. -/
def diagnostic (stage message : Text) : Text :=
  "#\x7b" ++ stage ++ " ERROR: " ++ message ++ "\x7d"

/-- The note on a broken fragment. -/
def brokenNote (stage : Text) (level fragment : Value) (message : Text) : Note :=
  .caution ("onlevel " ++ level.quoted ++ ": cannot " ++ stage ++ " " ++ fragment.quoted ++ ": " ++ message)

/-- What leads back to a style from any other; nothing when colours are off. -/
def wayBack [CharNames] (colors : Bool) (outer : Style) (l : Ledger) : Except Fault Text × Ledger :=
  if colors then
    match Program.read (σ := Unit) [] colors outer.directives with
    | .error e => (.error e.fault, l)
    | .ok p =>
      match (PureProgram.execute p Style.plain).1 with
      | .error e => (.error e.fault, l.report p.note)
      | .ok t => (.ok t, l.report p.note)
  else (.ok [], l)

/-- The lower-case form of a level given as any value. Bytes have one too: it stands here as messages show it, and is the
    form of no level. -/
def target (level : Value) : Except Fault Text :=
  match level with
  | .scalar (.text name) => .ok name.lower
  | .scalar (.bytes codes) =>
    .ok (Scalar.quotedBytes (codes.map fun code => if 0x41 ≤ code ∧ code ≤ 0x5A then code + 0x20 else code))
  | v => .error ⟨.attribute, "'" ++ v.typeName ++ "' object has no attribute 'lower'"⟩

/-- Run a fragment that has been read, and enter the style it leads to. -/
def runFragment [CharNames] (colors : Bool) (outer : Style) (level fragment : Value) (p : PureProgram) (l : Ledger) :
    Except Fault Text × Ledger :=
  match wayBack colors outer l with
  | (.error fault, l) => (.error fault, l)
  | (.ok previous, l) =>
    match (p.execute outer).1 with
    | .error e =>
      (.ok (diagnostic "EXECUTE" e.fault.message),
        l.report (brokenNote "execute" level fragment e.fault.message))
    | .ok sequence =>
      match target level with
      | .error fault => (.error fault, l)
      | .ok target => l.enter ⟨target, sequence, previous⟩

/-- Why a value that is no text cannot be read as a fragment. -/
def unreadable (fragment : Value) : Text :=
  match fragment with
  | .scalar (.bytes _) => "cannot use a string pattern on a bytes-like object"
  | v => "expected string or bytes-like object, got '" ++ v.typeName ++ "'"

/-- Enter the style that a fragment leads to from the style in force. -/
def record [CharNames] (colors : Bool) (outer : Style) (level fragment : Value) (l : Ledger) :
    Except Fault Text × Ledger :=
  match fragment with
  | .scalar (.text source) =>
    match Program.read [] colors source with
    | .error e =>
      if e.fault.kind = .compile then
        (.ok (diagnostic "COMPILE" e.fault.message),
          l.report (brokenNote "compile" level fragment e.fault.message))
      else (.error e.fault, l)
    | .ok p => runFragment colors outer level fragment p (l.report p.note)
  | v => (.error ⟨.type, unreadable v⟩, l)

/-- The directives of formats. -/
inductive Action where
  /-- Insert a field. -/
  | field
  /-- Style the lines of a level that is named by the first argument. -/
  | onLevel
  | store
  | restore
  /-- Style the lines of one level. -/
  | on (level : Level)
  deriving Repr, DecidableEq

namespace Action

/-- All directives of formats, in the order of their registration. -/
def all : List Action :=
  [.field, .onLevel, .store, .restore] ++ Level.all.map .on

/-- The name written in a format. -/
def name : Action → Text
  | .field => "field"
  | .onLevel => conditionalName
  | .store => storeName
  | .restore => restoreName
  | .on level => "on" ++ level.lower

/-- What a directive takes. -/
def signature : Action → Signature
  | .field => ⟨"Inserter.field_insert", ["name"], 1⟩
  | .onLevel => ⟨"Inserter.onLevel_insert", ["level", "fragment"], 1⟩
  | .store => ⟨"Inserter.store_insert", [], 1⟩
  | .restore => ⟨"Inserter.restore_insert", [], 1⟩
  | .on _ => ⟨"Inserter.onLevel_insert", ["fragment"], 2⟩

/-- What a directive does, in one line. -/
def summary : Action → Text
  | .field => "Insert a field"
  | .onLevel => "Style the lines of a level"
  | .store => "Store the style in force"
  | .restore => "Return to the stored style"
  | .on level => "Style the lines of level " ++ level.lower

section

variable [CharNames]

/-- Enter a conditional style, provided there is a style in force to start from. -/
def conditional (colors : Bool) (outer : Option Style) (level fragment : Value) (l : Ledger) :
    Except Fault Text × Ledger :=
  match outer with
  | none => (.error ⟨.runtime, "onlevel directive executed outside of a format compilation"⟩, l)
  | some outer => l.record colors outer level fragment

/-- Carry out a directive whose number of arguments fits. -/
def perform (a : Action) (colors : Bool) (outer : Option Style) (args : List Value) (l : Ledger) :
    Except Fault Text × Ledger :=
  match a, args with
  | .field, [name] => (.ok (placeholder name.shown), l)
  | .onLevel, [level, fragment] => conditional colors outer level fragment l
  | .on level, [fragment] => conditional colors outer (.ofText level.lower) fragment l
  | .store, [] => (.ok (placeholder storeName), l)
  | .restore, [] => (.ok (placeholder restoreName), l)
  | _, _ => (.ok [], l)

/-- Carry out a directive. -/
def run (a : Action) (colors : Bool) (outer : Option Style) (args : List Value) (l : Ledger) :
    Except Fault Text × Ledger :=
  match a.signature.problem? args.length with
  | some problem => (.error ⟨.type, problem⟩, l)
  | none => a.perform colors outer args l

/-- A directive as programs use it. -/
def extension (a : Action) (colors : Bool) : Extension Ledger :=
  ⟨a.summary, fun args outer l => a.run colors (some outer) args l⟩

/-- The directives of formats as programs use them. -/
def extensions (colors : Bool) : List (Text × Extension Ledger) :=
  all.map fun a => (a.name, a.extension colors)

end

end Action

end Ledger

end LogStyle
