import LogStyle.Level

/-! # Severities of the host logger

The host logger has seven named severities, two of which share one of the six levels with another. Any
other number is a severity too, named by its digits.
-/

namespace LogStyle

/-- A severity of the host logger. -/
structure Severity where
  name : Text
  number : Nat
  deriving Repr, DecidableEq

namespace Severity

/-- The named severities. -/
def named : List Severity :=
  [⟨"TRACE", 5⟩, ⟨"DEBUG", 10⟩, ⟨"INFO", 20⟩, ⟨"SUCCESS", 25⟩, ⟨"WARNING", 30⟩, ⟨"ERROR", 40⟩,
    ⟨"CRITICAL", 50⟩]

/-- Why no severity can be told. -/
inductive Error where
  | unknown (name : Text)
  | negative (n : Int)
  /-- A value of this type stands for no severity. -/
  | notSeverity (typeName : Text)
  deriving Repr, DecidableEq

/-- An error put into words. -/
def Error.fault : Error → Fault
  | unknown name => ⟨.value, "Level '" ++ name ++ "' does not exist"⟩
  | negative n =>
    ⟨.value, "Invalid level value, it should be a positive integer, not: " ++ Text.ofInt n⟩
  | notSeverity type =>
    ⟨.type, "Invalid level, it should be an integer or a string, not: '" ++ type ++ "'"⟩

/-- The severity with a name. -/
def ofName (name : Text) : Except Error Severity :=
  match named.find? fun s => s.name = name with
  | some s => .ok s
  | none => .error (.unknown name)

/-- The severity with a number. -/
def ofNumber : Int → Except Error Severity
  | .ofNat n => .ok ⟨"Level " ++ Text.ofNat n, n⟩
  | n => .error (.negative n)

/-- The severity that a value stands for. -/
def ofValue : Value → Except Error Severity
  | .scalar (.text name) => ofName name
  | .scalar (.int n) => ofNumber n
  | .scalar (.bool b) => ofNumber (if b then 1 else 0)
  | v => .error (.notSeverity v.typeName)

/-- The level of a severity. -/
def level (s : Severity) : Level :=
  Level.ofSeverity s.number

/-- The name of the severity that records of a level are logged at. -/
def nameOf : Level → Text
  | .fatal => "CRITICAL"
  | level => level.label

end Severity

end LogStyle
