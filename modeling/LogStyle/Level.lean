import LogStyle.Fault
import LogStyle.Text.Blank
import LogStyle.Text.Case
import LogStyle.Value

/-! # Levels

The six severities a log line can have. Names are matched whatever their case and the blanks around them;
numbers fall on the highest level they reach.
-/

namespace LogStyle

/-- The severity of a log line. -/
inductive Level where
  | trace
  | debug
  | info
  | warning
  | error
  | fatal
  deriving Repr, DecidableEq

namespace Level

/-- All levels, from the least severe to the most severe. -/
def all : List Level :=
  [.trace, .debug, .info, .warning, .error, .fatal]

@[simp] theorem mem_all (level : Level) : level ∈ all := by
  cases level <;> decide

/-- The name shown in a line. -/
def label : Level → Text
  | .trace => "TRACE"
  | .debug => "DEBUG"
  | .info => "INFO"
  | .warning => "WARNING"
  | .error => "ERROR"
  | .fatal => "FATAL"

/-- The name written in directives. -/
def lower : Level → Text
  | .trace => "trace"
  | .debug => "debug"
  | .info => "info"
  | .warning => "warning"
  | .error => "error"
  | .fatal => "fatal"

/-- The place of a level on the numeric scale of severities. -/
def severity : Level → Nat
  | .trace => 5
  | .debug => 10
  | .info => 20
  | .warning => 30
  | .error => 40
  | .fatal => 50

/-- The width of the longest label. -/
def labelWidth : Nat := 7

/-- Why no level can be told. -/
inductive Error where
  /-- No level has this name. -/
  | unknown (name : Text)
  /-- A name was expected and this type of value arrived. -/
  | notName (typeName : Text)
  /-- A number was expected and this type of value arrived. -/
  | notNumber (typeName : Text)
  /-- This type of value cannot be compared with a number. -/
  | notOrdered (typeName : Text)
  /-- An infinity has no whole part. -/
  | infinite
  /-- What is no number has no whole part. -/
  | undefinedNumber
  deriving Repr, DecidableEq

namespace Error

/-- An error put into words. -/
def fault : Error → Fault
  | .unknown name => ⟨.value, "unknown level: " ++ name.quoted⟩
  | .notName type => ⟨.attribute, "'" ++ type ++ "' object has no attribute 'strip'"⟩
  | .notNumber type =>
    ⟨.type, "int() argument must be a string, a bytes-like object or a real number, not '" ++ type ++ "'"⟩
  | .notOrdered type =>
    ⟨.type, "'>=' not supported between instances of '" ++ type ++ "' and 'int'"⟩
  | .infinite => ⟨.overflow, "cannot convert float infinity to integer"⟩
  | .undefinedNumber => ⟨.value, "cannot convert float NaN to integer"⟩

end Error

/-- The level with a name, whatever its case and the blanks around it. -/
def ofName? (name : Text) : Option Level :=
  all.find? fun level => level.label = name.strip.upper

/-- The level with a name, or the error that there is none. -/
def ofName (name : Text) : Except Error Level :=
  match ofName? name with
  | some level => .ok level
  | none => .error (.unknown name)

/-- The highest level whose severity satisfies a test; the lowest level when none does. -/
def highest (reaches : Nat → Bool) : Level :=
  (all.reverse.find? fun level => reaches level.severity).getD .trace

/-- The level of a severity on the numeric scale. -/
def ofSeverity (severity : Int) : Level :=
  highest fun threshold => (threshold : Int) ≤ severity

/-- What callers may name a level by. -/
inductive Request where
  | level (level : Level)
  | value (value : Value)
  deriving Repr

/-- The level of a severity given as any value. -/
def ofSeverityValue (v : Value) : Except Error Level :=
  match v with
  | .scalar (.int n) => .ok (ofSeverity n)
  | .scalar (.bool b) => .ok (ofSeverity (if b then 1 else 0))
  | .scalar (.real x) =>
    .ok (highest fun threshold => x ≠ .nan && !x.below (Binary64.ofInt threshold))
  | v => .error (.notOrdered v.typeName)

/-- The level with a name given as any value. -/
def ofNameValue (v : Value) : Except Error Level :=
  match v with
  | .scalar (.text name) => ofName name
  | v => .error (.notName v.typeName)

/-- The level a caller asks for: itself, by its name, or by a severity cut to its whole part. -/
def ofRequest : Request → Except Error Level
  | .level level => .ok level
  | .value (.scalar (.text name)) => ofName name
  | .value (.scalar (.int n)) => .ok (ofSeverity n)
  | .value (.scalar (.bool b)) => .ok (ofSeverity (if b then 1 else 0))
  | .value (.scalar (.real x)) =>
    match x with
    | .nan => .error .undefinedNumber
    | .infinite _ => .error .infinite
    | x => .ok (ofSeverity (x.truncate?.getD 0))
  | .value v => .error (.notNumber v.typeName)

end Level

end LogStyle
