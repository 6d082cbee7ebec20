import LogStyle.Text.Basic

/-! # Faults

What a failing operation finally reports: a kind and a message. Operations keep their own causes; a
fault is what is left once a cause is put into words.
-/

namespace LogStyle

/-- The kinds of failure that callers tell apart. -/
inductive FaultKind where
  /-- A directive program cannot be read. -/
  | compile
  /-- A directive program fails while it runs. -/
  | execute
  /-- A palette or a theme cannot be used. -/
  | theme
  /-- A value of the right type is not acceptable. -/
  | value
  /-- A value has the wrong type, or a call the wrong number of arguments. -/
  | type
  /-- A value does not offer what is asked of it. -/
  | attribute
  /-- A name is not in a table. -/
  | key
  /-- A position is past the end. -/
  | index
  /-- An operation is used before it is set up. -/
  | runtime
  /-- Bytes are not the text they should be. -/
  | decoding
  /-- A text holds code points that have no bytes. -/
  | encoding
  /-- A number is past what its use can hold. -/
  | overflow
  /-- There is no memory for a result. -/
  | memory
  /-- The system refuses what is asked of it. -/
  | system
  /-- Data is nested deeper than it is followed. -/
  | recursion
  /-- Settings do not have the form they should have. -/
  | validation
  /-- The program ends with a status. -/
  | exit
  deriving Repr, DecidableEq

/-- A failure put into words. -/
structure Fault where
  kind : FaultKind
  message : Text
  deriving Repr, DecidableEq

namespace FaultKind

/-- Failures of directive programs, which pass through a running program unchanged. -/
def isStyle : FaultKind → Bool
  | .compile | .execute => true
  | _ => false

end FaultKind

end LogStyle
