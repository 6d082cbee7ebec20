import LogStyle.Fault
import LogStyle.Value

/-! # Messages with arguments

A message may be logged with arguments that its fields stand for. How the host fills them in is not said here:
a filler is given. A message without arguments is not read for fields.
-/

namespace LogStyle

/-- What the fields of a message stand for. -/
structure Arguments where
  positional : List Value := []
  named : List (Text × Value) := []

/-- Whether there are no arguments; then messages are not read for fields. -/
def Arguments.isEmpty (a : Arguments) : Bool :=
  a.positional.isEmpty && a.named.isEmpty

namespace Message

/-- What fills arguments into the fields of a message. -/
abbrev Filler := Arguments → Text → Except Fault Text

/-- A message with its fields filled in. Without arguments it is taken as it stands. -/
def fill (f : Filler) (a : Arguments) (message : Text) : Except Fault Text :=
  if a.isEmpty then .ok message else f a message

end Message

end LogStyle
