import LogStyle.Level

/-! # Notes

What the library reports about its own work. Every operation that reports lists its notes in the order
in which they arise; which of them a reader sees is decided afterwards, by the verbosity in force.
-/

namespace LogStyle

/-- A note on the library's own work. -/
structure Note where
  /-- The name of the severity it is logged at. -/
  severity : Text
  message : Text
  /-- The least verbosity at which a note is passed on; a note without it always is. -/
  detail : Option Int
  /-- Whether a note is about the library's own work and not a record of the application. -/
  isInternal : Bool := detail.isSome
  deriving Repr, DecidableEq

namespace Note

/-- An internal note that needs a verbosity. -/
def internal (detail : Int) (message : Text) : Note :=
  { severity := "DEBUG", message, detail := some detail }

/-- An internal warning that needs the least verbosity. -/
def caution (message : Text) : Note :=
  { severity := "WARNING", message, detail := some 1 }

/-- Whether a note is passed on under a verbosity. -/
def isShown (verbosity : Int) (note : Note) : Bool :=
  match note.detail with
  | some detail => detail ≤ verbosity
  | none => true

end Note

/-- Computations that may fail and keep their notes when they do. -/
abbrev Noted := ExceptT Fault (StateM (List Note))

namespace Noted

/-- Report a note. -/
def report (note : Note) : Noted Unit :=
  modify (· ++ [note])

/-- Run a computation, giving its outcome and its notes. -/
def outcome {α : Type} (computation : Noted α) : Except Fault α × List Note :=
  (ExceptT.run computation).run []

end Noted

end LogStyle
