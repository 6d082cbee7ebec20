import LogStyle.Fault
import LogStyle.Text.Utf8
import LogStyle.Value

/-! # Readers of documents

A palette file holds one document of data. How the text of a document is read is not said here: a reader is
given, and whatever is said of palette files holds for every reader. All that is relied on is that bytes of
which nothing can be read are not read over.
-/

namespace LogStyle

namespace Document

/-- What keeps something that is written in the right form from standing for a value. -/
inductive Obstacle where
  /-- A number or a part of a time is out of range, or is none. -/
  | value
  /-- A collection stands for a scalar. -/
  | type
  /-- A time does not have its parts. -/
  | attribute
  /-- A word is no truth value. -/
  | key
  /-- A number has no digits. -/
  | index
  /-- A number is past what its use can hold. -/
  | overflow
  /-- A value is looked for without end. -/
  | recursion
  deriving Repr, DecidableEq

/-- The kind of the failure that an obstacle is. -/
def Obstacle.kind : Obstacle → FaultKind
  | .value => .value
  | .type => .type
  | .attribute => .attribute
  | .key => .key
  | .index => .index
  | .overflow => .overflow
  | .recursion => .recursion

/-- No obstacle is one to palettes. -/
theorem Obstacle.kind_ne_theme (o : Obstacle) : o.kind ≠ .theme := by
  cases o <;> decide

/-- Why a document has no value. -/
inductive Trouble where
  /-- The text is no document, or has no value that is plain data. -/
  | malformed
  /-- A scalar that has the form of its type stands for no value of it. -/
  | impossible (obstacle : Obstacle) (message : Text)
  /-- The bytes are no text. -/
  | undecodable (fault : Utf8.Fault)
  deriving Repr, DecidableEq

/-- What reads documents. -/
structure Reader where
  /-- The value of a document, given its text as far as its bytes are one. -/
  read : Utf8.Reading → Except Trouble Value
  /-- Where nothing can be read of the bytes, that is the trouble. -/
  read_fault : ∀ fault, read ⟨[], some fault⟩ = .error (.undecodable fault)

/-- The reader to which all texts are the same document. -/
def Reader.constant (value : Value) : Reader where
  read reading := match reading.fault with
    | some fault => .error (.undecodable fault)
    | none => .ok value
  read_fault _ := rfl

end Document

end LogStyle
