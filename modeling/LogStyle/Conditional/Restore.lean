import LogStyle.Conditional.Ledger
import LogStyle.Template.Basic
import LogStyle.Text.Numeral

/-! # Restoring styles

While lines are rendered, the last conditional style that applied is remembered, together with the style
before it. A line may store what is remembered, and later return to it; what a line stores is forgotten
before the next line.
-/

namespace LogStyle

/-- What is remembered between the fields of a line and between lines. -/
structure Restore where
  /-- What leads back to the style before the last conditional style that applied. -/
  previous : Text := []
  /-- What led to the last conditional style that applied. -/
  current : Text := []
  /-- What the line has stored. -/
  stored : Text := []
  deriving Repr, DecidableEq

namespace Restore

/-- What is remembered after a conditional style has applied. -/
def follow (r : Restore) (c : Conditional) : Restore :=
  { r with previous := c.previous, current := c.sequence }

/-- What is remembered after a line has stored it. -/
def store (r : Restore) : Restore :=
  { r with stored := r.previous ++ r.current }

/-- What leads back to the stored style, or to the style before the last conditional one when the line has
    stored nothing. -/
def wayBack (r : Restore) : Text :=
  if r.stored = [] then r.previous else r.stored

/-- What is remembered at the beginning of a line. -/
def forget (r : Restore) : Restore :=
  { r with stored := [] }

/-- The conditional style that a field names, if its value is a number of one. -/
def named (conditionals : List Conditional) (value : Text) : Except Fault (Option Conditional) :=
  if value ≠ [] && value.all isDigit then
    match Numeral.readNat value with
    | .ok n => .ok conditionals[n]?
    | .error e => .error ⟨.value, e.message⟩
  else .ok none

/-- Resolve a field that stands for a conditional style. -/
def onLevel (conditionals : List Conditional) : Handler Restore := fun line value r =>
  match named conditionals value with
  | .error fault => (.error fault, r)
  | .ok none => (.ok [], r)
  | .ok (some c) => if c.applies line.level then (.ok c.sequence, r.follow c) else (.ok [], r)

/-- The handlers of the three fields. -/
def handlers (conditionals : List Conditional) : List (Text × Handler Restore) :=
  [(Ledger.conditionalName, onLevel conditionals),
    (Ledger.storeName, fun _ _ r => (.ok [], r.store)),
    (Ledger.restoreName, fun _ _ r => (.ok r.wayBack, r))]

end Restore

end LogStyle
