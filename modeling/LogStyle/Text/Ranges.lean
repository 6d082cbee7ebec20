import LogStyle.Text.Basic

/-! # Ranges of code points

Character classes are kept as tables of ranges. A table is in increasing order, so a look-up stops at the
first range that starts past the code point.
-/

namespace LogStyle

/-- Ranges of code points, ends included, in increasing order. -/
abbrev Ranges := List (Nat × Nat)

namespace Ranges

/-- Whether a code point lies in one of the ranges. -/
def has : Ranges → Nat → Bool
  | [], _ => false
  | (first, last) :: rest, n => first ≤ n && (n ≤ last || has rest n)

end Ranges

end LogStyle
