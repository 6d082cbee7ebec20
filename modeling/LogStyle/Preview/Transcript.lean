import LogStyle.Note

/-! # Transcripts

What a preview writes, in order: lines of its own, samples at their levels, complaints, and notes on its
work. The first two make up its output; the others go where errors go.
-/

namespace LogStyle

namespace Preview

/-- One thing that a preview writes. -/
inductive Output where
  /-- A line of the output. -/
  | line (t : Text)
  /-- A record at a level, as its outlet wrote it. -/
  | sample (level : Level) (written : Text)
  /-- A line among the errors. -/
  | complaint (t : Text)
  /-- A note among the errors. -/
  | note (n : Note)
  deriving Repr, DecidableEq

/-- What a preview writes, in order. -/
abbrev Transcript := List Output

namespace Transcript

/-- The output of a preview. -/
def out (t : Transcript) : Text :=
  t.flatMap fun
    | .line text => text ++ [.char '\n']
    | .sample _ written => written
    | .complaint _ | .note _ => []

/-- What a preview writes among the errors: every note after the name of its severity. -/
def err (t : Transcript) : Text :=
  t.flatMap fun
    | .complaint text => text ++ [.char '\n']
    | .note n => n.severity ++ ": " ++ n.message ++ [CodePoint.char '\n']
    | .line _ | .sample _ _ => []

/-- The samples that were written, with their levels. -/
def samples (t : Transcript) : List (Level × Text) :=
  t.filterMap fun
    | .sample level written => some (level, written)
    | _ => none

end Transcript

end Preview

end LogStyle
