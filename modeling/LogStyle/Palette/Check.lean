import LogStyle.Palette.Basic
import LogStyle.Program.Basic

/-! # Checking palettes

Every fragment of a palette should be a program that runs on its own. The first one that is not decides
the answer.
-/

namespace LogStyle

namespace Palette

/-- The fragments of a palette with the level and the use of each, in the order in which they are checked. -/
def fragments (p : Palette) : List (Level × Part × Text) :=
  Level.all.flatMap fun level => Part.all.map fun part => (level, part, (p level).fragment part)

/-- What is wrong with the first fragment that cannot be read or run, if there is one. Failures that are
    not those of programs are passed on. -/
def firstProblem? [CharNames] : List (Level × Part × Text) → Noted (Option Text)
  | [] => pure none
  | (level, part, fragment) :: rest => do
    let run := PureProgram.compileAndExecute [] true fragment Style.plain
    let problem ← tryCatch (run.map fun _ => none) fun fault =>
      if fault.kind.isStyle then pure (some fault.message) else throw fault
    match problem with
    | some message => pure (some (level.lower ++ "." ++ part.name ++ ": " ++ message))
    | none => firstProblem? rest

/-- Check all fragments of a palette: whether they can be used, and in words what was found. -/
def validate [CharNames] (p : Palette) : Noted (Bool × Text) := do
  match ← firstProblem? p.fragments with
  | some problem => pure (false, problem)
  | none => pure (true, "Palette is valid")

end Palette

end LogStyle
