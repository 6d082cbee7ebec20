import LogStyle.Outcome
import LogStyle.Proofs.Formatter.Compile
import LogStyle.Theme.Basic

/-! # What compiling a theme comes to

A theme is compiled by compiling two formats. The failure of a program becomes one of the theme; all others
are passed on.
-/

namespace LogStyle

namespace Theme

/-- The failure of a theme that the failure of one of its formatters becomes. -/
def partFault (name : Text) (fault : Fault) : Fault :=
  if fault.kind.isStyle then ⟨.theme, "Failed to compile " ++ name ++ " format: " ++ fault.message⟩ else fault

section

variable [CharNames]

theorem runFrom_compilePart (name : Text) (colors : Bool) (format : Text) (before : List Note) :
    (Noted.runFrom (compilePart name (Formatter.compile colors format)) before).1 =
      (Formatter.compile colors format).outcome.1.mapError (partFault name) := by
  unfold compilePart
  rw [Noted.runFrom_bind, Noted.runFrom_report]
  simp only [Noted.runFrom_tryCatch]
  have same := Formatter.runFrom_compileFormat colors format
    (before ++ [.internal 2 ("Compiling theme " ++ name ++ " formatter...")])
  rw [← Formatter.outcome_compile] at same
  rw [← same]
  rcases Noted.runFrom (Formatter.compile colors format) _ with ⟨fault | f, notes⟩
  · by_cases style : fault.kind.isStyle <;> simp only [partFault, style, if_true, Outcome.mapError_error] <;> rfl
  · rfl

theorem runFrom_compile (colors : Bool) (format : Text) (p : Palette) (before : List Note) :
    (Noted.runFrom (compile colors format p) before).1 =
      match (Formatter.compileWithReset colors (lineFormat format p)).outcome.1 with
      | .error fault => .error (partFault "line" fault)
      | .ok line =>
        match (Formatter.compile colors (conditionals p .trail)).outcome.1 with
        | .error fault => .error (partFault "trailing" fault)
        | .ok trailer => .ok ⟨line, trailer⟩ := by
  unfold compile Formatter.compileWithReset
  rw [Noted.runFrom_bind]
  have first := runFrom_compilePart "line" colors (lineFormat format p ++ Formatter.reset) before
  rcases ran : Noted.runFrom (compilePart "line" (Formatter.compile colors (lineFormat format p ++ Formatter.reset)))
    before with ⟨result, notes⟩
  rw [ran] at first
  obtain rfl : result = _ := first
  cases (Formatter.compile colors (lineFormat format p ++ Formatter.reset)).outcome.1 with
  | error fault => rfl
  | ok line =>
      simp only [Outcome.mapError_ok, Noted.runFrom_bind]
      have second := runFrom_compilePart "trailing" colors (conditionals p .trail) notes
      rcases ran : Noted.runFrom (compilePart "trailing" (Formatter.compile colors (conditionals p .trail)))
        notes with ⟨result, notes⟩
      rw [ran] at second
      obtain rfl : result = _ := second
      cases (Formatter.compile colors (conditionals p .trail)).outcome.1 with
      | error fault => rfl
      | ok trailer => rfl

theorem outcome_compile (colors : Bool) (format : Text) (p : Palette) :
    (compile colors format p).outcome.1 =
      match (Formatter.compileWithReset colors (lineFormat format p)).outcome.1 with
      | .error fault => .error (partFault "line" fault)
      | .ok line =>
        match (Formatter.compile colors (conditionals p .trail)).outcome.1 with
        | .error fault => .error (partFault "trailing" fault)
        | .ok trailer => .ok ⟨line, trailer⟩ :=
  runFrom_compile colors format p []

theorem outcome_compile_eq_ok {colors : Bool} {format : Text} {p : Palette} {theme : Theme} :
    (compile colors format p).outcome.1 = .ok theme ↔
      (Formatter.compileWithReset colors (lineFormat format p)).outcome.1 = .ok theme.line ∧
        (Formatter.compile colors (conditionals p .trail)).outcome.1 = .ok theme.trailer := by
  rw [outcome_compile]
  cases (Formatter.compileWithReset colors (lineFormat format p)).outcome.1 with
  | error fault => simp
  | ok line =>
      cases (Formatter.compile colors (conditionals p .trail)).outcome.1 with
      | error fault => simp
      | ok trailer =>
          cases theme
          simp

end

end Theme

end LogStyle
