import LogStyle.Conditional.Restore

/-! # Formatters

A format is compiled once: its fields become directives, its directives run, and what they write is the
template of the lines. Conditional styles are left in the template as fields.
-/

namespace LogStyle

/-- A compiled format. -/
structure Formatter where
  template : Template Restore
  conditionals : List Conditional

namespace Formatter

/-- The formatter of a template that refers to some conditional styles. -/
def ofTemplate (text : Text) (conditionals : List Conditional) : Formatter :=
  ⟨(Restore.handlers conditionals).foldl (fun t (name, handler) => t.withHandler name handler)
    (Template.ofText text), conditionals⟩

/-- Run a program over the ledger of a format that is being compiled. -/
def run (p : Program Ledger) : Noted Formatter := do
  let (result, _, ledger) := p.execute (Style.plain, {})
  for note in ledger.notes do
    Noted.report note
  match result with
  | .error e => throw e.fault
  | .ok text => do
    Noted.report (.internal 2
      ("Compiled template with " ++ Text.ofNat ledger.conditionals.length ++ " level tokens"))
    pure (ofTemplate text ledger.conditionals)

/-- Compile a format. -/
def compile [CharNames] (colors : Bool) (format : Text) : Noted Formatter := do
  let source := format.fieldsAsDirectives
  Noted.report (.internal 2 ("Compiling format: " ++ source.quoted))
  let p ← Program.compile (Ledger.Action.extensions colors) colors source
  run p

/-- Directive text that ends all styles. -/
def reset : Text := "\x7breset\x7d"

/-- Compile a format that ends all styles at its end. -/
def compileWithReset [CharNames] (colors : Bool) (format : Text) : Noted Formatter :=
  compile colors (format ++ reset)

/-- Render a line; what the line before has stored is forgotten first. -/
def render (f : Formatter) (line : Line) (r : Restore) : Except Fault Text × Restore :=
  f.template.render line r.forget

/-- Render a line in parts around the slot of the message. -/
def renderParts (f : Formatter) (line : Line) (r : Restore) : Except Fault Template.Parts × Restore :=
  f.template.renderParts line r.forget

end Formatter

end LogStyle
