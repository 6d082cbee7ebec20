import LogStyle.Host.Outlet
import LogStyle.Palette.Check
import LogStyle.Palette.Load
import LogStyle.Preview.Options
import LogStyle.Preview.Transcript

/-! # Previews

A preview finds a palette, compiles a format under it, and logs one sample message at each requested level.
It ends with a status: zero when samples were shown, one when something was not as it should be.
-/

namespace LogStyle

namespace Preview

/-- What a preview ends with before its time. -/
inductive Ending where
  | status (n : Nat)
  /-- A failure that the preview has no words for. -/
  | fault (f : Fault)
  deriving Repr, DecidableEq

/-- Steps of a preview: they write to the transcript and may end the preview. -/
abbrev Steps := ExceptT Ending (StateM Transcript)

namespace Steps

/-- Write something. -/
def write (output : Output) : Steps Unit :=
  modify (· ++ [output])

/-- Complain and end with status 1. -/
def refuse {α : Type} (complaint : Text) : Steps α := do
  write (.complaint complaint)
  throw (.status 1)

/-- Write a note if it is asked for. -/
def note (o : Options) (n : Note) : Steps Unit :=
  if n.isShown o.verbosity then write (.note n) else pure ()

/-- Do something that reports notes, and give its outcome. -/
def noted {α : Type} (o : Options) (computation : Noted α) : Steps (Except Fault α) := do
  let (result, notes) := computation.outcome
  for n in notes do
    note o n
  pure result

/-- Do something that may fail. A failure of palettes and themes is complained about, with some words in
    front. -/
def orRefuse {α : Type} (o : Options) (words : Text) (computation : Noted α) : Steps α := do
  match ← noted o computation with
  | .ok a => pure a
  | .error fault =>
    if fault.kind = .theme then refuse (words ++ fault.message) else throw (.fault fault)

/-- Run steps from an empty transcript. -/
def run {α : Type} (steps : Steps α) : Except Ending α × Transcript :=
  (ExceptT.run steps).run []

end Steps

/-- The levels named in a text, separated by commas; blank entries do not count. -/
def levelsNamed (t : Text) : Except Level.Error (List Level) :=
  ((Text.splitOn ',' t).filter fun name => name.strip ≠ []).mapM Level.ofName

/-- The palette that is asked for, given what stands at a path. -/
def paletteOf (reader : Document.Reader) (find : Text → Found) (o : Options) : Noted Palette :=
  if o.paletteFile = [] then Palette.get reader none o.theme
  else Palette.ofFile reader o.paletteFile (find o.paletteFile)

section

variable [CharNames]

/-- What a preview needs before it can start: a palette and levels. -/
def prepare (reader : Document.Reader) (find : Text → Found) (o : Options) :
    Steps (Palette × List Level) := do
  Steps.note o (.internal 2 "Checking environment...")
  let palette ← Steps.orRefuse o "Error: " (paletteOf reader find o)
  let (valid, message) ← Steps.orRefuse o "Error: " (Palette.validate palette)
  if !valid then
    Steps.write (.complaint ("Warning: " ++ message))
  match levelsNamed o.levels with
  | .error e => Steps.refuse ("Error: " ++ e.fault.message)
  | .ok levels => do
    Steps.note o (.internal 2 ("Levels: " ++ Text.join ", " (levels.map Level.lower)))
    pure (palette, levels)

/-- Compile the format; the template is shown if that is asked for. -/
def compile (o : Options) (p : Palette) : Steps Theme := do
  Steps.note o (.internal 1 "Compiling theme...")
  let theme ← Steps.orRefuse o "Compilation error: " (Theme.compile (!o.noColors) o.format p)
  if o.showCompiled then
    Steps.write (.line theme.line.template.text.quoted)
  pure theme

/-- Log a message at levels, one after another, and give what was written for each. -/
def logAt (host : Host) (outlet : Outlet) (clock : Clock) (message : Text) :
    List Level → Outlet.State → List (Level × Option Text)
  | [], _ => []
  | level :: rest, s =>
    let logged := outlet.log host false clock { severity := .ofText (Severity.nameOf level), message } s
    (level, logged.written) :: logAt host outlet clock message rest logged.state

/-- Log the sample message at every level. Notes do not reach the outlet, only samples do. -/
def showSamples (host : Host) (o : Options) (clock : Clock) (theme : Theme) (levels : List Level) : Steps Nat := do
  Steps.note o Outlet.installed
  for (level, written) in logAt host (.ofTheme theme) clock o.message levels {} do
    match written with
    | some text => Steps.write (.sample level text)
    | none => pure ()
  pure levels.length

/-- Report how many samples were logged; none at all is refused. -/
def conclude (o : Options) (count : Nat) : Steps Unit := do
  if count = 0 then Steps.refuse "Error: No levels rendered"
  else Steps.note o (.internal 2 ("Rendered " ++ Text.ofNat count ++ " sample lines"))

/-- Show samples, from the palette to the report. -/
def present (reader : Document.Reader) (host : Host) (find : Text → Found) (clock : Clock)
    (o : Options) : Steps Unit := do
  let (palette, levels) ← prepare reader find o
  let theme ← compile o palette
  let count ← showSamples host o clock theme levels
  conclude o count

/-- The lines that list the built-in directives by their categories, each with its examples. -/
def directiveLines : List Text :=
  let registry : Registry Unit := Registry.builtins
  let column (t : Text) : Text := "  " ++ t.padRight 10 ++ " "
  Category.all.flatMap fun category =>
    match registry.inCategory category with
    | [] => []
    | listings =>
      (category.name ++ ":") :: listings.flatMap fun l =>
        (column l.name ++ l.description) :: l.examples.map fun e => column [] ++ "  " ++ e

/-- The name of the program and its version. -/
def versionLine : Text := "colorgful 1.0.0"

/-- What the command line is told that cannot be used. -/
def misuseLine : Text := "usage error"

/-- How the program is used. -/
def helpLine : Text :=
  "usage: colorgful [-h] [--format FORMAT] [--theme NAME] [--palette FILE] [--message TEXT]"
    ++ " [--levels NAMES] [--noColors] [--showCompiled] [--listDirectives] [-v] [-V]"

/-- Do what a command line asks for. -/
def answer (reader : Document.Reader) (host : Host) (find : Text → Found) (clock : Clock) :
    Request → Except Ending Unit × Transcript
  | .help => (.ok (), [.line helpLine])
  | .version => (.ok (), [.line versionLine])
  | .misuse => (.error (.status 2), [.complaint misuseLine])
  | .directives => (.ok (), directiveLines.map .line)
  | .samples o => (present reader host find clock o).run

end

/-- The status of a finished preview; a failure without words has none. -/
def statusOf : Except Ending Unit → Except Fault Nat
  | .ok () => .ok 0
  | .error (.status n) => .ok n
  | .error (.fault f) => .error f

end Preview

end LogStyle
