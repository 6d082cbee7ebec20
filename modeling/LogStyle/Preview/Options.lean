import LogStyle.Preview.CommandLine
import LogStyle.Settings

/-! # Options of the preview

What a preview shows: a format under a palette, one sample message at each of some levels. The theme and the
use of colours come from the settings unless the command line says otherwise.
-/

namespace LogStyle

namespace Preview

/-- What a preview shows. -/
structure Options where
  format : Text := "$\x7btime\x7d $\x7blevel:[%s]:right\x7d %s"
  /-- The name of a palette. -/
  theme : Text := "default"
  /-- A file with a palette, which comes before the named one. -/
  paletteFile : Text := []
  message : Text := "the quick brown fox\njumps over the lazy dog"
  /-- Names of levels, separated by commas. -/
  levels : Text := "trace,debug,info,warning,error,fatal"
  noColors : Bool := false
  /-- Write the compiled template before the samples. -/
  showCompiled : Bool := false
  /-- List the directives and show no samples. -/
  listDirectives : Bool := false
  verbosity : Nat := 1
  deriving Repr, DecidableEq

/-- The options when the command line is empty. -/
def Options.ofSettings (s : Settings) : Options :=
  { theme := s.theme, noColors := s.noColors }

/-- What an option of the command line is about. -/
inductive Key where
  | help
  | format
  | theme
  | paletteFile
  | message
  | levels
  | noColors
  | showCompiled
  | listDirectives
  | verbosity
  | version
  deriving Repr, DecidableEq

/-- The options of the command line. -/
def switches : List (Switch Key) :=
  [⟨.help, ["-h", "--help"], false⟩,
    ⟨.format, ["--format"], true⟩,
    ⟨.theme, ["--theme"], true⟩,
    ⟨.paletteFile, ["--palette"], true⟩,
    ⟨.message, ["--message"], true⟩,
    ⟨.levels, ["--levels"], true⟩,
    ⟨.noColors, ["--noColors"], false⟩,
    ⟨.showCompiled, ["--showCompiled"], false⟩,
    ⟨.listDirectives, ["--listDirectives"], false⟩,
    ⟨.verbosity, ["-v", "--verbosity"], false⟩,
    ⟨.version, ["-V", "--version"], false⟩]

/-- What a command line asks for. -/
inductive Request where
  | help
  | version
  /-- The command line cannot be used. -/
  | misuse
  | directives
  | samples (o : Options)
  deriving Repr, DecidableEq

/-- Options with one more from the command line. Those that end the reading change nothing. -/
def Options.put (o : Options) (key : Key) (value : Text) : Options :=
  match key with
  | .help | .version => o
  | .format => { o with format := value }
  | .theme => { o with theme := value }
  | .paletteFile => { o with paletteFile := value }
  | .message => { o with message := value }
  | .levels => { o with levels := value }
  | .noColors => { o with noColors := true }
  | .showCompiled => { o with showCompiled := true }
  | .listDirectives => { o with listDirectives := true }
  | .verbosity => { o with verbosity := o.verbosity + 1 }

/-- What is asked for by the options given one after another. Asking for help or for the version ends the
    reading, so that what comes later need not be usable. -/
def Request.ofGiven (o : Options) (sound : Bool) : List (Key × Option Text) → Request
  | [] => if !sound then .misuse else if o.listDirectives then .directives else .samples o
  | (.help, _) :: _ => .help
  | (.version, _) :: _ => .version
  | (key, value) :: rest => ofGiven (o.put key (value.getD [])) sound rest

/-- What a command line asks for. -/
def Request.ofArguments (o : Options) (args : List Text) : Request :=
  let reading := CommandLine.read switches args
  ofGiven o reading.sound reading.given

end Preview

end LogStyle
