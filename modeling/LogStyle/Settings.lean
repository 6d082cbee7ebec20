import LogStyle.Fault
import LogStyle.Text.Case

/-! # Settings

What a user may set for all formats at once, through variables of the environment. A variable's name is
the setting's name after a fixed beginning, in any case. How values are read is given; those that cannot be
read are reported together.
-/

namespace LogStyle

/-- The settings. -/
structure Settings where
  /-- Compile directives without escape sequences. -/
  noColors : Bool := false
  /-- Lines of one formatter may be rendered at the same time. -/
  threadSafe : Bool := true
  /-- How much the library reports about its own work. -/
  verbosity : Int := 0
  /-- The palette used when none is asked for. -/
  theme : Text := "default"
  /-- The pattern of the field `time` when it has no value. -/
  timeFormat : Text := "%Y-%m-%d %H:%M:%S"
  deriving Repr, DecidableEq

namespace Settings

/-- Whether escape sequences are written. -/
def colors (s : Settings) : Bool :=
  !s.noColors

/-- Whether notes that need a verbosity are passed on. -/
def reports (s : Settings) (detail : Int) : Bool :=
  detail ≤ s.verbosity

/-- What the variables' names start with, in lower case. -/
def variableStart : Text := "colorgful_"

/-- How the values of variables are read: what a text stands for, or what its trouble is called. -/
structure ValueReader where
  truth : Text → Except Text Bool
  integer : Text → Except Text Int

/-- The value of the variable for a setting; of several the last counts. -/
def given? (environment : List (Text × Text)) (name : Text) : Option Text :=
  (environment.reverse.find? fun (n, _) => n.lower = variableStart ++ name).map (·.2)

/-- The value of a setting, or the default when its variable is not set. -/
def lookUp {α : Type} (environment : List (Text × Text)) (name : Text) (read : Text → Except Text α) (default : α) :
    Except (Text × Text) α :=
  match given? environment name with
  | none => .ok default
  | some t => (read t).mapError fun why => (name, why)

/-- What is wrong with a setting, if anything is. -/
def problem {α : Type} : Except (Text × Text) α → List (Text × Text)
  | .ok _ => []
  | .error e => [e]

/-- The values that cannot be read, in the order of their names. -/
def problems (reader : ValueReader) (environment : List (Text × Text)) : List (Text × Text) :=
  problem (lookUp environment "no_colors" reader.truth false)
    ++ problem (lookUp environment "thread_safe" reader.truth true)
    ++ problem (lookUp environment "verbosity" reader.integer 0)

/-- The settings of an environment. -/
def ofEnvironment (reader : ValueReader) (environment : List (Text × Text)) : Except Fault Settings :=
  let defaults : Settings := {}
  let read : Except (Text × Text) Settings := do
    pure {
      noColors := ← lookUp environment "no_colors" reader.truth defaults.noColors
      threadSafe := ← lookUp environment "thread_safe" reader.truth defaults.threadSafe
      verbosity := ← lookUp environment "verbosity" reader.integer defaults.verbosity
      theme := ← lookUp environment "theme" .ok defaults.theme
      timeFormat := ← lookUp environment "time_format" .ok defaults.timeFormat }
  match read with
  | .ok s => .ok s
  | .error _ =>
    let messages := (problems reader environment).map fun (name, why) => name ++ ": " ++ why
    .error ⟨.validation, Text.join "; " messages⟩

end Settings

end LogStyle
