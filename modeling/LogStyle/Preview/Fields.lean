import LogStyle.Preview.Options
import LogStyle.Value

/-! # Fields of a preview

A preview that is set up by a caller starts from named fields, each with a default. Options that name no
field are dropped. Values are taken as they come: what they are good for shows when the preview runs.
-/

namespace LogStyle

namespace Preview

/-- The fields of a preview and their values, in order. -/
abbrev Fields := List (Text × Value)

namespace Fields

/-- The default fields: the options of a preview that has been told nothing, and what its stages find. -/
def defaults : Fields :=
  let o : Options := {}
  let null : Value := .scalar .null
  let no : Value := .scalar (.bool false)
  [("formatString", .ofText o.format),
    ("theme", .ofText o.theme),
    ("paletteFile", null),
    ("message", .ofText o.message),
    ("levels", .ofText o.levels),
    ("noColors", no),
    ("showCompiled", no),
    ("verbosity", .scalar (.int o.verbosity)),
    ("output", null),
    ("envOK", no),
    ("palette", null),
    ("levelList", .list []),
    ("compiledTheme", null),
    ("renderedCount", .scalar (.int 0))]

/-- The field that the output is given by; it is not an option. -/
def outputName : Text := "output"

/-- The fields of a preview with some options and an output. -/
def ofOptions (options : List (Text × Value)) (output : Value) : Except Fault Fields :=
  if (options.lookup outputName).isSome then
    .error ⟨.type, "colorgful.models.state.ProgramState() got multiple values for keyword argument 'output'"⟩
  else
    .ok (defaults.map fun (name, default) =>
      (name, if name = outputName then output else (options.lookup name).getD default))

end Fields

end Preview

end LogStyle
