import LogStyle.Host.Fields
import LogStyle.Preview.Basic
import LogStyle.Settings.Values
import LogStyle.Yaml.Value
import Std.Time.Zoned

/-! # The preview command

Reads the command line, the settings in the environment, the palette file that is asked for and the local
time; all else is left to the preview. No markup of the host logger and no names of characters are known here.
-/

namespace LogStyle

namespace Command

/-- A text as it is written: surrogates, which cannot be, are left out. -/
def written (t : Text) : String :=
  String.ofList (t.filterMap fun
    | .char c => some c
    | .surrogate _ => none)

/-- The variables of the environment that hold settings. -/
def environment : IO (List (Text × Text)) :=
  ["no_colors", "thread_safe", "verbosity", "theme", "time_format"].filterMapM fun name : String => do
    let variableName : Text := Text.upper (Settings.variableStart ++ name)
    let value ← IO.getEnv (written variableName)
    pure (value.map fun value => (variableName, value))

/-- What stands at a path. -/
def lookAt (path : Text) : IO Found := do
  try
    let place ← IO.FS.realPath (written path)
    if ← place.isDir then pure .folder
    else pure (.file (← IO.FS.readBinFile place).toList)
  catch _ => pure .missing

/-- The local time. -/
def localTime : IO Moment := do
  let now ← Std.Time.PlainDateTime.now
  pure {
    date := ⟨now.date.year.toInt.toNat, now.date.month.toNat, now.date.day.toNat⟩
    hour := now.time.hour.toNat
    minute := now.time.minute.toNat
    second := now.time.second.toNat
    microsecond := now.time.nanosecond.toNat / 1000 }

/-- What the host logger does. -/
def host : Host := ⟨.plain, Message.formatted⟩

/-- No character is read by its name. -/
local instance : CharNames := .none

/-- Do what a command line asks for under some settings, and give the status. -/
def answer (settings : Settings) (args : List Text) : IO UInt32 := do
  let request := Preview.Request.ofArguments (.ofSettings settings) args
  let found ←
    match request with
    | .samples o => lookAt o.paletteFile
    | _ => pure .missing
  let clock : Clock := ⟨← localTime, settings.timeFormat⟩
  let (ending, transcript) := Preview.answer Yaml.reader host (fun _ => found) clock request
  IO.print (written transcript.out)
  IO.eprint (written transcript.err)
  match Preview.statusOf ending with
  | .ok status => pure status.toUInt32
  | .error fault => do
    IO.eprintln (written fault.message)
    pure 1

end Command

end LogStyle

open LogStyle in
/-- The preview command. -/
def main (args : List String) : IO UInt32 := do
  match Settings.ofEnvironment .plain (← Command.environment) with
  | .ok settings => Command.answer settings (args.map fun (arg : String) => (arg : Text))
  | .error fault => do
    IO.eprintln (Command.written fault.message)
    pure 1
