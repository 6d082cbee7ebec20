import LogStyle.Document
import LogStyle.Files
import LogStyle.Note
import LogStyle.Palette.Data

/-! # Palette files

Palettes are kept in files, one palette in each, and looked up by name: the built-in ones first, then the
files of a folder.
-/

namespace LogStyle

namespace Palette

/-- Why a file holds no palette. -/
inductive FileError where
  | notFound (path : Text)
  | isFolder (path : Text)
  /-- The path is longer than the system takes. -/
  | longName (path : Text)
  /-- The text has no value. -/
  | malformed (path : Text)
  /-- A value that the text writes down is impossible. -/
  | impossible (obstacle : Document.Obstacle) (message : Text)
  /-- The bytes are no text. -/
  | undecodable (fault : Utf8.Fault)
  | notMapping (path : Text)
  deriving Repr, DecidableEq

/-- An error put into words. -/
def FileError.fault : FileError → Fault
  | notFound path => ⟨.theme, "Palette file not found: " ++ path⟩
  | isFolder path =>
    ⟨.theme, "Failed to load " ++ path ++ ": [Errno 21] Is a directory: " ++ path.quoted⟩
  | longName path => ⟨.system, "[Errno 36] File name too long: " ++ path.quoted⟩
  | malformed path => ⟨.theme, "Failed to parse " ++ path⟩
  | impossible obstacle message => ⟨obstacle.kind, message⟩
  | undecodable fault => ⟨.decoding, fault.message⟩
  | notMapping path => ⟨.theme, "Palette file " ++ path ++ " must contain a mapping"⟩

/-- The error of a file whose text has no value. -/
def FileError.ofTrouble (path : Text) : Document.Trouble → FileError
  | .malformed => malformed path
  | .impossible obstacle message => impossible obstacle message
  | .undecodable fault => undecodable fault

/-- The entries of the mapping that a file holds; an empty file holds none. -/
def readFile (reader : Document.Reader) (path : Text) (found : Found) : Except FileError (List (Scalar × Value)) :=
  match found with
  | .missing => .error (.notFound path)
  | .folder => .error (.isFolder path)
  | .longName => .error (.longName path)
  | .file bytes => do
    let value ← (reader.read (Utf8.read bytes)).mapError (.ofTrouble path)
    match value with
    | .scalar .null => pure []
    | .dict entries => pure entries
    | _ => throw (.notMapping path)

/-- The palette in a file, given what was found at its path. -/
def ofFile (reader : Document.Reader) (path : Text) (found : Found) : Noted Palette := do
  let path := Path.normal path
  match readFile reader path found with
  | .error e => throw e.fault
  | .ok entries => do
    Noted.report (.internal 2 ("Loaded palette from " ++ path))
    match ofEntries entries with
    | .error e => throw e.fault
    | .ok palette => pure palette

/-- The palette in one of some files. -/
def load (reader : Document.Reader) (files : Files) (path : Text) : Noted Palette :=
  ofFile reader path (files.find path)

/-- The ending of palette files. -/
def ending : Text := ".yaml"

/-- The name of a palette in a file; a name that is all ending stays whole. -/
def stem? (file : Text) : Option Text :=
  if ending.length ≤ file.length && file.drop (file.length - ending.length) = ending then
    let name := file.take (file.length - ending.length)
    some (if name = [] then file else name)
  else none

/-- Put a name among names in increasing order, once. -/
def insertName (name : Text) : List Text → List Text
  | [] => [name]
  | n :: rest =>
    if n = name then n :: rest
    else if Text.before name n then name :: n :: rest
    else n :: insertName name rest

/-- The names of the palettes in a folder, in any order. -/
def inFolder (files : Option (Files × Text)) : Except FileError (List Text) :=
  match files with
  | none => .ok []
  | some (tree, folder) =>
    match tree.find folder with
    | .longName => .error (.longName (Path.normal folder))
    | _ => .ok ((tree.names folder).filterMap stem?)

/-- The names of all palettes: the built-in ones and those in a folder, in increasing order. -/
def available (files : Option (Files × Text)) : Except FileError (List Text) :=
  (inFolder files).map fun found =>
    (builtins.map (·.1) ++ found).foldl (fun names name => insertName name names) []

/-- The fault of a name that no palette has. -/
def notAvailable (files : Option (Files × Text)) (name : Text) : Fault :=
  match available files with
  | .ok names => ⟨.theme, "Palette '" ++ name ++ "' not found. Available: " ++ Text.join ", " names⟩
  | .error e => e.fault

/-- The palette with a name: a built-in one in any case, or one in a folder. -/
def get (reader : Document.Reader) (files : Option (Files × Text)) (name : Text) : Noted Palette :=
  match builtin? name with
  | some palette => pure palette
  | none =>
    match files with
    | none => throw (notAvailable none name)
    | some (tree, folder) =>
      let path := Path.under folder (name ++ ending)
      match tree.find path with
      | .missing => throw (notAvailable files name)
      | found => ofFile reader path found

end Palette

end LogStyle
