import LogStyle.Text.Basic

/-! # Files

A tree of files as it is found at one moment: what stands at a path, and the names in a folder. Paths are
compared in a form without empty parts and without parts that mean the same folder. Outside the tree only
the folders that every system has are known, and the file that is always empty.
-/

namespace LogStyle

/-- What stands at a path. -/
inductive Found where
  | missing
  | folder
  | file (bytes : List UInt8)
  /-- The path, or a name on the way, is longer than the system takes. -/
  | longName
  deriving Repr, DecidableEq

/-- The files below a folder; folders that hold some need not be listed themselves. -/
structure Files where
  root : Text
  /-- Paths relative to the root, and what stands there. -/
  entries : List (Text × Found)
  deriving Repr, DecidableEq

namespace Path

/-- The parts of a path that lead on. -/
def parts (path : Text) : List Text :=
  (Text.splitOn '/' path).filter fun part => part ≠ [] && part ≠ [.char '.']

/-- The slashes that an absolute path keeps in front. -/
def anchor (path : Text) : Text :=
  let slashes := path.takeWhile (· = .char '/')
  if slashes.length = 2 then slashes else slashes.take 1

/-- The path with an anchor and parts. -/
def ofParts (anchor : Text) (parts : List Text) : Text :=
  let rest := Text.join "/" parts
  if anchor = [] && rest = [] then ['.'] else anchor ++ rest

/-- A path without empty parts. -/
def normal (path : Text) : Text :=
  ofParts (anchor path) (parts path)

/-- The number of bytes that a code point stands for in a path. Bytes that are no text stand in paths as
    surrogates, one for each of the upper 128; the other surrogates stand for nothing. -/
def width? : CodePoint → Option Nat
  | .char c => some c.utf8Size
  | .surrogate n => if 0x480 ≤ n.val && n.val < 0x500 then some 1 else none

/-- Whether a code point can stand in a path. -/
def takes (c : CodePoint) : Bool :=
  c ≠ '\x00' && (width? c).isSome

/-- The number of bytes that a text takes up. -/
def byteCount (t : Text) : Nat :=
  t.foldl (fun n c => n + (width? c).getD 0) 0

/-- The most bytes in the name of a file. -/
def nameLimit : Nat := 255

/-- The most bytes in a path. -/
def pathLimit : Nat := 4095

/-- The part that leads to the folder above. -/
def up : Text := ".."

/-- A path that starts in a folder, unless it is absolute. -/
def under (folder path : Text) : Text :=
  if anchor path = [] then ofParts (anchor folder) (parts folder ++ parts path) else normal path

end Path

namespace Files

/-- What stands at a path below the root that is given by its parts. -/
def findParts (f : Files) (parts : List Text) : Found :=
  match f.entries.find? fun (path, _) => Path.parts path = parts with
  | some (_, found) => found
  | none =>
    if parts = [] || f.entries.any fun (path, _) => parts.isPrefixOf (Path.parts path) then .folder
    else .missing

/-- Where a path leads. -/
inductive Place where
  /-- To a path below the root, given by its parts; there need not be anything. -/
  | below (parts : List Text)
  /-- To an absolute path outside the tree. -/
  | absolute (parts : List Text)
  /-- To a folder outside the tree of which the path is not known. -/
  | outside
  /-- Through something that is no folder. -/
  | nowhere
  /-- Over a name that is too long. -/
  | longName
  deriving Repr, DecidableEq

/-- The folders that every system has. -/
def commonFolders : List Text :=
  ["/", "/bin", "/boot", "/dev", "/etc", "/home", "/lib", "/media", "/mnt", "/opt", "/proc", "/root", "/run",
    "/sbin", "/srv", "/sys", "/tmp", "/usr", "/var", "/usr/bin", "/usr/lib", "/usr/local", "/usr/share",
    "/var/log", "/var/tmp"]

/-- The file that is always empty. -/
def emptyFile : Text := "/dev/null"

/-- What stands at an absolute path outside the tree. -/
def findAbsolute (parts : List Text) : Found :=
  if commonFolders.any fun folder => Path.parts folder = parts then .folder
  else if Path.parts emptyFile = parts then .file []
  else .missing

/-- Go on from a place by one part of a path. -/
def step (f : Files) (place : Place) (part : Text) : Place :=
  let onward (found : Found) (above below : Place) : Place :=
    if found ≠ .folder then .nowhere
    else if part = Path.up then above
    else if Path.nameLimit < Path.byteCount part then .longName
    else below
  match place with
  | .below here =>
    onward (f.findParts here) (if here = [] then .outside else .below here.dropLast) (.below (here ++ [part]))
  | .absolute here => onward (findAbsolute here) (.absolute here.dropLast) (.absolute (here ++ [part]))
  | .outside => onward .folder .outside .nowhere
  | place => place

/-- Where a path leads, if it can be a path at all. -/
def place (f : Files) (path : Text) : Place :=
  let root := Path.parts f.root
  let parts := Path.parts path
  if !path.all Path.takes then .nowhere
  else if Path.pathLimit < Path.byteCount (Path.normal path) then .longName
  else if Path.anchor path = Path.anchor f.root && root.isPrefixOf parts then
    (parts.drop root.length).foldl f.step (.below [])
  else parts.foldl f.step (if Path.anchor path = [] then .outside else .absolute [])

/-- What stands at a path. -/
def find (f : Files) (path : Text) : Found :=
  match f.place path with
  | .below parts => f.findParts parts
  | .absolute parts => findAbsolute parts
  | .outside => .folder
  | .nowhere => .missing
  | .longName => .longName

/-- The names in a folder, each as often as it leads to an entry. -/
def names (f : Files) (folder : Text) : List Text :=
  match f.place folder with
  | .below here =>
    f.entries.filterMap fun (path, _) =>
      let parts := Path.parts path
      if here.isPrefixOf parts then (parts.drop here.length).head? else none
  | _ => []

end Files

end LogStyle
