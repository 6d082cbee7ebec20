import LogStyle.Level
import LogStyle.Text.Literal

/-! # Palettes

A palette styles each level three times over: the first line of a record, the lines after an embedded line
end, and the label of the level. Every style is a fragment of directive text; an empty one changes nothing.
-/

namespace LogStyle

/-- The fragments that style one level. -/
structure LevelStyle where
  /-- For the first line of a record. -/
  first : Text := []
  /-- For the lines after an embedded line end. -/
  trail : Text := []
  /-- For the label, on top of the first line. -/
  label : Text := []
  deriving Repr, DecidableEq

/-- The three uses of fragments. -/
inductive Part where
  | first
  | trail
  | label
  deriving Repr, DecidableEq

namespace Part

/-- All uses, in the order in which they are checked. -/
def all : List Part :=
  [.first, .trail, .label]

@[simp] theorem mem_all (part : Part) : part ∈ all := by
  cases part <;> decide

/-- The name written in palette files. -/
def name : Part → Text
  | .first => "first"
  | .trail => "trail"
  | .label => "level"

/-- The use with a name. -/
def ofName? (name : Text) : Option Part :=
  all.find? fun part => part.name = name

end Part

/-- The fragment for one use. -/
def LevelStyle.fragment (s : LevelStyle) : Part → Text
  | .first => s.first
  | .trail => s.trail
  | .label => s.label

/-- The fragments that style all levels. -/
abbrev Palette := Level → LevelStyle

namespace Palette

/-- The palette that changes nothing. -/
def empty : Palette :=
  fun _ => {}

/-- A palette with other fragments for one level. -/
def set (p : Palette) (level : Level) (style : LevelStyle) : Palette :=
  fun l => if l = level then style else p l

/-- For dark terminals. -/
def dark : Palette
  | .trace => { first := "\x7bfg 243\x7d" }
  | .debug => { first := "\x7bfg 250\x7d" }
  | .info => { first := "\x7bfg 110\x7d" }
  | .warning => { first := "\x7bfg 178\x7d" }
  | .error => { first := "\x7bfg 202\x7d", label := "\x7bbold\x7d\x7bbg 52\x7d" }
  | .fatal => { first := "\x7bbold\x7d\x7bfg 197\x7d\x7bbg 17\x7d" }

/-- For light terminals. -/
def light : Palette
  | .trace => { first := "\x7bfg 250\x7d" }
  | .debug => { first := "\x7bfg 243\x7d" }
  | .info => { first := "\x7bfg 26\x7d" }
  | .warning => { first := "\x7bfg 167\x7d\x7bbg 230\x7d" }
  | .error =>
    { first := "\x7bbold\x7d\x7bfg 161\x7d", label := "\x7breverse\x7d\x7bbold\x7d\x7bbg 231\x7d" }
  | .fatal => { first := "\x7bbold\x7d\x7bfg 231\x7d\x7bbg 124\x7d" }

/-- For all terminals. -/
def standard : Palette
  | .trace => { first := "\x7bnofg\x7d" }
  | .debug => { first := "\x7bfg 31\x7d" }
  | .info => { first := "\x7bfg 33\x7d" }
  | .warning => { first := "\x7bbold\x7d\x7bfg 172\x7d", trail := "\x7bnobold\x7d" }
  | .error =>
    { first := "\x7bbold\x7d\x7bfg 9\x7d"
      trail := "\x7breset\x7d\x7bfg 9\x7d"
      label := "\x7bbold\x7d\x7bfg 231\x7d\x7bbg 196\x7d" }
  | .fatal =>
    { first := "\x7bbold\x7d\x7bfg 231\x7d\x7bbg 124\x7d"
      trail := "\x7breset\x7d\x7bbold\x7d\x7bfg 231\x7d"
      label := "\x7bbold\x7d\x7bfg 231\x7d\x7bbg 196\x7d" }

/-- The built-in palettes by name. -/
def builtins : List (Text × Palette) :=
  [("dark", dark), ("light", light), ("default", standard)]

/-- The built-in palette with a name, in any case. -/
def builtin? (name : Text) : Option Palette :=
  builtins.lookup name.lower

end Palette

end LogStyle
