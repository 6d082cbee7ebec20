import LogStyle.Text.Basic

/-! # Signatures

A function takes a fixed row of named parameters, each by its place. A call with too few or too many
arguments is answered by naming what is missing or by counting what was given.
-/

namespace LogStyle

/-- What a function takes. -/
structure Signature where
  /-- The name of the function in messages. -/
  name : Text
  params : List Text
  /-- The number of arguments that are given before those of the caller; they are counted too. -/
  bound : Nat := 0
  deriving Repr, DecidableEq

namespace Signature

/-- Names put one after another, with a word in front of the last. -/
def enumerate : List Text → Text
  | [] => []
  | [a] => a
  | [a, b] => a ++ " and " ++ b
  | names => Text.join ", " names.dropLast ++ ", and " ++ names.getLastD []

/-- A name between single quotes. -/
def mark (name : Text) : Text :=
  .char '\x27' :: name ++ [.char '\x27']

/-- An ending for more or fewer than one. -/
def plural (n : Nat) : Text :=
  if n = 1 then "" else "s"

/-- What is wrong with the number of arguments of a call, if anything is. -/
def problem? (s : Signature) (given : Nat) : Option Text :=
  if given < s.params.length then
    let missing := s.params.drop given
    some (s.name ++ "() missing " ++ Text.ofNat missing.length ++ " required positional argument"
      ++ plural missing.length ++ ": " ++ enumerate (missing.map mark))
  else if s.params.length < given then
    let takes := s.params.length + s.bound
    let given := given + s.bound
    some (s.name ++ "() takes " ++ Text.ofNat takes ++ " positional argument" ++ plural takes ++ " but "
      ++ Text.ofNat given ++ (if given = 1 then " was given" else " were given"))
  else none

end Signature

end LogStyle
