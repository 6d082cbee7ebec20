import LogStyle.Text.Basic

/-! # The style in force

The colours and attributes that a terminal is asked to show at some point of a program. A style can be
written out as directives that lead to it from any other style.
-/

namespace LogStyle

/-- Colours and attributes; a colour that is absent is the terminal's own. -/
structure Style where
  foreground : Option Int := none
  background : Option Int := none
  bold : Bool := false
  reversed : Bool := false
  deriving Repr, DecidableEq

namespace Style

/-- The style a terminal starts in. -/
def plain : Style := {}

/-- Directive text for one colour: its number, or its negation when it is absent. -/
def colorDirective (name : Text) : Option Int → Text
  | some color => "\x7b" ++ name ++ " " ++ Text.ofInt color ++ "\x7d"
  | none => "\x7bno" ++ name ++ "\x7d"

/-- Directive text for one attribute. -/
def attributeDirective (name : Text) (on : Bool) : Text :=
  if on then "\x7b" ++ name ++ "\x7d" else "\x7bno" ++ name ++ "\x7d"

/-- Directives that lead to a style from any other: every part is spelled out. -/
def directives (s : Style) : Text :=
  colorDirective "fg" s.foreground ++ colorDirective "bg" s.background
    ++ attributeDirective "bold" s.bold ++ attributeDirective "reverse" s.reversed

/-- A colour that a terminal of 256 colours has. -/
def IsColor (color : Int) : Prop :=
  0 ≤ color ∧ color ≤ 255

instance (color : Int) : Decidable (IsColor color) :=
  inferInstanceAs (Decidable (_ ∧ _))

/-- A style whose colours the terminal has. -/
def InRange (s : Style) : Prop :=
  (∀ color ∈ s.foreground, IsColor color) ∧ ∀ color ∈ s.background, IsColor color

end Style

end LogStyle
