import LogStyle.Style.State

/-! # Effects on the style

The eleven built-in directives come down to these effects. An effect changes the style in force and
writes the escape sequences that tell a terminal so.
-/

namespace LogStyle

/-- One change of the style in force. -/
inductive Effect where
  | foreground (color : Option Int)
  | background (color : Option Int)
  | bold (on : Bool)
  | reverse (on : Bool)
  /-- Leave the background for another: the glyph stands on the new one in the colour of the old. -/
  | leave (glyph : Text) (color : Int)
  /-- Enter a background: the glyph stands on the old one in the colour of the new. -/
  | enter (color : Int) (glyph : Text)
  | reset
  deriving Repr, DecidableEq

namespace Style

/-- The escape sequence with the given parameters; nothing when colours are off. -/
def sequence (colors : Bool) (parameters : Text) : Text :=
  if colors then .char '\x1b' :: .char '[' :: parameters ++ [.char 'm'] else []

/-- The parameters that choose a foreground. -/
def foregroundCode : Option Int → Text
  | some color => "38;5;" ++ Text.ofInt color
  | none => "39"

/-- The parameters that choose a background. -/
def backgroundCode : Option Int → Text
  | some color => "48;5;" ++ Text.ofInt color
  | none => "49"

end Style

namespace Effect

/-- The colour an effect asks the terminal for, if it asks for one. -/
def color? : Effect → Option Int
  | .foreground color | .background color => color
  | .leave _ color | .enter color _ => some color
  | .bold _ | .reverse _ | .reset => none

/-- The colours of the style in force that an effect writes out: those that a transition draws its glyph in and those
    that it goes back to behind it. -/
def recalled (s : Style) : Effect → List Int
  | .leave _ _ => s.background.toList ++ s.foreground.toList
  | .enter _ _ => s.foreground.toList
  | .foreground _ | .background _ | .bold _ | .reverse _ | .reset => []

/-- The style after an effect. -/
def apply (s : Style) : Effect → Style
  | .foreground color => { s with foreground := color }
  | .background color => { s with background := color }
  | .bold on => { s with bold := on }
  | .reverse on => { s with reversed := on }
  | .leave _ color | .enter color _ => { s with background := some color }
  | .reset => Style.plain

/-- What an effect writes, given the style it starts from. -/
def output (colors : Bool) (s : Style) : Effect → Text
  | .foreground color => Style.sequence colors (Style.foregroundCode color)
  | .background color => Style.sequence colors (Style.backgroundCode color)
  | .bold on => Style.sequence colors (if on then "1" else "22")
  | .reverse on => Style.sequence colors (if on then "7" else "27")
  | .leave glyph color =>
    Style.sequence colors (Style.foregroundCode s.background)
      ++ Style.sequence colors (Style.backgroundCode (some color))
      ++ glyph
      ++ Style.sequence colors (Style.foregroundCode s.foreground)
  | .enter color glyph =>
    Style.sequence colors (Style.foregroundCode (some color))
      ++ glyph
      ++ Style.sequence colors (Style.backgroundCode (some color))
      ++ Style.sequence colors (Style.foregroundCode s.foreground)
  | .reset => Style.sequence colors "0"

end Effect

end LogStyle
