import LogStyle.Style.Effect
import LogStyle.Value

/-! # Built-in directives

The directives every program knows: their names, what they take, and the effect that a call with
fitting arguments has on the style.
-/

namespace LogStyle

/-- An argument as it is written in a directive. -/
inductive Arg where
  | text (t : Text)
  | number (n : Int)
  deriving Repr, DecidableEq

/-- An argument as a value. -/
def Arg.toValue : Arg → Value
  | .text t => .ofText t
  | .number n => .scalar (.int n)

/-- A directive that every program knows. -/
inductive Directive where
  | fg
  | bg
  | nofg
  | nobg
  | bold
  | nobold
  | reverse
  | noreverse
  /-- Leave the background, drawing a glyph on the next one. -/
  | leave
  /-- Enter a background, drawing a glyph on the old one. -/
  | enter
  | reset
  deriving Repr, DecidableEq

/-- The groups in which directives are listed. -/
inductive Category where
  | color
  | attribute
  | transition
  | reset
  | extension
  deriving Repr, DecidableEq

namespace Category

/-- All groups, in the order in which they are listed. -/
def all : List Category :=
  [.color, .attribute, .transition, .reset, .extension]

/-- The heading of a group. -/
def name : Category → Text
  | .color => "color"
  | .attribute => "attribute"
  | .transition => "transition"
  | .reset => "reset"
  | .extension => "extension"

end Category

/-- What a parameter of a directive takes. -/
inductive ParamType where
  | number
  | text
  deriving Repr, DecidableEq

namespace ParamType

/-- What messages call the type. -/
def name : ParamType → Text
  | .number => "int"
  | .text => "str"

/-- Whether a value can be given for a parameter. Truth values count as numbers. -/
def accepts : ParamType → Value → Bool
  | .number, .scalar (.int _) | .number, .scalar (.bool _) => true
  | .text, .scalar (.text _) => true
  | _, _ => false

end ParamType

/-- Why arguments do not fit the parameters. -/
inductive ArgProblem where
  | count (name : Text) (want got : Nat)
  | type (expected : ParamType) (got : Text)
  deriving Repr, DecidableEq

/-- An argument problem put into words. -/
def ArgProblem.message : ArgProblem → Text
  | .count name want got =>
    "wrong number of args for " ++ name ++ ": want " ++ Text.ofNat want ++ " got " ++ Text.ofNat got
  | .type expected got =>
    "wrong type for value; expected " ++ expected.name ++ "; got " ++ got

/-- The first argument that does not fit its parameter. -/
def typeProblem? (params : List ParamType) (args : List Value) : Option ArgProblem :=
  (params.zip args).findSome? fun (param, arg) =>
    if param.accepts arg then none else some (.type param arg.typeName)

/-- The first thing wrong with arguments: their number, else the first that does not fit. -/
def argProblem? (name : Text) (params : List ParamType) (args : List Value) : Option ArgProblem :=
  if args.length = params.length then typeProblem? params args
  else some (.count name params.length args.length)

namespace Directive

/-- All directives, in the order in which they are listed. -/
def all : List Directive :=
  [.fg, .bg, .nofg, .nobg, .bold, .nobold, .reverse, .noreverse, .leave, .enter, .reset]

/-- The name written in a program. -/
def name : Directive → Text
  | .fg => "fg"
  | .bg => "bg"
  | .nofg => "nofg"
  | .nobg => "nobg"
  | .bold => "bold"
  | .nobold => "nobold"
  | .reverse => "reverse"
  | .noreverse => "noreverse"
  | .leave => "from"
  | .enter => "to"
  | .reset => "reset"

/-- The group a directive is listed in. -/
def category : Directive → Category
  | .fg | .bg | .nofg | .nobg => .color
  | .bold | .nobold | .reverse | .noreverse => .attribute
  | .leave | .enter => .transition
  | .reset => .reset

/-- The parameters of a directive. -/
def params : Directive → List ParamType
  | .fg | .bg => [.number]
  | .leave => [.text, .number]
  | .enter => [.number, .text]
  | _ => []

/-- What a directive does, in one line. -/
def description : Directive → Text
  | .fg => "Set foreground color (0-255)"
  | .bg => "Set background color (0-255)"
  | .nofg => "Reset foreground to terminal default"
  | .nobg => "Reset background to terminal default"
  | .bold => "Bold text"
  | .nobold => "Normal intensity"
  | .reverse => "Swap foreground and background"
  | .noreverse => "Cancel reverse video"
  | .leave => "Transition from the current background to another"
  | .enter => "Transition into a new background"
  | .reset => "Reset all colors and attributes"

/-- Programs that show a directive in use. -/
def examples : Directive → List Text
  | .fg => ["\x7bfg 202\x7d"]
  | .bg => ["\x7bbg 52\x7d"]
  | .leave => ["\x7bbg 4\x7dtext\x7bfrom \"\" 0\x7dmore"]
  | .enter => ["\x7bto 4 \"\"\x7dtext"]
  | .reset => ["\x7bbold\x7dtext\x7breset\x7d"]
  | d => ["\x7b" ++ d.name ++ "\x7d"]

/-- The effect of a call whose arguments fit. -/
def effect? : Directive → List Arg → Option Effect
  | .fg, [.number color] => some (.foreground (some color))
  | .bg, [.number color] => some (.background (some color))
  | .nofg, [] => some (.foreground none)
  | .nobg, [] => some (.background none)
  | .bold, [] => some (.bold true)
  | .nobold, [] => some (.bold false)
  | .reverse, [] => some (.reverse true)
  | .noreverse, [] => some (.reverse false)
  | .leave, [.text glyph, .number color] => some (.leave glyph color)
  | .enter, [.number color, .text glyph] => some (.enter color glyph)
  | .reset, [] => some .reset
  | _, _ => none

/-- What is wrong with the arguments of a call, if they do not fit. -/
def problem? (d : Directive) (args : List Value) : Option ArgProblem :=
  argProblem? d.name d.params args

/-- The effect of a call, or what is wrong with its arguments. -/
def effect (d : Directive) (args : List Arg) : Except ArgProblem Effect :=
  match d.effect? args with
  | some effect => .ok effect
  | none =>
    .error ((d.problem? (args.map Arg.toValue)).getD (.count d.name d.params.length args.length))

/-- The arguments fit exactly when the call has an effect. -/
theorem isSome_effect?_iff (d : Directive) (args : List Arg) :
    (d.effect? args).isSome = true ↔ d.problem? (args.map Arg.toValue) = none := by
  cases d <;> rcases args with _ | ⟨_ | _, _ | ⟨_ | _, _ | _⟩⟩ <;>
    simp [effect?, problem?, argProblem?, typeProblem?, params, ParamType.accepts, Arg.toValue,
      Value.ofText]

end Directive

end LogStyle
