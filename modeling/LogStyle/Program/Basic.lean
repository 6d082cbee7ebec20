import LogStyle.Directive.Registry
import LogStyle.Note
import LogStyle.Program.Node

/-! # Directive programs

A program is run from a style: text stands for itself, a call writes its output and changes the style for
what follows. A run that fails keeps the style it has reached, so a program can be run again from there.
-/

namespace LogStyle

/-- A directive program together with what its calls mean. -/
structure Program (σ : Type) where
  registry : Registry σ
  nodes : List Node
  /-- Whether escape sequences are written. -/
  colors : Bool

/-- Why a program fails while it runs. -/
inductive ExecuteError where
  /-- A call of something the registry does not know. -/
  | undefined (name : Text)
  /-- A colour the terminal does not have. -/
  | noSuchColor (color : Int)
  /-- Arguments that do not fit the directive. -/
  | badArgs (name : Text) (position : Nat) (problem : ArgProblem)
  /-- A failure inside an extension. -/
  | failed (name : Text) (position : Nat) (fault : Fault)
  /-- A failure of another program, run by an extension. -/
  | inner (fault : Fault)
  deriving Repr, DecidableEq

namespace ExecuteError

/-- The place of a failed call, and why it failed. -/
def calling (name : Text) (position : Nat) (why : Text) : Text :=
  "error calling " ++ name ++ " at position " ++ Text.ofNat position ++ ": " ++ why

/-- An error put into words. The failure of another program keeps its own. -/
def fault : ExecuteError → Fault
  | undefined name => ⟨.execute, "function \"" ++ name ++ "\" not defined"⟩
  | noSuchColor color => ⟨.execute, "color index " ++ Text.ofInt color ++ " out of range 0-255"⟩
  | badArgs name position problem => ⟨.execute, calling name position problem.message⟩
  | failed name position fault => ⟨.execute, calling name position fault.message⟩
  | inner fault => fault

/-- The error of a call whose extension failed. -/
def ofExtension (name : Text) (position : Nat) (fault : Fault) : ExecuteError :=
  if fault.kind.isStyle then inner fault else failed name position fault

/-- The error of a call that would have to write out a number with too many digits. -/
def longNumber (name : Text) (position : Nat) : ExecuteError :=
  .failed name position ⟨.value, Numeral.longMessage⟩

end ExecuteError

namespace Program

variable {σ : Type}

/-- Read a program whose calls may use the built-in directives and some extensions. -/
def read [CharNames] (extensions : List (Text × Extension σ)) (colors : Bool) (source : Text) :
    Except CompileError (Program σ) :=
  let registry := Registry.withExtensions extensions
  (Node.read registry.knows source).map fun nodes => ⟨registry, nodes, colors⟩

/-- The note that a program has been read. -/
def note (p : Program σ) : Note :=
  .internal 3 ("Compiled " ++ Text.ofNat p.nodes.length ++ " style nodes")

/-- Read a program and report that it has been read. -/
def compile [CharNames] (extensions : List (Text × Extension σ)) (colors : Bool) (source : Text) :
    Noted (Program σ) :=
  match read extensions colors source with
  | .ok p => do
    Noted.report p.note
    pure p
  | .error e => throw e.fault

/-- What a run has reached: the style in force, and the state of the extensions. -/
abbrev Reached (σ : Type) := Style × σ

/-- The result of a step of a run, and what has been reached. -/
abbrev Outcome (σ : Type) := Except ExecuteError Text × Reached σ

/-- Why a call cannot have its effect on a style, if it cannot: the terminal does not have the colour that it asks for,
    or a colour of the style is too long to be written out. -/
def refusal? (name : Text) (position : Nat) (effect : Effect) (s : Style) : Option ExecuteError :=
  match effect.color?.filter fun color => ¬ Style.IsColor color with
  | some color => some (if Numeral.isLong color then .longNumber name position else .noSuchColor color)
  | none => if (effect.recalled s).any Numeral.isLong then some (.longNumber name position) else none

/-- Nothing keeps a call from its effect exactly when the terminal has the colour that it asks for and the colours of the
    style that it writes out are not too long. -/
theorem refusal?_eq_none {name : Text} {position : Nat} {effect : Effect} {s : Style} :
    refusal? name position effect s = none ↔
      (∀ color ∈ effect.color?, Style.IsColor color) ∧ ∀ color ∈ effect.recalled s, Numeral.isLong color = false := by
  unfold refusal?
  split
  · next color missing =>
      obtain ⟨asked, unfit⟩ := Option.filter_eq_some_iff.1 missing
      refine ⟨fun none => (nomatch none), fun ⟨colored, _⟩ => ?_⟩
      exact absurd (colored color asked) (of_decide_eq_true unfit)
  · next fit =>
      have colored : ∀ color ∈ effect.color?, Style.IsColor color := by simpa using fit
      rw [and_iff_right colored]
      simp

/-- A call is kept from its effect by a colour that the terminal does not have, or by a number that cannot be written
    out. -/
theorem of_refusal?_eq_some {name : Text} {position : Nat} {effect : Effect} {s : Style} {e : ExecuteError}
    (refused : refusal? name position effect s = some e) :
    (∃ color ∈ effect.color?, ¬ Style.IsColor color ∧ e = .noSuchColor color) ∨ e = .longNumber name position := by
  unfold refusal? at refused
  split at refused
  · next color missing =>
      obtain ⟨asked, unfit⟩ := Option.filter_eq_some_iff.1 missing
      rw [Option.some.injEq] at refused
      split at refused
      · exact .inr refused.symm
      · exact .inl ⟨color, asked, of_decide_eq_true unfit, refused.symm⟩
  · split at refused
    · exact .inr (Option.some.inj refused).symm
    · cases refused

/-- Have the effect of a call on the style, if nothing keeps it from that. -/
def runEffect (colors : Bool) (name : Text) (position : Nat) (effect : Effect) (at_ : Reached σ) : Outcome σ :=
  match refusal? name position effect at_.1 with
  | some e => (.error e, at_)
  | none => (.ok (effect.output colors at_.1), effect.apply at_.1, at_.2)

/-- Run one call. -/
def runCall (p : Program σ) (name : Text) (args : List Arg) (position : Nat) (at_ : Reached σ) :
    Outcome σ :=
  match p.registry.find? name with
  | none => (.error (.undefined name), at_)
  | some (.builtin d) =>
    match d.effect args with
    | .ok effect => runEffect p.colors name position effect at_
    | .error problem => (.error (.badArgs name position problem), at_)
  | some (.extension e) =>
    match e.run (args.map Arg.toValue) at_.1 at_.2 with
    | (.ok t, state) => (.ok t, at_.1, state)
    | (.error fault, state) => (.error (.ofExtension name position fault), at_.1, state)

/-- Run one node. -/
def runNode (p : Program σ) (node : Node) (at_ : Reached σ) : Outcome σ :=
  match node with
  | .text t => (.ok t, at_)
  | .call name args position => p.runCall name args position at_

/-- Run nodes one after another, up to the first failure. -/
def runNodes (p : Program σ) : List Node → Reached σ → Outcome σ
  | [], at_ => (.ok [], at_)
  | node :: rest, at_ =>
    match p.runNode node at_ with
    | (.error e, reached) => (.error e, reached)
    | (.ok t, reached) =>
      match runNodes p rest reached with
      | (.error e, reached) => (.error e, reached)
      | (.ok u, reached) => (.ok (t ++ u), reached)

/-- Run a program from a style and a state of its extensions. -/
def execute (p : Program σ) (at_ : Reached σ) : Outcome σ :=
  p.runNodes p.nodes at_

end Program

/-- A program whose extensions keep no state. -/
abbrev PureProgram := Program Unit

namespace PureProgram

/-- Run a program from a style: its output or its failure, and the style it has reached. -/
def execute (p : PureProgram) (s : Style) : Except ExecuteError Text × Style :=
  let (result, reached) := Program.execute p (s, ())
  (result, reached.1)

/-- The output of a program that is read and run from a style at once. -/
def compileAndExecute [CharNames] (extensions : List (Text × Extension Unit)) (colors : Bool) (source : Text)
    (s : Style) : Noted Text := do
  let p ← Program.compile extensions colors source
  match (execute p s).1 with
  | .ok t => pure t
  | .error e => throw e.fault

end PureProgram

end LogStyle
