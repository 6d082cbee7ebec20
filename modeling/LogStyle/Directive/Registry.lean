import LogStyle.Directive.Basic
import LogStyle.Fault

/-! # Registries of directives

A program looks its directives up in a registry: the built-in ones, and the extensions that its caller
adds. An extension computes its output from its arguments, the style in force and a state of its own; a
failed call keeps the state it has reached.
-/

namespace LogStyle

/-- A directive supplied by a caller. -/
structure Extension (σ : Type) where
  /-- What it does, in one line. -/
  summary : Text
  run : List Value → Style → σ → Except Fault Text × σ

namespace Extension

/-- An extension whose output depends on its arguments alone. -/
def ofFunction {σ : Type} (summary : Text) (f : List Value → Except Fault Text) : Extension σ :=
  ⟨summary, fun args _ x => (f args, x)⟩

end Extension

/-- What a name stands for in a registry. -/
inductive Entry (σ : Type) where
  | builtin (directive : Directive)
  | extension (extension : Extension σ)

/-- What is known about a directive for those who want to use it. -/
structure Listing where
  name : Text
  category : Category
  description : Text
  examples : List Text
  /-- The parameters, when they are checked. -/
  params : Option (List ParamType)
  deriving Repr, DecidableEq

/-- The directives that a program may use, in the order of their registration. -/
abbrev Registry (σ : Type) := List (Text × Entry σ)

namespace Registry

variable {σ : Type}

/-- The registry of the built-in directives. -/
def builtins : Registry σ :=
  Directive.all.map fun d => (d.name, .builtin d)

/-- What a name stands for. -/
def find? (r : Registry σ) (name : Text) : Option (Entry σ) :=
  r.lookup name

/-- Whether a name stands for something. -/
def knows (r : Registry σ) (name : Text) : Bool :=
  (r.find? name).isSome

/-- Give a name a new meaning; a name that is there keeps its place. -/
def insert (name : Text) (entry : Entry σ) : Registry σ → Registry σ
  | [] => [(name, entry)]
  | (n, e) :: rest =>
    if n = name then (n, entry) :: rest else (n, e) :: insert name entry rest

/-- The built-in directives and some extensions, which may take over built-in names. -/
def withExtensions (extensions : List (Text × Extension σ)) : Registry σ :=
  extensions.foldl (fun r (name, extension) => r.insert name (.extension extension)) builtins

/-- What is wrong with the arguments of a call; extensions take any. -/
def problem? (entry : Entry σ) (args : List Value) : Option ArgProblem :=
  match entry with
  | .builtin d => d.problem? args
  | .extension _ => none

/-- What is known about one entry. -/
def listing (name : Text) : Entry σ → Listing
  | .builtin d => ⟨name, d.category, d.description, d.examples, some d.params⟩
  | .extension e => ⟨name, .extension, e.summary, [], none⟩

/-- What is known about the directives of a group, in the order of their registration. -/
def inCategory (r : Registry σ) (category : Category) : List Listing :=
  (r.map fun (name, entry) => listing name entry).filter (·.category = category)

end Registry

end LogStyle
