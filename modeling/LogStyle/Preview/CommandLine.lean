import LogStyle.Text.Digit

/-! # Command lines

A command line is read for named options. A long name may be cut short as long as one option is meant; a
value follows its option as the next word or after an equals sign; options of one letter may share a hyphen.
Names are told apart before any option is acted on.
-/

namespace LogStyle

/-- An option that a command line may hold; `κ` says which one it is. -/
structure Switch (κ : Type) where
  key : κ
  /-- How it is written, hyphens included. -/
  names : List Text
  takesValue : Bool
  deriving Repr, DecidableEq

namespace CommandLine

variable {κ : Type}

/-- What a word of a command line is. -/
inductive Word (κ : Type) where
  /-- A word that is no option: the value of one, or out of place. -/
  | plain (t : Text)
  /-- The mark after which no word is an option. -/
  | divider
  /-- A word in the form of an option that there is not. -/
  | unknown
  /-- An option under one of its names, with what is attached to the name. -/
  | option (s : Switch κ) (name : Text) (attached : Option Text)
  deriving Repr, DecidableEq

/-- The option with a name. -/
def named? (switches : List (Switch κ)) (name : Text) : Option (Switch κ) :=
  switches.find? fun s => s.names.contains name

/-- Whether a name has two hyphens in front. -/
def isLong (name : Text) : Bool :=
  match name with
  | '-' :: '-' :: _ => true
  | _ => false

/-- The name in a word and what stands after its first equals sign. -/
def cutValue (t : Text) : Text × Option Text :=
  match Text.cut? '=' t with
  | some (name, value) => (name, some value)
  | none => (t, none)

/-- The options whose name a word begins, with the whole name and what is attached to it. -/
def completions (switches : List (Switch κ)) (t : Text) : List (Switch κ × Text × Option Text) :=
  let all := switches.flatMap fun s => s.names.map fun name => (s, name)
  if isLong t then
    let (start, value) := cutValue t
    (all.filter fun (_, name) => start.isPrefixOf name).map fun (s, name) => (s, name, value)
  else
    all.filterMap fun (s, name) =>
      if name = t.take 2 then some (s, name, some (t.drop 2))
      else if t.isPrefixOf name then some (s, name, none)
      else none

/-- Whether a text is a row of decimal digits, empty or not. -/
def isDigits (t : Text) : Bool :=
  t.all isDecimal

/-- Whether a word is a number below zero; a line end may follow it. -/
def isNegative (t : Text) : Bool :=
  match t with
  | '-' :: body =>
    let body := if body.getLast? = some '\n' then body.dropLast else body
    match Text.cut? '.' body with
    | some (whole, fraction) => isDigits whole && fraction ≠ [] && isDigits fraction
    | none => body ≠ [] && isDigits body
  | _ => false

/-- What a word before any divider is; nothing if more than one option may be meant. -/
def classify? (switches : List (Switch κ)) (t : Text) : Option (Word κ) :=
  match t with
  | '-' :: _ :: _ =>
    match named? switches t with
    | some s => some (.option s t none)
    | none =>
      let (name, value) := cutValue t
      match if value.isSome then named? switches name else none with
      | some s => some (.option s name value)
      | none =>
        match completions switches t with
        | [(s, name, value)] => some (.option s name value)
        | _ :: _ :: _ => none
        | [] => some (if isNegative t || t.contains ' ' then .plain t else .unknown)
  | _ => some (.plain t)

/-- What the words of a command line are; nothing if one of them may mean more than one option. -/
def classifyAll? (switches : List (Switch κ)) : List Text → Option (List (Word κ))
  | [] => some []
  | t :: rest =>
    if t = "--" then some (.divider :: rest.map .plain)
    else do
      let word ← classify? switches t
      let after ← classifyAll? switches rest
      pure (word :: after)

/-- Options of one letter that share a hyphen. -/
structure Bundle (κ : Type) where
  /-- Those before the last one, which take no value. -/
  before : List κ
  /-- The last one, with what is attached to it. -/
  last : Switch κ × Option Text
  deriving Repr, DecidableEq

/-- An option with what is attached to its name. To a letter that takes no value others may be attached, with
    an equals sign between or without; nothing if one of them is no option or has no use for what follows. -/
def unbundle? (switches : List (Switch κ)) (s : Switch κ) (long : Bool) : Text → Option (Bundle κ)
  | [] => if s.takesValue then some ⟨[], s, some []⟩ else none
  | c :: rest =>
    if s.takesValue then some ⟨[], s, some (c :: rest)⟩
    else if long then none
    else
      match named? switches ['-', c], rest with
      | none, _ => none
      | some next, [] => some ⟨[s.key], next, none⟩
      | some next, d :: more =>
        (unbundle? switches next false (d :: more)).map fun bundle =>
          { bundle with before := s.key :: bundle.before }

/-- What a command line asks for. -/
structure Reading (κ : Type) where
  /-- The options in order, each with its value if it takes one. -/
  given : List (κ × Option Text)
  /-- Whether all words could be read; if not, the options before the trouble are given. -/
  sound : Bool
  deriving Repr, DecidableEq

namespace Reading

/-- Options before those of a reading. -/
def after (given : List (κ × Option Text)) (r : Reading κ) : Reading κ :=
  { r with given := given ++ r.given }

/-- A reading with a word that is out of place. -/
def misplaced (r : Reading κ) : Reading κ :=
  { r with sound := false }

/-- A reading that stops at some word. -/
def stopped : Reading κ :=
  ⟨[], false⟩

end Reading

/-- What words ask for. -/
def readWords (switches : List (Switch κ)) : List (Word κ) → Reading κ
  | [] => ⟨[], true⟩
  | .option s name attached :: rest =>
    let bundle? : Option (Bundle κ) :=
      match attached with
      | none => some ⟨[], s, none⟩
      | some text => unbundle? switches s (isLong name) text
    match bundle? with
    | none => .stopped
    | some ⟨before, last, value⟩ =>
      let before := before.map fun key => (key, none)
      if value.isSome || !last.takesValue then
        (readWords switches rest).after (before ++ [(last.key, value)])
      else
        match rest with
        | .plain value :: rest => (readWords switches rest).after (before ++ [(last.key, some value)])
        | _ => .stopped
  | _ :: rest => (readWords switches rest).misplaced

/-- Read a command line. -/
def read (switches : List (Switch κ)) (args : List Text) : Reading κ :=
  match classifyAll? switches args with
  | some words => readWords switches words
  | none => .stopped

end CommandLine

end LogStyle
