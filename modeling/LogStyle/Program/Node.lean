import LogStyle.Directive.Basic
import LogStyle.Fault
import LogStyle.Program.Token
import LogStyle.Text.Literal
import LogStyle.Text.Numeral

/-! # Nodes of directive programs

A program read from its tokens: stretches of text and calls of directives. Reading walks the tokens once,
carrying the call that is open, so the first token that cannot stand where it does decides the error.
-/

namespace LogStyle

/-- A part of a directive program. -/
inductive Node where
  | text (t : Text)
  /-- A call, and the position of its opening brace. -/
  | call (name : Text) (args : List Arg) (position : Nat)
  deriving Repr, DecidableEq

/-- Why a directive program cannot be read. -/
inductive CompileError where
  /-- Braces without a name between them. -/
  | emptyDirective (position : Nat)
  /-- A call of something the registry does not know. -/
  | undefined (name : Text) (position : Nat)
  /-- The text ends inside braces. -/
  | unclosed (position : Nat)
  /-- Something that starts no token, where the name should be. -/
  | expectedName (found : Text) (position : Nat)
  /-- Something that starts no token, after the name. -/
  | unexpected (found : Text) (position : Nat)
  /-- A quoted argument without a value. -/
  | badText (literal : Text) (position : Nat) (why : Literal.Fault)
  /-- A number with too many digits. -/
  | longNumber (digits : Nat)
  deriving Repr, DecidableEq

namespace CompileError

/-- An error put into words. A number with too many digits is a fault of the value, not of the program. -/
def fault : CompileError → Fault
  | emptyDirective position => ⟨.compile, "empty directive at position " ++ Text.ofNat position⟩
  | undefined name position =>
    ⟨.compile, "function \"" ++ name ++ "\" not defined (directive at position " ++ Text.ofNat position ++ ")"⟩
  | unclosed position => ⟨.compile, "unclosed directive at position " ++ Text.ofNat position⟩
  | expectedName found position =>
    ⟨.compile, "unexpected " ++ found.quoted ++ " in directive at position " ++ Text.ofNat position
      ++ ", expected function name"⟩
  | unexpected found position =>
    ⟨.compile, "unexpected " ++ found.quoted ++ " in directive at position " ++ Text.ofNat position⟩
  | badText literal position why =>
    ⟨.compile, "bad string " ++ literal ++ " at position " ++ Text.ofNat position ++ ": " ++ why.message⟩
  | longNumber digits => ⟨.value, (Numeral.Fault.tooLong digits).message⟩

end CompileError

namespace Node

/-- A call whose closing brace has not been read yet. -/
structure Draft where
  name : Option Text := none
  args : List Arg := []
  position : Nat
  deriving Repr, DecidableEq

namespace Draft

/-- A call with one more argument. -/
def addArg (d : Draft) (arg : Arg) : Draft :=
  { d with args := d.args ++ [arg] }

/-- A call after a bare word: the first is its name, the others are arguments. -/
def addWord (d : Draft) (word : Text) : Draft :=
  match d.name with
  | none => { d with name := some word }
  | some _ => d.addArg (.text word)

/-- The finished call, if it has a name that is known. -/
def close (d : Draft) (knows : Text → Bool) : Except CompileError Node :=
  match d.name with
  | none => .error (.emptyDirective d.position)
  | some name =>
    if knows name then .ok (.call name d.args d.position) else .error (.undefined name d.position)

/-- The number that an integer token stands for. -/
def number (text : Text) : Except CompileError Int :=
  match Numeral.readInt text with
  | .ok n => .ok n
  | .error (.tooLong digits) => .error (.longNumber digits)
  | .error (.notNumeral _ _) => .ok 0

/-- What stands between the two quotes of a token. -/
def inner (text : Text) : Text :=
  (text.drop 1).dropLast

/-- A call after one more token other than a brace. -/
def add [CharNames] (d : Draft) (token : Token) : Except CompileError Draft :=
  match token.kind with
  | .brace | .text | .blank => .ok d
  | .name => .ok (d.addWord token.text)
  | .integer => (number token.text).map fun n => d.addArg (.number n)
  | .raw => .ok (d.addArg (.text (inner token.text)))
  | .quoted =>
    match Literal.decode (inner token.text) with
    | .ok t => .ok (d.addArg (.text t))
    | .error why => .error (.badText token.text token.position why)
  | .stray =>
    match d.name with
    | none => .error (.expectedName token.text token.position)
    | some _ => .error (.unexpected token.text token.position)

end Draft

/-- The nodes of a list of tokens, given the call that is open. -/
def readFrom [CharNames] (knows : Text → Bool) : Option Draft → List Token → Except CompileError (List Node)
  | none, [] => .ok []
  | some d, [] => .error (.unclosed d.position)
  | none, token :: rest =>
    if token.kind = .brace then readFrom knows (some { position := token.position }) rest
    else (readFrom knows none rest).map (.text token.text :: ·)
  | some d, token :: rest =>
    if token.kind = .brace then do
      let node ← d.close knows
      let nodes ← readFrom knows none rest
      pure (node :: nodes)
    else do
      let d ← d.add token
      readFrom knows (some d) rest

/-- The nodes of a program whose calls name what is known. -/
def read [CharNames] (knows : Text → Bool) (source : Text) : Except CompileError (List Node) :=
  readFrom knows none (Token.scan source)

end Node

end LogStyle
