import LogStyle.Text.Blank
import LogStyle.Text.Digit
import LogStyle.Text.Word

/-! # Tokens of directive programs

A program is plain text with directives between braces. Outside braces everything up to the next opening
brace is one token; inside, the longest token that starts at a character is taken, and a character that
starts none is a token of its own.
-/

namespace LogStyle

/-- The classes of tokens. -/
inductive TokenClass where
  /-- A brace that opens or closes a directive. -/
  | brace
  | text
  | blank
  /-- A text between double quotes, with escapes. -/
  | quoted
  /-- A text between backticks, without escapes. -/
  | raw
  | integer
  | name
  /-- A character that starts no token. -/
  | stray
  deriving Repr, DecidableEq

/-- A piece of a program and where it starts. -/
structure Token where
  position : Nat
  kind : TokenClass
  text : Text
  deriving Repr, DecidableEq

/-- A token split off the front of a text. -/
structure Lexeme where
  kind : TokenClass
  text : Text
  rest : Text
  deriving Repr, DecidableEq

namespace Lexeme

/-- The body of a quoted text up to and with its closing quote, and what follows. A backslash takes the next
    character with it, unless that is a line feed. -/
def quotedBody? : Text → Option (Text × Text)
  | [] => none
  | '"' :: rest => some (['"'], rest)
  | ['\\'] => none
  | '\\' :: c :: rest =>
    if c = '\n' then none
    else (quotedBody? rest).map fun (body, after) => ('\\' :: c :: body, after)
  | c :: rest => (quotedBody? rest).map fun (body, after) => (c :: body, after)

/-- The token of a class made of the first character and those after it that satisfy a test. -/
def run (kind : TokenClass) (keeps : CodePoint → Bool) (c : CodePoint) (rest : Text) : Lexeme :=
  ⟨kind, c :: rest.takeWhile keeps, rest.dropWhile keeps⟩

/-- The first token of `c :: rest` outside braces. -/
def outside (c : CodePoint) (rest : Text) : Lexeme :=
  if c = '\x7b' then ⟨.brace, [c], rest⟩ else run .text (· ≠ '\x7b') c rest

/-- Whether a text starts with a decimal digit. -/
def startsDecimal : Text → Bool
  | c :: _ => isDecimal c
  | [] => false

/-- The first token of `c :: rest` inside braces. -/
def inside (c : CodePoint) (rest : Text) : Lexeme :=
  let stray : Lexeme := ⟨.stray, [c], rest⟩
  if isBlank c then run .blank isBlank c rest
  else if c = '"' then
    match quotedBody? rest with
    | some (body, after) => ⟨.quoted, c :: body, after⟩
    | none => stray
  else if c = '\x60' then
    match Text.cut? '\x60' rest with
    | some (body, after) => ⟨.raw, c :: body ++ [.char '\x60'], after⟩
    | none => stray
  else if isDecimal c || (c = '-' && startsDecimal rest) then run .integer isDecimal c rest
  else if isNameStart c then run .name isWord c rest
  else if c = '\x7d' then ⟨.brace, [c], rest⟩
  else stray

/-- A quoted body and what follows it make up the text it was split from. -/
theorem append_of_quotedBody? {t body after : Text} (h : quotedBody? t = some (body, after)) :
    body ++ after = t := by
  fun_induction quotedBody? t generalizing body after with
  | case1 => simp at h
  | case2 rest => simp only [Option.some.injEq, Prod.mk.injEq] at h; simp [← h.1, ← h.2]
  | case3 => simp at h
  | case4 => simp at h
  | case5 c rest _ ih =>
    obtain ⟨⟨b, a⟩, hb, he⟩ := Option.map_eq_some_iff.1 h
    simp only [Prod.mk.injEq] at he
    simp [← he.1, ← he.2, ih hb]
  | case6 c rest _ _ _ ih =>
    obtain ⟨⟨b, a⟩, hb, he⟩ := Option.map_eq_some_iff.1 h
    simp only [Prod.mk.injEq] at he
    simp [← he.1, ← he.2, ih hb]

/-- A cut takes out the character it is made at and nothing else. -/
theorem append_of_cut? {c : CodePoint} {t before after : Text} (h : Text.cut? c t = some (before, after)) :
    before ++ c :: after = t := by
  induction t generalizing before after with
  | nil => simp [Text.cut?] at h
  | cons d rest ih =>
    simp only [Text.cut?] at h
    split at h
    · next hd => simp only [Option.some.injEq, Prod.mk.injEq] at h; simp [← h.1, ← h.2, hd]
    · obtain ⟨⟨b, a⟩, hb, he⟩ := Option.map_eq_some_iff.1 h
      simp only [Prod.mk.injEq] at he
      simp [← he.1, ← he.2, ih hb]

/-- A token and what follows it make up the text they were split from, and a token is never empty. -/
def Splits (l : Lexeme) (t : Text) : Prop :=
  l.text ++ l.rest = t ∧ l.text ≠ []

theorem run_splits (kind : TokenClass) (keeps : CodePoint → Bool) (c : CodePoint) (rest : Text) :
    (run kind keeps c rest).Splits (c :: rest) := by
  simp [Splits, run]

theorem outside_splits (c : CodePoint) (rest : Text) : (outside c rest).Splits (c :: rest) := by
  unfold outside
  split
  · simp [Splits]
  · exact run_splits ..

theorem inside_splits (c : CodePoint) (rest : Text) : (inside c rest).Splits (c :: rest) := by
  unfold inside
  simp only
  split
  · exact run_splits ..
  split
  · split
    · next body after h => simpa [Splits] using append_of_quotedBody? h
    · simp [Splits]
  split
  · next hc =>
    split
    · next body after h => simpa [Splits] using append_of_cut? h
    · simp [Splits]
  split
  · exact run_splits ..
  split
  · exact run_splits ..
  split
  · simp [Splits]
  · simp [Splits]

/-- What follows the first token is shorter than the whole. -/
theorem rest_lt_of_splits {l : Lexeme} {t : Text} (h : l.Splits t) : l.rest.length < t.length := by
  rw [← h.1, List.length_append]
  have := List.length_pos_iff.2 h.2
  omega

end Lexeme

namespace Token

/-- The first token of a text, inside braces or outside. -/
def first (open_ : Bool) (c : CodePoint) (rest : Text) : Lexeme :=
  if open_ then Lexeme.inside c rest else Lexeme.outside c rest

/-- Whether a directive is open after a token. -/
def opens (open_ : Bool) (kind : TokenClass) : Bool :=
  if kind = .brace then !open_ else open_

theorem first_splits (open_ : Bool) (c : CodePoint) (rest : Text) :
    (first open_ c rest).Splits (c :: rest) := by
  unfold first
  split
  · exact Lexeme.inside_splits c rest
  · exact Lexeme.outside_splits c rest

/-- The tokens of a text that starts at a position, inside braces or outside. -/
def scanFrom (open_ : Bool) (position : Nat) (t : Text) : List Token :=
  match t with
  | [] => []
  | c :: rest =>
    let lexeme := first open_ c rest
    ⟨position, lexeme.kind, lexeme.text⟩
      :: scanFrom (opens open_ lexeme.kind) (position + lexeme.text.length) lexeme.rest
termination_by t.length
decreasing_by exact Lexeme.rest_lt_of_splits (first_splits open_ c rest)

/-- The tokens of a program. -/
def scan (source : Text) : List Token :=
  scanFrom false 0 source

end Token

end LogStyle
