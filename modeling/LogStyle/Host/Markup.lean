import LogStyle.Template.Segment
import LogStyle.Text.Blank

/-! # Markup of the host logger

The host logger takes tags between angle brackets for markup, unless a backslash stands right before them. A
header is escaped so that its own angle brackets are text. What the host then writes differs from the header
only where an angle bracket starts no tag.

How the host takes markup out of a format is not said here: a colorizer is given. All that is relied on is what
it does where every tag has its backslash: it takes the backslashes out and keeps the rest.
-/

namespace LogStyle

namespace Markup

/-- How one character of a header is written for the host. -/
def escapeChar (c : CodePoint) : Text :=
  if c = '\x7b' || c = '\x7d' then [c, c]
  else if c = '<' then ['\\', c]
  else [c]

/-- A header as it is written for the host: braces twice, and a backslash before opening angle brackets. -/
def escape (t : Text) : Text :=
  t.flatMap escapeChar

/-- Whether a character may stand in a tag. -/
def isTagChar (c : CodePoint) : Bool :=
  !(c = '<' || c = '>' || isBlank c)

/-- A tag at the beginning of a text, and what follows it. -/
def tag? (t : Text) : Option (Text × Text) :=
  match t with
  | '<' :: rest =>
    match rest.dropWhile isTagChar with
    | .char '>' :: after => some (.char '<' :: rest.takeWhile isTagChar ++ [.char '>'], after)
    | _ => none
  | _ => none

/-- What follows a tag is shorter than the text it was found in. -/
theorem length_lt_of_tag? {t tag after : Text} (h : tag? t = some (tag, after)) : after.length < t.length := by
  unfold tag? at h
  split at h
  · next rest =>
    have hle := (List.dropWhile_suffix (l := rest) isTagChar).length_le
    split at h
    · next left hleft =>
      simp only [Option.some.injEq, Prod.mk.injEq] at h
      rw [hleft, List.length_cons] at hle
      rw [← h.2, List.length_cons]
      omega
    · cases h
  · cases h

/-- A text without the backslashes that stand right before tags. -/
def unescape (t : Text) : Text :=
  match t with
  | [] => []
  | c :: rest =>
    match _h : if c = '\\' then tag? rest else none with
    | some (tag, after) => tag ++ unescape after
    | none => c :: unescape rest
termination_by t.length
decreasing_by
  · split at _h
    · exact Nat.lt_succ_of_lt (length_lt_of_tag? _h)
    · cases _h
  · exact Nat.lt_succ_self _

/-- Every tag in a text has a backslash right before it. -/
def Escaped (t : Text) : Prop :=
  ∀ before after, t = before ++ after → (tag? after).isSome = true → before.getLast? = some (.char '\\')

/-- A piece of a format: a text, or a field of the record. -/
inductive Piece where
  | text (t : Text)
  | field (name : Text)
  deriving Repr, DecidableEq

/-- Pieces with a character in front. -/
def Piece.addFront (c : CodePoint) : List Piece → List Piece
  | .text t :: rest => .text (c :: t) :: rest
  | pieces => .text [c] :: pieces

/-- The pieces of a format: fields stand between braces, and a brace that is written twice ends a text. None if a
    brace stands alone. -/
def pieces? (format : Text) : Option (List Piece) :=
  match format with
  | [] => some []
  | '\x7b' :: '\x7b' :: rest => (pieces? rest).map (.text ['\x7b'] :: ·)
  | '\x7d' :: '\x7d' :: rest => (pieces? rest).map (.text ['\x7d'] :: ·)
  | '\x7d' :: _ => none
  | '\x7b' :: rest =>
    match _h : Text.cut? '\x7d' rest with
    | none => none
    | some (name, after) => (pieces? after).map (.field name :: ·)
  | c :: rest => (pieces? rest).map (Piece.addFront c)
termination_by format.length
decreasing_by
  all_goals try simp only [List.length_cons]
  · omega
  · omega
  · have shorter := Segment.length_lt_of_cut? _h
    omega
  · omega

/-- The fields that formats of records use: the message, and an exception, of which there is none. -/
def field? (message name : Text) : Option Text :=
  if name = "message" then some message else if name = "exception" then some [] else none

/-- What takes the markup out of the pieces of a format; none if it does not fit. -/
abbrev Colorizer := List Piece → Option (List Piece)

/-- A piece whose text is changed. -/
def Piece.mapText (f : Text → Text) : Piece → Piece
  | .text t => .text (f t)
  | .field name => .field name

/-- What is relied on of a colorizer: where every tag is escaped it takes the escapes out, and nothing else. -/
structure Colorizer.Lawful (k : Colorizer) : Prop where
  escaped : ∀ pieces, (∀ t, Piece.text t ∈ pieces → Escaped t) → k pieces = some (pieces.map (Piece.mapText unescape))

/-- The colorizer that takes out escapes and knows no markup. -/
def Colorizer.plain : Colorizer :=
  fun pieces => some (pieces.map (Piece.mapText unescape))

theorem Colorizer.plain_lawful : Colorizer.plain.Lawful :=
  ⟨fun _ _ => rfl⟩

/-- What is written for the pieces of a format. -/
def writePieces (message : Text) : List Piece → Option Text
  | [] => some []
  | .text t :: rest => (writePieces message rest).map (t ++ ·)
  | .field name :: rest => do
    let value ← field? message name
    let after ← writePieces message rest
    pure (value ++ after)

/-- The format of a record whose header stands in two parts around its message. -/
def format (head tail : Text) : Text :=
  escape head ++ "\x7bmessage\x7d" ++ escape tail ++ "\n\x7bexception\x7d"

/-- What is written for a record with a header in two parts around its message; none if the host takes
    something for markup that does not fit. -/
def written? (k : Colorizer) (head message tail : Text) : Option Text := do
  let pieces ← pieces? (format head tail)
  let plain ← k pieces
  writePieces message plain

end Markup

end LogStyle
