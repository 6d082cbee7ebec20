import LogStyle.Text.Literal

/-! # Segments of templates

A template is literal text with fields between `${` and the next closing brace. Splitting loses nothing:
the segments in order make up the template, and no two literals are neighbours.
-/

namespace LogStyle

/-- A part of a template. -/
inductive Segment where
  | literal (t : Text)
  /-- What stands between the braces of a field. -/
  | field (body : Text)
  deriving Repr, DecidableEq

namespace Segment

/-- A field as it is written in a template. -/
def fieldText (body : Text) : Text :=
  .char '$' :: .char '\x7b' :: body ++ [.char '\x7d']

/-- A segment as it is written in a template. -/
def source : Segment → Text
  | literal t => t
  | field body => fieldText body

/-- The body of a field whose dollar sign has just been read, and what follows the field. -/
def fieldBody? : Text → Option (Text × Text)
  | '\x7b' :: rest => Text.cut? '\x7d' rest
  | _ => none

/-- Put a character in front of the literal that segments start with. -/
def consChar (c : CodePoint) : List Segment → List Segment
  | literal t :: rest => literal (c :: t) :: rest
  | segments => literal [c] :: segments

/-- What follows a cut is shorter than what was cut. -/
theorem length_lt_of_cut? {c : CodePoint} {t before after : Text} (h : Text.cut? c t = some (before, after)) :
    after.length < t.length := by
  induction t generalizing before after with
  | nil => simp [Text.cut?] at h
  | cons d rest ih =>
    simp only [Text.cut?] at h
    split at h
    · simp only [Option.some.injEq, Prod.mk.injEq] at h
      simp [← h.2]
    · obtain ⟨⟨b, a⟩, hb, he⟩ := Option.map_eq_some_iff.1 h
      simp only [Prod.mk.injEq] at he
      have := ih hb
      simp only [← he.2, List.length_cons]
      omega

/-- What follows a field is shorter than what follows its dollar sign. -/
theorem length_lt_of_fieldBody? {t body after : Text} (h : fieldBody? t = some (body, after)) :
    after.length < t.length := by
  unfold fieldBody? at h
  split at h
  · exact Nat.lt_trans (length_lt_of_cut? h) (Nat.lt_succ_self _)
  · simp at h

/-- The segments of a template. -/
def split (t : Text) : List Segment :=
  match t with
  | [] => []
  | c :: rest =>
    if c = '$' then
      match _h : fieldBody? rest with
      | some (body, after) => field body :: split after
      | none => consChar c (split rest)
    else consChar c (split rest)
termination_by t.length
decreasing_by
  · exact Nat.lt_trans (length_lt_of_fieldBody? _h) (Nat.lt_succ_self _)
  · exact Nat.lt_succ_self _
  · exact Nat.lt_succ_self _

/-- The name and the value of a field: what stands before and after the first colon of its body. -/
def nameAndValue (body : Text) : Text × Text :=
  Text.cut ':' body

/-- A segment of a format as directive text: a field becomes a directive that inserts it. A field without
    a body is left as it is. -/
def directive : Segment → Text
  | literal t => t
  | field [] => fieldText []
  | field body => "\x7bfield " ++ Literal.encode body ++ "\x7d"

end Segment

/-- A format with its fields written as directives that insert them. -/
def Text.fieldsAsDirectives (format : Text) : Text :=
  (Segment.split format).flatMap Segment.directive

end LogStyle
