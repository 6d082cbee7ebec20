import LogStyle.Formatter
import LogStyle.Palette.Basic

/-! # Themes

A theme styles the lines of a plain format by a palette. One formatter renders the first line of a record;
another renders what is put after its first embedded line end.
-/

namespace LogStyle

/-- A compiled theme. -/
structure Theme where
  line : Formatter
  trailer : Formatter

namespace Theme

/-- A directive with one text as its argument. -/
def call (name argument : Text) : Text :=
  "\x7b" ++ name ++ " " ++ Literal.encode argument ++ "\x7d"

/-- Directives that choose the fragment of each level for one use. -/
def conditionals (p : Palette) (part : Part) : Text :=
  Level.all.flatMap fun level => call ("on" ++ level.lower) ((p level).fragment part)

/-- What a field of the level starts with. -/
def labelStart : Text := "$\x7blevel"

/-- A field of the level with the blanks around it, at the beginning of a text, and what follows. -/
def label? (t : Text) : Option (Text × Text) :=
  match Text.dropLead? labelStart (t.dropWhile isBlank) with
  | none => none
  | some rest =>
    (Text.cut? '\x7d' rest).map fun (value, after) =>
      (t.takeWhile isBlank ++ labelStart ++ value ++ "\x7d" ++ after.takeWhile isBlank,
        after.dropWhile isBlank)

theorem length_dropLead?_le {lead t rest : Text} (h : Text.dropLead? lead t = some rest) :
    rest.length ≤ t.length := by
  induction lead generalizing t with
  | nil => simp only [Text.dropLead?, Option.some.injEq] at h; simp [h]
  | cons c lead ih =>
    cases t with
    | nil => simp [Text.dropLead?] at h
    | cons d t =>
      simp only [Text.dropLead?] at h
      split at h
      · exact Nat.le_succ_of_le (ih h)
      · simp at h

/-- What follows a field of the level is shorter than the text it was found in. -/
theorem length_lt_of_label? {t matched after : Text} (h : label? t = some (matched, after)) :
    after.length < t.length := by
  unfold label? at h
  split at h
  · simp at h
  · next rest hrest =>
    obtain ⟨⟨value, left⟩, hcut, he⟩ := Option.map_eq_some_iff.1 h
    simp only [Prod.mk.injEq] at he
    have hlead := length_dropLead?_le hrest
    have hlt := Segment.length_lt_of_cut? hcut
    have hblank := (List.dropWhile_suffix (l := t) isBlank).length_le
    have hafter := (List.dropWhile_suffix (l := left) isBlank).length_le
    rw [he.2] at hafter
    omega

/-- A text with something put before and after every field of the level and the blanks around it. -/
def wrapLabels (before after : Text) (t : Text) : Text :=
  match t with
  | [] => []
  | c :: rest =>
    match _h : label? (c :: rest) with
    | some (matched, left) => before ++ matched ++ after ++ wrapLabels before after left
    | none => c :: wrapLabels before after rest
termination_by t.length
decreasing_by
  · exact length_lt_of_label? _h
  · exact Nat.lt_succ_self _

/-- Directives that style the label; only the two most severe levels have a style of their own. -/
def labelConditionals (p : Palette) : Text :=
  call "onerror" (p .error).label ++ call "onfatal" (p .fatal).label

/-- The format of the first line: the style of its level is stored, and restored after each label. -/
def lineFormat (format : Text) (p : Palette) : Text :=
  conditionals p .first ++ "\x7bstore\x7d"
    ++ wrapLabels (labelConditionals p) "\x7breset\x7d\x7brestore\x7d" format

/-- Compile a formatter of a theme; a failure of its programs becomes one of the theme. -/
def compilePart (name : Text) (compile : Noted Formatter) : Noted Formatter := do
  Noted.report (.internal 2 ("Compiling theme " ++ name ++ " formatter..."))
  tryCatch compile fun fault =>
    if fault.kind.isStyle then
      throw ⟨.theme, "Failed to compile " ++ name ++ " format: " ++ fault.message⟩
    else throw fault

/-- Compile the theme of a format and a palette. -/
def compile [CharNames] (colors : Bool) (format : Text) (p : Palette) : Noted Theme := do
  let line ← compilePart "line" (Formatter.compileWithReset colors (lineFormat format p))
  let trailer ← compilePart "trailing" (Formatter.compile colors (conditionals p .trail))
  pure ⟨line, trailer⟩

/-- Compile a theme, or end the program with status 1. -/
def compileOrExit [CharNames] (colors : Bool) (format : Text) (p : Palette) : Noted Theme :=
  tryCatch (compile colors format p) fun fault =>
    if fault.kind = .theme then do
      let message : Text := "Cannot apply default theme: " ++ fault.message
      Noted.report { severity := "CRITICAL", message, detail := none }
      throw ⟨.exit, "1"⟩
    else throw fault

/-- The place after the first embedded line end of a record; the last character of a record is not
    embedded. -/
def embedded? (data : Text) : Option (Text × Text) :=
  match Text.cut? '\n' data with
  | some (before, after) => if after = [] then none else some (before ++ [.char '\n'], after)
  | none => none

/-- What is written for a record: the style of the lines after the first is put after the first embedded
    line end. -/
def written (t : Theme) (data : Text) (level : Level) (clock : Clock) (r : Restore) :
    Except Fault Text × Restore :=
  match embedded? data with
  | none => (.ok data, r)
  | some (before, after) =>
    match t.trailer.render ⟨level, [], clock⟩ r with
    | (.error fault, r) => (.error fault, r)
    | (.ok style, r) => (.ok (before ++ style ++ after), r)

end Theme

end LogStyle
