import LogStyle.Proofs.Program.Style
import LogStyle.Proofs.Theme.Line

/-! # The closed form of a theme's lines

Whatever was rendered before, a line of a theme is the style of its level, the user's format with each field of
the level put into its own style and followed by the way back, and a reset. On every line exactly one of the
styles in front applies, and it applies before the line stores what is remembered. So what an earlier line has
left is never read, and the labels behind overwrite what is remembered but not what is stored.
-/

namespace LogStyle

namespace Theme

/-- A user's format that is read by itself when a theme puts its directives into it. -/
structure Fitting (format : Text) : Prop where
  closed : ∀ stretch ∈ stretches format, Segment.Closed stretch.text
  /-- No opening brace stands outside of a field. -/
  outside : ∀ u, .literal u ∈ Segment.scattered format → .char '\x7b' ∉ u
  /-- All fields are those of the host. -/
  hosted : ∀ body, .field body ∈ Segment.scattered format →
    (Segment.nameAndValue body).1 ∉ [Ledger.conditionalName, Ledger.storeName, Ledger.restoreName]

namespace Fitting

variable {format : Text} (fitting : Fitting format)
include fitting

theorem mem_scattered {stretch : Stretch} (member : stretch ∈ stretches format) {segment : Segment}
    (inside : segment ∈ Segment.scattered stretch.text) : segment ∈ Segment.scattered format := by
  rw [← flatMap_text_stretches format, scattered_flatMap_text fitting.closed]
  exact List.mem_flatMap.2 ⟨stretch, member, inside⟩

theorem fits : ∀ stretch ∈ stretches format, (Clause.plain stretch.text).Fits := by
  intro stretch member
  exact ⟨fitting.closed stretch member, fun u inside => fitting.outside u (fitting.mem_scattered member inside)⟩

theorem hosted_of_mem_lineClauses {p : Palette} : ∀ c ∈ lineClauses p format, c.Hosted := by
  have plain : ∀ stretch ∈ stretches format, (Clause.plain stretch.text).Hosted := fun stretch member body inside =>
    fitting.hosted body (fitting.mem_scattered member inside)
  intro c member
  cases c with
  | plain t =>
      obtain ⟨stretch, inside, same⟩ := exists_of_plain_mem_lineClauses member
      exact same ▸ plain stretch inside
  | on | store | restore | reset => trivial

end Fitting

def labelStyle [CharNames] (p : Palette) : Level → Text
  | .error => fragmentOutput true (p .error).label
  | .fatal => fragmentOutput true (p .fatal).label
  | _ => []

/-- A stretch as a theme shows it: a field of the level is put between its own style and the way back to the style
    of the line. -/
def Stretch.themed (line : Line) (style back : Text) : Stretch → Except Fault Text
  | between t => line.rendered t
  | label t => (line.rendered t).map fun shown => style ++ shown ++ Formatter.resetSequence true ++ back

section
variable (line : Line) (way : Text) (p : Palette)

section

variable [CharNames]

theorem shownAll_preludeClauses (colors : Bool) (part : Part) (r : Restore) :
    Clause.shownAll colors line way (preludeClauses p part) r =
      (.ok (fragmentOutput colors ((p line.level).fragment part)),
        { r with previous := way, current := fragmentOutput colors ((p line.level).fragment part) }) := by
  obtain ⟨level, lead, clock⟩ := line
  cases level <;> simp [preludeClauses, Level.all, Clause.shownAll, Clause.shown]

theorem shownAll_stretch (stretch : Stretch) {r : Restore} (stored : r.stored ≠ []) :
    ∃ after, Clause.shownAll true line way (stretch.clauses p) r =
      (stretch.themed line (labelStyle p line.level) r.stored, after) ∧ after.stored = r.stored := by
  cases stretch with
  | between t => exact ⟨r, by simp [Stretch.clauses, Clause.shownAll, Clause.shown, Stretch.themed], rfl⟩
  | label t =>
      let style := labelStyle p line.level
      -- The style of the label is remembered, if there is one.
      obtain ⟨behind, front, kept⟩ : ∃ behind, Clause.shownAll true line way
          [.on .error (p .error).label, .on .fatal (p .fatal).label] r = (.ok style, behind) ∧
          behind.stored = r.stored := by
        obtain ⟨level, lead, clock⟩ := line
        cases level <;> simp [Clause.shownAll, Clause.shown, style, labelStyle, Sequel.andThen_ok, Except.map]
      refine ⟨behind, ?_, kept⟩
      have clauses : (Stretch.label t).clauses p =
          [.on .error (p .error).label, .on .fatal (p .fatal).label] ++ [.plain t, .reset, .restore] := rfl
      rw [clauses, Clause.shownAll_append, front, Stretch.themed]
      simp only [Clause.shownAll, Clause.shown]
      cases line.rendered t with
      | error fault => rfl
      | ok shown => simp [Sequel.andThen_ok, Except.map, Restore.wayBack, kept, stored, style]

theorem shownAll_stretches (stretches : List Stretch) {r : Restore} (stored : r.stored ≠ []) :
    ∃ after, Clause.shownAll true line way (stretches.flatMap (Stretch.clauses p)) r =
      (Sequel.joined (stretches.map (Stretch.themed line (labelStyle p line.level) r.stored)), after) := by
  -- Over the stretches what is remembered changes; that the stored way back stays carries the induction.
  induction stretches generalizing r with
  | nil => exact ⟨r, rfl⟩
  | cons stretch rest ih =>
      obtain ⟨between, here, kept⟩ := shownAll_stretch line way p stretch stored
      rw [List.flatMap_cons, Clause.shownAll_append, here, List.map_cons]
      cases stretch.themed line (labelStyle p line.level) r.stored with
      | error fault => exact ⟨between, rfl⟩
      | ok shown =>
          obtain ⟨after, later⟩ := ih (r := between) (by rwa [kept])
          refine ⟨after, ?_⟩
          rw [Sequel.andThen_ok, later, kept, Sequel.joined]

theorem shownAll_lineClauses (format : Text) (someWay : way ≠ []) (r : Restore) :
    (Clause.shownAll true line way (lineClauses p format) r).1 =
      (Sequel.joined ((stretches format).map (Stretch.themed line (labelStyle p line.level)
        (way ++ fragmentOutput true (p line.level).first)))).map fun shown =>
        fragmentOutput true (p line.level).first ++ shown ++ Formatter.resetSequence true := by
  let first := fragmentOutput true (p line.level).first
  -- What is stored is not empty, so the way back behind a label is always the stored one.
  have stored : ({ r with previous := way, current := first } : Restore).store.stored ≠ [] := by
    simp [Restore.store, someWay]
  obtain ⟨after, shown⟩ := shownAll_stretches line way p (stretches format) stored
  have front : Clause.shownAll true line way (preludeClauses p .first ++ [.store]) r =
      (.ok first, ({ r with previous := way, current := first } : Restore).store) := by
    rw [Clause.shownAll_append, shownAll_preludeClauses, Sequel.andThen_ok, Clause.shownAll_singleton]
    simp [Clause.shown, Except.map, first, LevelStyle.fragment]
  rw [lineClauses, Clause.shownAll_append, Clause.shownAll_append, front, Sequel.andThen_ok, shown]
  change (Sequel.andThen ((Sequel.joined ((stretches format).map
    (Stretch.themed line (labelStyle p line.level) (way ++ first)))).map _, after) _).1 = _
  cases Sequel.joined ((stretches format).map (Stretch.themed line (labelStyle p line.level) (way ++ first))) <;> rfl

end

end

theorem countP_isOn_lineClauses (p : Palette) (format : Text) :
    (lineClauses p format).countP Clause.isOn = 6 + 2 * labelCount format := by
  have labels (stretches : List Stretch) : (stretches.flatMap (Stretch.clauses p)).countP Clause.isOn =
      2 * stretches.countP Stretch.isLabel := by
    induction stretches with
    | nil => rfl
    | cons stretch rest ih =>
        have here : (stretch.clauses p).countP Clause.isOn = 2 * [stretch].countP Stretch.isLabel := by
          cases stretch <;> rfl
        have count : ([stretch] ++ rest).countP Stretch.isLabel =
            [stretch].countP Stretch.isLabel + rest.countP Stretch.isLabel := List.countP_append
        rw [List.singleton_append] at count
        rw [List.flatMap_cons, List.countP_append, ih, here, count, Nat.mul_add]
  have front : (preludeClauses p .first).countP Clause.isOn = 6 := rfl
  have store : [Clause.store].countP Clause.isOn = 0 := rfl
  have reset : [Clause.reset].countP Clause.isOn = 0 := rfl
  rw [lineClauses, List.countP_append, List.countP_append, List.countP_append, labels, front, store, reset, labelCount]
  omega

theorem on_first_mem_lineClauses (p : Palette) (format : Text) (level : Level) :
    .on level (p level).first ∈ lineClauses p format := by
  have front : Clause.on level (p level).first ∈ preludeClauses p .first := List.mem_map.2 ⟨level, level.mem_all, rfl⟩
  simp [lineClauses, front]

theorem on_label_mem_lineClauses (p : Palette) {format : Text} (labels : 0 < labelCount format) {level : Level}
    (severe : level = .error ∨ level = .fatal) : .on level (p level).label ∈ lineClauses p format := by
  obtain ⟨stretch, member, isLabel⟩ := List.countP_pos_iff.1 labels
  have inside : Clause.on level (p level).label ∈ (stretches format).flatMap (Stretch.clauses p) := by
    refine List.mem_flatMap.2 ⟨stretch, member, ?_⟩
    cases stretch with
    | between t => cases isLabel
    | label t => rcases severe with rfl | rfl <;> simp [Stretch.clauses]
  simp [lineClauses, inside]

/-- What leads back to the plain style. -/
def plainWay : Text := "\x1b[39m\x1b[49m\x1b[22m\x1b[27m"

theorem spelled_plain : Style.plain.spelled true = plainWay := by
  decide

theorem outcome_plainWay [CharNames] :
    (PureProgram.compileAndExecute [] true "\x7bnofg\x7d\x7bnobg\x7d\x7bnobold\x7d\x7bnoreverse\x7d"
      Style.plain).outcome.1 = .ok plainWay := by
  have same : Style.plain.directives = "\x7bnofg\x7d\x7bnobg\x7d\x7bnobold\x7d\x7bnoreverse\x7d" := by
    decide
  rw [← same, PureProgram.outcome_directives true Style.inRange_plain, spelled_plain]

theorem wayBack_plain [CharNames] : Walk.wayBack true Style.plain = some plainWay := by
  rw [Walk.wayBack_eq true Style.inRange_plain, spelled_plain]

theorem render_of_runsAll [CharNames] {format t : Text} {p : Palette} {l : Ledger} (fitting : Fitting format)
    (runs : Clause.RunsAll true (lineClauses p format) {} t l)
    (full : l.conditionals.length = 6 + 2 * labelCount format) (line : Line) (r : Restore) :
    ((Formatter.ofTemplate t l.conditionals).render line r).1 =
      (Sequel.joined ((stretches format).map (Stretch.themed line (labelStyle p line.level)
        (plainWay ++ fragmentOutput true (p line.level).first)))).map fun shown =>
        fragmentOutput true (p line.level).first ++ shown ++ Formatter.resetSequence true := by
  have grown : l.conditionals.length = ({} : Ledger).conditionals.length +
      (lineClauses p format).countP Clause.isOn := by
    rw [countP_isOn_lineClauses, full]
    exact (Nat.zero_add _).symm
  rw [runs.render wayBack_plain grown (fits_of_mem_lineClauses fitting.fits) fitting.hosted_of_mem_lineClauses,
    shownAll_lineClauses line plainWay p format (by decide)]

end Theme

namespace Segment

/-- A piece of a format whose dollar signs and braces are all those of its fields, with no field that the host does
    not know. -/
def Ordinary : Segment → Prop
  | literal t => .char '$' ∉ t ∧ .char '\x7b' ∉ t
  | field body => .char '$' ∉ body ∧ .char '\x7b' ∉ body ∧ .char '\x7d' ∉ body ∧
    (nameAndValue body).1 ∉ [Ledger.conditionalName, Ledger.storeName, Ledger.restoreName]

instance : DecidablePred Ordinary
  | literal _ => inferInstanceAs (Decidable (_ ∧ _))
  | field _ => inferInstanceAs (Decidable (_ ∧ _ ∧ _ ∧ _))

variable {pieces : List Segment} (ordinary : ∀ piece ∈ pieces, piece.Ordinary)
include ordinary

theorem scattered_of_ordinary : scattered (pieces.flatMap source) = pieces.flatMap scatter := by
  refine scattered_flatMap_source fun piece member => ?_
  have here := ordinary piece member
  cases piece with
  | literal t => exact ⟨fieldless_of_brace here.2, fun first => here.2 (List.mem_of_head? first)⟩
  | field body => exact here.2.2.1

theorem tidy_of_ordinary : Tidy (pieces.flatMap source) := by
  induction pieces with
  | nil => exact fun u inside => absurd (List.suffix_nil.1 inside) (by simp)
  | cons piece rest ih =>
      have later := ih fun other member => ordinary other (List.mem_cons_of_mem _ member)
      have here := ordinary piece List.mem_cons_self
      rw [List.flatMap_cons]
      cases piece with
      | literal t => exact tidy_append here.1 later
      | field body => exact tidy_fieldText here.1 later

end Segment

namespace Theme

theorem fitting_of_ordinary {pieces : List Segment} (ordinary : ∀ piece ∈ pieces, piece.Ordinary) :
    Fitting (pieces.flatMap Segment.source) := by
  refine ⟨closed_of_mem_stretches (Segment.tidy_of_ordinary ordinary), fun u member brace => ?_, fun body member => ?_⟩
  · rw [Segment.scattered_of_ordinary ordinary] at member
    obtain ⟨t, inside, within⟩ := Segment.exists_of_literal_mem_flatMap_scatter member
    exact (ordinary _ inside).2 (within brace)
  · rw [Segment.scattered_of_ordinary ordinary, Segment.field_mem_flatMap_scatter] at member
    exact (ordinary _ member).2.2.2

/-- A line of a theme, whatever was rendered before: the style of the level, the user's format with each field of
    the level between the style of its labels and the way back to the style of the line, and a reset. It fails only
    where the user's format fails by itself. -/
theorem render_closed_form [CharNames] {pieces : List Segment} (ordinary : ∀ piece ∈ pieces, piece.Ordinary) {p : Palette}
    {theme : Theme} (compiled : (compile true (pieces.flatMap Segment.source) p).outcome.1 = .ok theme)
    (full : theme.line.conditionals.length = 6 + 2 * labelCount (pieces.flatMap Segment.source)) (line : Line)
    (history : List Formatter.Call) :
    let format := pieces.flatMap Segment.source
    let run (fragment : Text) := (PureProgram.compileAndExecute [] true fragment Style.plain).outcome.1
    (∀ t, (Template.ofText t : Template Unit).render line () = (line.rendered t, ())) ∧
      line.rendered format = Sequel.joined ((stretches format).map fun stretch => line.rendered stretch.text) ∧
      ∃ first style way, run (p line.level).first = .ok first ∧
        (line.level = .error ∨ line.level = .fatal → 0 < labelCount format →
          run (p line.level).label = .ok style) ∧
        (¬ (line.level = .error ∨ line.level = .fatal) → style = []) ∧
        run "\x7bnofg\x7d\x7bnobg\x7d\x7bnobold\x7d\x7bnoreverse\x7d" = .ok way ∧
        (theme.line.render line (theme.line.after history)).1 =
          (Sequel.joined ((stretches format).map (Stretch.themed line style (way ++ first)))).map fun shown =>
            first ++ shown ++ Formatter.resetSequence true := by
  have fitting := fitting_of_ordinary ordinary
  obtain ⟨⟨t, l, runs, made⟩, -⟩ := (outcome_compile_iff_runsAll fitting.fits).1 compiled
  rw [made] at full ⊢
  have grown : l.conditionals.length = ({} : Ledger).conditionals.length +
      (lineClauses p (pieces.flatMap Segment.source)).countP Clause.isOn := by
    rw [countP_isOn_lineClauses]
    exact full.trans (Nat.zero_add _).symm
  refine ⟨fun t => Line.render_ofText line t (), ?_, fragmentOutput true (p line.level).first, labelStyle p line.level,
    plainWay, ?_, fun severe labels => ?_, fun mild => ?_, outcome_plainWay, render_of_runsAll fitting runs full line _⟩
  · rw [← rendered_flatMap_text fitting.closed, flatMap_text_stretches]
  · exact runs.outcome_of_mem wayBack_plain grown (on_first_mem_lineClauses p _ line.level)
  · have found := runs.outcome_of_mem wayBack_plain grown (on_label_mem_lineClauses p labels severe)
    rcases severe with error | fatal
    · rw [error] at found ⊢
      exact found
    · rw [fatal] at found ⊢
      exact found
  · cases level : line.level with
    | error => exact absurd (.inl level) mild
    | fatal => exact absurd (.inr level) mild
    | trace | debug | info | warning => rfl

section

attribute [local instance] CharNames.none

/-- A line of errors after a line of information, with two labels in it. -/
theorem render_closed_form_of_error :
    let pieces : List Segment := [.literal "a ", .field "level:[%s]", .literal " %s", .field "level", .field "time"]
    let format := pieces.flatMap Segment.source
    let line := Line.plain .error
    ∃ theme, (∀ piece ∈ pieces, piece.Ordinary) ∧ (compile true format .dark).outcome.1 = .ok theme ∧
      theme.line.conditionals.length = 6 + 2 * labelCount format ∧
      ∃ first style way, first = ("\x1b[38;5;202m" : Text) ∧ style = ("\x1b[1m\x1b[48;5;52m" : Text) ∧
        (theme.line.render line (theme.line.after [.whole (Line.plain .info)])).1 =
          (Sequel.joined ((stretches format).map (Stretch.themed line style (way ++ first)))).map fun shown =>
            first ++ shown ++ Formatter.resetSequence true := by
  intro pieces format line
  have ordinary : ∀ piece ∈ pieces, piece.Ordinary := by decide
  obtain ⟨theme, compiled, full⟩ := exists_of_any (compile true format .dark).outcome.1
    (fun theme => theme.line.conditionals.length == 6 + 2 * labelCount format) (by decide +kernel)
  obtain ⟨first, ran, isFirst⟩ := exists_of_any
    (PureProgram.compileAndExecute [] true (Palette.dark .error).first Style.plain).outcome.1
    (· == ("\x1b[38;5;202m" : Text)) (by decide +kernel)
  obtain ⟨style, ran', isStyle⟩ := exists_of_any
    (PureProgram.compileAndExecute [] true (Palette.dark .error).label Style.plain).outcome.1
    (· == ("\x1b[1m\x1b[48;5;52m" : Text)) (by decide +kernel)
  obtain ⟨-, -, first', style', way, here, label, -, -, shown⟩ :=
    render_closed_form ordinary compiled (eq_of_beq full) line [.whole (Line.plain .info)]
  have labels : 0 < labelCount format := by decide +kernel
  obtain rfl : first' = first := Except.ok.inj (here.symm.trans ran)
  obtain rfl : style' = style := Except.ok.inj ((label (.inl rfl) labels).symm.trans ran')
  exact ⟨theme, ordinary, compiled, eq_of_beq full, first', style', way, eq_of_beq isFirst, eq_of_beq isStyle, shown⟩

end

end Theme

end LogStyle
