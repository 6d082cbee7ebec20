import LogStyle.Proofs.Program.Style
import LogStyle.Proofs.Theme.ClosedForm

/-! # What a theme writes

The output of a theme passes on whatever is written to it, one text for each write. In a record the style of the
lines after the first is put behind the first line end, unless nothing follows there. The formatter of that style
is used for every record and remembers the last style it has shown. As each of its six styles is for one level, what it
shows depends on the level alone.
-/

namespace LogStyle

namespace Theme

/-- A write to the output of a theme. -/
inductive Write where
  /-- A text that is passed on as it is. -/
  | bare (data : Text)
  | record (data : Text) (level : Level) (clock : Clock)
  deriving Repr

/-- What has become of an output: the texts that were passed on, and what the formatter of the lines after the first
    remembers. -/
structure Output where
  texts : List Text := []
  trailer : Restore := {}
  deriving Repr

/-- Write to the output of a theme. A record whose style cannot be rendered is not passed on. -/
def put (theme : Theme) (out : Output) : Write → Output
  | .bare data => { out with texts := out.texts ++ [data] }
  | .record data level clock =>
    match theme.written data level clock out.trailer with
    | (.error _, trailer) => { out with trailer }
    | (.ok text, trailer) => ⟨out.texts ++ [text], trailer⟩

def putAll (theme : Theme) (writes : List Write) : Output :=
  writes.foldl theme.put {}

/-- A record with a style behind its first embedded line end. -/
def spliced (style data : Text) : Text :=
  match embedded? data with
  | none => data
  | some (before, after) => before ++ style ++ after

section
variable {style before after data : Text}

theorem spliced_of_not_mem (absent : .char '\n' ∉ data) : spliced style data = data := by
  rw [spliced, embedded?, Text.cut?_eq_none.2 absent]

theorem spliced_of_last (absent : .char '\n' ∉ before) : 
    spliced style (before ++ [.char '\n']) = before ++ [.char '\n'] := by
  rw [spliced, embedded?, Text.cut?_of_not_mem absent]
  rfl

theorem spliced_of_embedded (absent : .char '\n' ∉ before) (more : after ≠ []) :
    spliced style (before ++ .char '\n' :: after) = before ++ .char '\n' :: (style ++ after) := by
  rw [spliced, embedded?, Text.cut?_of_not_mem absent]
  simp only [if_neg more, List.append_assoc, List.singleton_append]
  rfl

end

theorem written_of_rendered {theme : Theme} {style : Text} {level : Level} {clock : Clock} {r : Restore}
    (shown : (theme.trailer.render ⟨level, [], clock⟩ r).1 = .ok style) (data : Text) :
    (theme.written data level clock r).1 = .ok (spliced style data) := by
  rw [Theme.written, spliced]
  cases embedded? data with
  | none => rfl
  | some parts =>
      obtain ⟨before, after⟩ := parts
      rcases rendered : theme.trailer.render ⟨level, [], clock⟩ r with ⟨fault | text, r'⟩
      · rw [rendered] at shown
        cases shown
      · rw [rendered] at shown
        cases shown
        rfl

/-- The text that is passed on for a write, when the lines after the first have a style for each level. -/
def Write.text (style : Level → Text) : Write → Text
  | bare data => data
  | record data level _ => spliced (style level) data

/-- What a theme puts in front of the lines after the first depends on the level alone. -/
def Trails (theme : Theme) (style : Level → Text) : Prop :=
  ∀ line r, (theme.trailer.render line r).1 = .ok (style line.level)

namespace Trails

variable {theme : Theme} {style : Level → Text} (trails : theme.Trails style)
include trails

theorem written (data : Text) (level : Level) (clock : Clock) (r : Restore) :
    (theme.written data level clock r).1 = .ok (spliced (style level) data) :=
  written_of_rendered (trails ⟨level, [], clock⟩ r) data

theorem texts_put (out : Output) (write : Write) :
    (theme.put out write).texts = out.texts ++ [write.text style] := by
  cases write with
  | bare data => rfl
  | record data level clock =>
      have passed := trails.written data level clock out.trailer
      rw [put, Write.text]
      rcases ran : theme.written data level clock out.trailer with ⟨fault | text, trailer⟩
      · rw [ran] at passed
        cases passed
      · rw [ran] at passed
        cases passed
        rfl

theorem texts_putAll (writes : List Write) : (theme.putAll writes).texts = writes.map (Write.text style) := by
  have run (out : Output) : (writes.foldl theme.put out).texts = out.texts ++ writes.map (Write.text style) := by
    induction writes generalizing out with
    | nil => simp
    | cons write rest ih =>
        rw [List.foldl_cons, ih, trails.texts_put, List.map_cons, List.append_assoc, List.singleton_append]
  exact run {}

end Trails

section
variable [CharNames] {colors : Bool} {format : Text} {p : Palette} {theme : Theme}
  (compiled : (compile colors format p).outcome.1 = .ok theme) (full : theme.trailer.conditionals.length = 6)
include compiled full

/-- With a style for every level behind the first line, each of these is what its fragment leads to by itself, and the
    one that is shown is the one of the level. -/
theorem trails_of_full :
    (∀ level, (PureProgram.compileAndExecute [] colors (p level).trail Style.plain).outcome.1 =
        .ok (fragmentOutput colors (p level).trail)) ∧
      theme.Trails fun level => fragmentOutput colors (p level).trail := by
  have trailer := (outcome_compile_eq_ok.1 compiled).2
  rw [conditionals_eq, compile_clauses_iff fits_of_mem_preludeClauses] at trailer
  obtain ⟨t, l, runs, made⟩ := trailer
  have back := Walk.wayBack_eq colors Style.inRange_plain
  have grown : l.conditionals.length = ({} : Ledger).conditionals.length +
      (preludeClauses p .trail).countP Clause.isOn := by
    rw [made] at full
    exact full.trans (by rfl)
  have hosted : ∀ c ∈ preludeClauses p .trail, c.Hosted := by
    intro c member
    obtain ⟨level, -, rfl⟩ := List.mem_map.1 member
    trivial
  refine ⟨fun level => ?_, fun line r => ?_⟩
  · have member : Clause.on level (p level).trail ∈ preludeClauses p .trail :=
      List.mem_map.2 ⟨level, level.mem_all, rfl⟩
    exact runs.outcome_of_mem back grown member
  · rw [made, runs.render back grown fits_of_mem_preludeClauses hosted, shownAll_preludeClauses]
    rfl

/-- A record is passed on in one write, whatever was written before: as it is if no line end is in it or the first
    one is its last character, else with the style of its level behind the first line end. -/
theorem put_record (level : Level) :
    ∃ trail, (PureProgram.compileAndExecute [] colors (p level).trail Style.plain).outcome.1 = .ok trail ∧
      ∀ (earlier : List Write) (data : Text) (clock : Clock),
        let passed := (theme.putAll earlier).texts
        let texts := (theme.putAll (earlier ++ [.record data level clock])).texts
        (.char '\n' ∉ data → texts = passed ++ [data]) ∧
          (∀ before, .char '\n' ∉ before → data = before ++ [.char '\n'] → texts = passed ++ [data]) ∧
          ∀ before after, .char '\n' ∉ before → after ≠ [] → data = before ++ .char '\n' :: after →
            texts = passed ++ [before ++ .char '\n' :: (trail ++ after)] := by
  obtain ⟨ran, trails⟩ := trails_of_full compiled full
  refine ⟨_, ran level, fun earlier data clock => ?_⟩
  intro passed texts
  have added : texts = passed ++ [spliced (fragmentOutput colors (p level).trail) data] := by
    simp only [texts, passed, trails.texts_putAll, List.map_append, List.map_singleton, Write.text]
  refine ⟨fun absent => ?_, fun before absent same => ?_, fun before after absent more same => ?_⟩
  · rw [added, spliced_of_not_mem absent]
  · rw [added, same, spliced_of_last absent]
  · rw [added, same, spliced_of_embedded absent more]

end

section

attribute [local instance] CharNames.none

/-- A record of errors, after one of information and a text of its own. -/
theorem put_record_of_two_lines :
    let clock := (Line.plain .error).clock
    let earlier : List Write := [.record "x\ny\n" .info clock, .bare "z\n"]
    ∃ theme trail, (compile true "%s" .standard).outcome.1 = .ok theme ∧ theme.trailer.conditionals.length = 6 ∧
      trail = ("\x1b[0m\x1b[38;5;9m" : Text) ∧
      (theme.putAll (earlier ++ [.record "a\nb\n" .error clock])).texts =
        (theme.putAll earlier).texts ++ ["a\n" ++ trail ++ "b\n"] := by
  intro clock earlier
  obtain ⟨theme, compiled, full⟩ := exists_of_any (compile true "%s" .standard).outcome.1
    (fun theme => theme.trailer.conditionals.length == 6) (by decide +kernel)
  obtain ⟨trail, ran, same⟩ := exists_of_any
    (PureProgram.compileAndExecute [] true (Palette.standard .error).trail Style.plain).outcome.1
    (· == ("\x1b[0m\x1b[38;5;9m" : Text)) (by decide +kernel)
  obtain ⟨trail', ran', put⟩ := put_record compiled (eq_of_beq full) .error
  obtain rfl : trail' = trail := Except.ok.inj (ran'.symm.trans ran)
  have texts := (put earlier "a\nb\n" clock).2.2 "a" "b\n" (by decide) (by decide) (by decide)
  exact ⟨theme, trail', compiled, eq_of_beq full, eq_of_beq same, texts⟩

end

end Theme

end LogStyle
