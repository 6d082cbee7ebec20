import LogStyle.Proofs.Formatter.Mark
import LogStyle.Proofs.Theme.Decoration
import LogStyle.Proofs.Theme.Failure

/-! # Themes of palettes that have been checked

The check of a palette runs every fragment by itself. A theme writes its fragments as arguments of directives and runs
them from there. So a palette that passes the check makes a theme exactly when the fragments that the theme uses come
back from their arguments as they were: when none holds a line end, a null character or half of a
pair, and none starts a field.
-/

namespace LogStyle

theorem Effect.output_subset (colors : Bool) (s : Style) (effect : Effect) :
    effect.output colors s ⊆ effect.output true s := by
  cases colors with
  | true => exact List.Subset.refl _
  | false =>
      intro c member
      cases effect with
      | foreground | background | bold | reverse | reset => cases member
      | leave glyph color =>
          have inside : c ∈ glyph := by simpa [output, Style.sequence] using member
          simp [output, inside]
      | enter color glyph =>
          have inside : c ∈ glyph := by simpa [output, Style.sequence] using member
          simp [output, inside]

namespace Mark

open Node

variable {n : Node} {parsed : List Node} {s final : Style} {mark : Mark} {marks : List Mark}

theorem written_subset [CharNames] (leaves : Leaves n s mark final) (colors : Bool) (count : Nat) :
    mark.written colors count ⊆ mark.written true count := by
  cases leaves with
  | effect => exact Effect.output_subset colors s _
  | text | field | store | restore | unread | broken | entered => exact List.Subset.refl _

theorem writtenAll_subset [CharNames] (leaves : LeavesAll parsed s marks final) (colors : Bool) (count : Nat) :
    writtenAll colors count marks ⊆ writtenAll true count marks := by
  induction leaves generalizing count with
  | nil => exact List.Subset.refl _
  | @cons n rest s between final mark marks here later ih =>
      rw [writtenAll, writtenAll, mark.length_entered colors true]
      intro c member
      rcases List.mem_append.1 member with inside | behind
      · exact List.mem_append_left _ (written_subset here colors count inside)
      · exact List.mem_append_right _ (ih _ behind)

end Mark

theorem Formatter.exists_colored [CharNames] {colors : Bool} {format : Text} {f : Formatter}
    (compiled : (compile colors format).outcome.1 = .ok f) :
    ∃ f', (compile true format).outcome.1 = .ok f' ∧ f'.conditionals.length = f.conditionals.length ∧
      f.template.text ⊆ f'.template.text := by
  obtain ⟨parsed, marks, final, read, leaves, numbered, rfl⟩ := compile_iff_leavesAll.1 compiled
  exact ⟨_, compiled_of_leavesAll true read leaves numbered, Mark.length_enteredAll marks true colors,
    Mark.writtenAll_subset leaves colors 0⟩

namespace Palette

theorem firstProblem?_eq_none [CharNames] (fragments : List (Level × Part × Text)) (before : List Note) :
    (Noted.runFrom (firstProblem? fragments) before).1 = .ok none ↔
      ∀ entry ∈ fragments, ∃ t, (PureProgram.compileAndExecute [] true entry.2.2 Style.plain).outcome.1 = .ok t := by
  induction fragments generalizing before with
  | nil => exact iff_of_true rfl (by simp)
  | cons entry rest ih =>
      obtain ⟨level, part, fragment⟩ := entry
      have outcome := Walk.runFrom_compileAndExecute true fragment Style.plain before
      rw [← Walk.outcome_compileAndExecute] at outcome
      rw [runFrom_firstProblem?_cons, List.forall_mem_cons, ← outcome]
      rcases Noted.runFrom (PureProgram.compileAndExecute [] true fragment Style.plain) before with ⟨fault | t, notes⟩
      · by_cases kind : fault.kind.isStyle = true <;> simp [kind]
      · simp [ih notes]

theorem exists_outcome_of_validate [CharNames] {p : Palette} {message : Text}
    (valid : p.validate.outcome.1 = .ok (true, message))
    (level : Level) (part : Part) :
    ∃ t, (PureProgram.compileAndExecute [] true ((p level).fragment part) Style.plain).outcome.1 = .ok t := by
  have none : (Noted.runFrom (firstProblem? p.fragments) []).1 = .ok none := by
    change (Noted.runFrom (validate p) []).1 = _ at valid
    unfold validate at valid
    rw [Noted.runFrom_bind] at valid
    rcases found : Noted.runFrom (firstProblem? p.fragments) [] with ⟨fault | _ | problem, notes⟩
    · simp [found] at valid
    · rfl
    · simp [found, Noted.runFrom_pure] at valid
  apply (firstProblem?_eq_none p.fragments []).1 none (level, part, (p level).fragment part)
  exact List.mem_flatMap.2 ⟨level, level.mem_all, List.mem_map.2 ⟨part, part.mem_all, rfl⟩⟩

end Palette

namespace Theme

namespace Clause

variable {clauses : List Clause} {l l' : Ledger} {t way : Text}

theorem RunsAll.fits_of_mem [CharNames] (runs : RunsAll true clauses l t l') {level : Level} {fragment : Text}
    (member : on level fragment ∈ clauses) : Text.hollow fragment = true ∧ Literal.Writable fragment := by
  induction runs with
  | nil => cases member
  | cons here _ ih =>
      rcases List.mem_cons.1 member with rfl | inside
      · cases here with
        | on isHollow writable _ => exact ⟨isHollow, writable⟩
      · exact ih inside

theorem RunsAll.hash_not_mem [CharNames] (back : Walk.wayBack true Style.plain = some way)
    (runs : RunsAll true clauses l t l')
    (grown : l'.conditionals.length = l.conditionals.length + clauses.countP isOn)
    (plain : ∀ u, .plain u ∈ clauses → .char '#' ∉ u) : .char '#' ∉ t := by
  induction runs with
  | nil => exact List.not_mem_nil
  | @cons c rest l between l' t u here later ih =>
      obtain ⟨first, second⟩ := grown_cons here later grown
      refine List.not_mem_append ?_ (ih second fun u member => plain u (List.mem_cons_of_mem _ member))
      cases c with
      | plain v =>
          cases here
          exact plain t List.mem_cons_self
      | on level fragment =>
          obtain ⟨-, -, rfl, -⟩ := here.entered back first
          have number : .char '#' ∉ Text.ofNat l.conditionals.length := Text.not_mem_ofNat (by decide) _
          have name : .char '#' ∉ Ledger.conditionalName := by decide
          simp [Ledger.placeholder, Segment.fieldText, number, name]
      | store | restore | reset =>
          cases here
          decide

theorem exists_whole_run [CharNames] (ready : ∀ c ∈ clauses, c.Ready) (few : clauses.countP isOn ≤ 8)
    (plain : ∀ u, .plain u ∈ clauses → .char '#' ∉ u) :
    ∃ t l, RunsAll true clauses {} t l ∧ l.conditionals.length = clauses.countP isOn ∧ .char '#' ∉ t := by
  have short (n : Nat) (less : n < ({} : Ledger).conditionals.length + clauses.countP isOn) :
      Numeral.isLong n = false := by
    have small : n ≤ 8 := by
      rw [show ({} : Ledger).conditionals.length = 0 from rfl] at less
      omega
    exact Numeral.isLong_of_le small (by decide +kernel)
  obtain ⟨t, l, runs, grown⟩ := exists_runsAll ready {} short
  exact ⟨t, l, runs, grown.trans (Nat.zero_add _), runs.hash_not_mem wayBack_plain grown plain⟩

end Clause

variable {p : Palette}

theorem fitting_level : Fitting "$\x7blevel\x7d %s" := by
  have ordinary : ∀ piece ∈ ([.field "level", .literal " %s"] : List Segment), piece.Ordinary := by decide
  exact fitting_of_ordinary ordinary

section

variable [CharNames]

theorem fits_of_compile {theme : Theme} (compiled : (compile true "$\x7blevel\x7d %s" p).outcome.1 = .ok theme)
    (level : Level) (part : Part) (severe : part = .label → level = .error ∨ level = .fatal) :
    Text.hollow ((p level).fragment part) = true ∧ Literal.Writable ((p level).fragment part) := by
  obtain ⟨⟨t, l, line, -⟩, t', l', trailer, -⟩ := (outcome_compile_iff_runsAll fitting_level.fits).1 compiled
  cases part with
  | first => exact line.fits_of_mem (on_first_mem_lineClauses p _ level)
  | trail => exact trailer.fits_of_mem (List.mem_map.2 ⟨level, level.mem_all, rfl⟩)
  | label => exact line.fits_of_mem (on_label_mem_lineClauses p (by decide +kernel) (severe rfl))

/-- A palette whose fragments run makes a theme if the fragments that the theme uses come back from their
    arguments. -/
theorem exists_colored_of_fits (runs : ∀ level part, ∃ t,
      (PureProgram.compileAndExecute [] true ((p level).fragment part) Style.plain).outcome.1 = .ok t)
    (fits : ∀ level part, (part = .label → level = .error ∨ level = .fatal) →
      Text.hollow ((p level).fragment part) = true ∧ Literal.Writable ((p level).fragment part)) :
    ∃ theme, (compile true "$\x7blevel\x7d %s" p).outcome.1 = .ok theme ∧
      theme.line.conditionals.length = 8 ∧ theme.trailer.conditionals.length = 6 ∧
      .char '#' ∉ theme.line.template.text ∧ .char '#' ∉ theme.trailer.template.text := by
  have fitting := fitting_level
  have hosted : ∀ segment ∈ Segment.split "$\x7blevel\x7d %s", segment.Hosted := by decide +kernel
  have ready (level : Level) (part : Part) (severe : part = .label → level = .error ∨ level = .fatal) :
      (Clause.on level ((p level).fragment part)).Ready :=
    ⟨(fits level part severe).1, (fits level part severe).2, runs level part⟩
  have fields : ∀ stretch ∈ stretches "$\x7blevel\x7d %s", (Clause.plain stretch.text).Ready := by
    intro stretch member body inside
    have here := hosted _ (Segment.field_mem_flatMap_scatter.1 (fitting.mem_scattered member inside))
    exact ⟨here.1, here.2.1⟩
  have lineCount : (lineClauses p "$\x7blevel\x7d %s").countP Clause.isOn = 8 := by
    rw [countP_isOn_lineClauses]
    decide +kernel
  have trailCount : (preludeClauses p .trail).countP Clause.isOn = 6 := rfl
  have lineReady := ready_of_mem_lineClauses ready fields
  obtain ⟨t, l, line, eight, noLine⟩ := Clause.exists_whole_run lineReady lineCount.le <| by
    intro u member
    obtain ⟨stretch, inside, rfl⟩ := exists_of_plain_mem_lineClauses member
    have free : ∀ stretch ∈ stretches "$\x7blevel\x7d %s", .char '#' ∉ stretch.text := by decide +kernel
    exact free stretch inside
  have trailReady := ready_of_mem_preludeClauses fun level => ready level .trail (by simp)
  obtain ⟨t', l', trailer, six, noTrail⟩ := Clause.exists_whole_run trailReady (by rw [trailCount]; decide) <| by
    intro u member
    simp [preludeClauses] at member
  refine ⟨⟨.ofTemplate t l.conditionals, .ofTemplate t' l'.conditionals⟩, ?_, eight.trans lineCount,
    six.trans trailCount, noLine, noTrail⟩
  exact (outcome_compile_iff_runsAll fitting.fits).2 ⟨⟨t, l, line, rfl⟩, t', l', trailer, rfl⟩

theorem exists_colored {colors : Bool} {format : Text} {theme : Theme}
    (compiled : (compile colors format p).outcome.1 = .ok theme) :
    ∃ theme', (compile true format p).outcome.1 = .ok theme' ∧
      theme'.line.conditionals.length = theme.line.conditionals.length ∧
      theme'.trailer.conditionals.length = theme.trailer.conditionals.length ∧
      theme.line.template.text ⊆ theme'.line.template.text ∧
      theme.trailer.template.text ⊆ theme'.trailer.template.text := by
  obtain ⟨line, trailer⟩ := outcome_compile_eq_ok.1 compiled
  obtain ⟨line', line, lines, lineText⟩ := Formatter.exists_colored line
  obtain ⟨trailer', trailer, trails, trailText⟩ := Formatter.exists_colored trailer
  exact ⟨⟨line', trailer'⟩, outcome_compile_eq_ok.2 ⟨line, trailer⟩, lines, trails, lineText, trailText⟩

/-- A palette that passes the check makes a theme of a plain format, with colours or without, exactly when the
    fragments that the theme uses come back from their arguments: no line end, null character or half of a pair stands
    in them, and no field with a body starts in them. Then every style is entered, eight for the line and six for what
    follows it, and no diagnostic stands in a template. -/
theorem compile_iff_of_validate {message : Text} (valid : p.validate.outcome.1 = .ok (true, message)) (colors : Bool) :
    ((∃ theme, (compile colors "$\x7blevel\x7d %s" p).outcome.1 = .ok theme) ↔
      ∀ level part, (part = .label → level = .error ∨ level = .fatal) →
        Text.hollow ((p level).fragment part) = true ∧ Literal.Writable ((p level).fragment part)) ∧
      ∀ theme, (compile colors "$\x7blevel\x7d %s" p).outcome.1 = .ok theme →
        theme.line.conditionals.length = 8 ∧ theme.trailer.conditionals.length = 6 ∧
        ∀ formatter ∈ [theme.line, theme.trailer], ∀ front ∈ (["#\x7bCOMPILE ERROR", "#\x7bEXECUTE ERROR"] : List Text),
          ¬ front <:+: formatter.template.text := by
  have runs := Palette.exists_outcome_of_validate valid
  constructor
  · constructor
    · rintro ⟨theme, compiled⟩
      obtain ⟨colored, compiled', -⟩ := exists_colored compiled
      exact fits_of_compile compiled'
    · intro fits
      obtain ⟨theme, compiled, -⟩ := exists_colored_of_fits runs fits
      obtain ⟨line, trailer⟩ := outcome_compile_eq_ok.1 compiled
      obtain ⟨line', line⟩ := Formatter.exists_compiled colors ⟨_, line⟩
      obtain ⟨trailer', trailer⟩ := Formatter.exists_compiled colors ⟨_, trailer⟩
      exact ⟨⟨line', trailer'⟩, outcome_compile_eq_ok.2 ⟨line, trailer⟩⟩
  · intro theme compiled
    obtain ⟨colored, compiled', lines, trails, lineText, trailText⟩ := exists_colored compiled
    obtain ⟨theme', again, eight, six, noLine, noTrail⟩ := exists_colored_of_fits runs (fits_of_compile compiled')
    obtain rfl := Except.ok.inj (compiled'.symm.trans again)
    refine ⟨lines.symm.trans eight, trails.symm.trans six, ?_⟩
    intro formatter member front diagnostic inside
    have first : ∀ front ∈ (["#\x7bCOMPILE ERROR", "#\x7bEXECUTE ERROR"] : List Text), .char '#' ∈ front := by decide
    have hash : .char '#' ∈ formatter.template.text := inside.subset (first front diagnostic)
    rcases List.mem_cons.1 member with rfl | trailer
    · exact noLine (lineText hash)
    · obtain rfl := List.mem_singleton.1 trailer
      exact noTrail (trailText hash)

end

section

attribute [local instance] CharNames.none

/-- The standard palette passes the check and makes a theme without colours too. -/
theorem compile_of_standard :
    ∃ theme, Palette.standard.validate.outcome.1 = .ok (true, "Palette is valid") ∧
      (compile false "$\x7blevel\x7d %s" Palette.standard).outcome.1 = .ok theme ∧
      theme.line.conditionals.length = 8 ∧ theme.trailer.conditionals.length = 6 := by
  have valid : Palette.standard.validate.outcome.1 = .ok (true, "Palette is valid") :=
    eq_ok_of_toOption (by decide +kernel)
  have fits : ∀ level ∈ Level.all, ∀ part ∈ Part.all, Text.hollow ((Palette.standard level).fragment part) = true ∧
      Literal.Writable ((Palette.standard level).fragment part) := by decide
  obtain ⟨compiles, known⟩ := compile_iff_of_validate valid false
  obtain ⟨theme, compiled⟩ := compiles.2 fun level part _ => fits level level.mem_all part part.mem_all
  obtain ⟨eight, six, -⟩ := known theme compiled
  exact ⟨theme, valid, compiled, eight, six⟩

end

section

attribute [local instance] CharNames.none

/-- A line end between two words of a fragment is not read in an argument, and a dollar sign in front of a directive
    makes a field of it; the check accepts both. -/
theorem not_compile_past_check :
    let fails (fragment : Text) : Prop :=
      let p := Palette.empty.set .info { first := fragment }
      p.validate.outcome.1 = .ok (true, "Palette is valid") ∧
        (∃ fault, (compile true "$\x7blevel\x7d %s" p).outcome.1 = .error fault) ∧
        ∃ fault, (compile false "$\x7blevel\x7d %s" p).outcome.1 = .error fault
    fails "\x7bfg\n5\x7d" ∧ fails "$\x7bfg 5\x7d" := by
  refine ⟨⟨?_, ?_, ?_⟩, ?_, ?_, ?_⟩
  · exact eq_ok_of_toOption (by decide +kernel)
  · exact exists_of_isNone _ (by decide +kernel)
  · exact exists_of_isNone _ (by decide +kernel)
  · exact eq_ok_of_toOption (by decide +kernel)
  · exact exists_of_isNone _ (by decide +kernel)
  · exact exists_of_isNone _ (by decide +kernel)

end

end Theme

end LogStyle
