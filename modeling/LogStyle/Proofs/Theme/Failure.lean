import LogStyle.Palette.Check
import LogStyle.Proofs.Conditional.Failure
import LogStyle.Proofs.Theme.Compile
import LogStyle.Proofs.Theme.Stretch

/-! # How themes and palettes fail

A theme fails where one of its formats does, and the check of a palette tells what is wrong with a fragment. Both
pass on what is not a failure of a program, which is a number with too many digits.
-/

namespace LogStyle

namespace Theme

variable (colors : Bool) (format : Text) (p : Palette)

/-- A number in one of the formats of a theme is too long, and all is well in front of it. -/
def LongIn [CharNames] : Prop :=
  Formatter.LongIn colors (lineFormat format p ++ Formatter.reset) ∨
    (∃ line, (Formatter.compileWithReset colors (lineFormat format p)).outcome.1 = .ok line) ∧
      Formatter.LongIn colors (conditionals p .trail)

theorem kind_partFault (name : Text) {fault : Fault} (kind : fault.kind.isStyle = true ∨ fault.kind = .value) :
    (fault.kind ∈ [.compile, .execute] ∧ (partFault name fault).kind = .theme) ∨
      (fault.kind ∉ [.compile, .execute] ∧ (partFault name fault).kind = .value) := by
  unfold partFault
  rcases kind with style | value
  · rw [if_pos style]
    exact .inl ⟨FaultKind.isStyle_iff.1 style, rfl⟩
  · have other : ¬ fault.kind.isStyle = true := by simp [value, FaultKind.isStyle]
    rw [if_neg other]
    exact .inr ⟨fun listed => other (FaultKind.isStyle_iff.2 listed), value⟩

section

variable [CharNames]

theorem kind_of_compile {fault : Fault} (failed : (compile colors format p).outcome.1 = .error fault) :
    fault.kind = .theme ∨ fault.kind = .value := by
  have part (name : Text) {inner : Fault} (kind : inner.kind.isStyle = true ∨ inner.kind = .value)
      (same : partFault name inner = fault) : fault.kind = .theme ∨ fault.kind = .value := by
    rw [← same]
    rcases kind_partFault name kind with ⟨-, theme⟩ | ⟨-, value⟩
    · exact .inl theme
    · exact .inr value
  rw [outcome_compile] at failed
  cases first : (Formatter.compileWithReset colors (lineFormat format p)).outcome.1 with
  | error inner =>
      simp only [first, Except.error.injEq] at failed
      exact part "line" (Formatter.kind_of_compile first) failed
  | ok line =>
      cases second : (Formatter.compile colors (conditionals p .trail)).outcome.1 with
      | error inner =>
          simp only [first, second, Except.error.injEq] at failed
          exact part "trailing" (Formatter.kind_of_compile second) failed
      | ok trailer => simp [first, second] at failed

theorem escapes_compile : Escapes (compile colors format p).outcome.1 [.theme] ↔ LongIn colors format p := by
  have part (name : Text) {format : Text} {fault : Fault}
      (failed : (Formatter.compile colors format).outcome.1 = .error fault) :
      (partFault name fault).kind ∉ [.theme] ↔ Formatter.LongIn colors format := by
    rw [← Formatter.escapes_compile, failed]
    rcases kind_partFault name (Formatter.kind_of_compile failed) with ⟨listed, kind⟩ | ⟨other, kind⟩
    · simp only [kind, List.mem_singleton, not_true, false_iff]
      rintro ⟨_, same, other⟩
      cases same
      exact other listed
    · simp only [kind, List.mem_singleton, reduceCtorEq, not_false_iff, true_iff]
      exact ⟨fault, rfl, other⟩
  have none {format : Text} {f : Formatter} (compiled : (Formatter.compile colors format).outcome.1 = .ok f) :
      ¬ Formatter.LongIn colors format := by
    rw [← Formatter.escapes_compile, compiled]
    rintro ⟨_, failed, -⟩
    cases failed
  rw [outcome_compile, LongIn]
  cases first : (Formatter.compileWithReset colors (lineFormat format p)).outcome.1 with
  | error fault => simp [Escapes, ← part "line" first]
  | ok line =>
      cases second : (Formatter.compile colors (conditionals p .trail)).outcome.1 with
      | error fault => simp [Escapes, none first, ← part "trailing" second]
      | ok trailer => simp [Escapes, none first, none second]

theorem outcome_compileOrExit :
    (compileOrExit colors format p).outcome.1 =
      (compile colors format p).outcome.1.mapError fun fault =>
        if fault.kind = .theme then ⟨.exit, "1"⟩ else fault := by
  change (Noted.runFrom (compileOrExit colors format p) []).1 =
    (Noted.runFrom (compile colors format p) []).1.mapError _
  unfold compileOrExit
  rw [Noted.runFrom_tryCatch]
  rcases Noted.runFrom (compile colors format p) [] with ⟨fault | theme, notes⟩
  · by_cases kind : fault.kind = .theme
    · simp only [if_pos kind, Outcome.mapError_error]
      rfl
    · simp only [if_neg kind, Outcome.mapError_error]
      rfl
  · rfl

theorem escapes_compileOrExit :
    (∃ fault, (compileOrExit colors format p).outcome.1 = .error fault ∧ fault ≠ ⟨.exit, "1"⟩) ↔
      LongIn colors format p := by
  rw [← escapes_compile, outcome_compileOrExit]
  cases failed : (compile colors format p).outcome.1 with
  | ok theme => simp [Escapes, Outcome.mapError_ok]
  | error fault =>
      rcases kind_of_compile colors format p failed with kind | kind
      · simp [Escapes, Outcome.mapError_error, kind]
      · have other : fault ≠ ⟨.exit, "1"⟩ := by
          rintro rfl
          cases kind
        have kept : (if fault.kind = .theme then ⟨.exit, "1"⟩ else fault) = fault := if_neg (by simp [kind])
        exact iff_of_true ⟨fault, congrArg Except.error kept, other⟩ ⟨fault, rfl, by simp [kind]⟩

end

end Theme

namespace Palette

section

variable [CharNames]

/-- A number in a fragment is too long, and all is well in front of it, the fragments before included. -/
def LongIn (fragments : List (Level × Part × Text)) : Prop :=
  ∃ front level part fragment back, fragments = front ++ (level, part, fragment) :: back ∧
    (∀ entry ∈ front, ∃ t, (PureProgram.compileAndExecute [] true entry.2.2 Style.plain).outcome.1 = .ok t) ∧
    Node.LongIn (Registry.builtins (σ := Unit)).knows fragment

theorem longIn_cons (level : Level) (part : Part) (fragment : Text) (rest : List (Level × Part × Text)) :
    LongIn ((level, part, fragment) :: rest) ↔
      Node.LongIn (Registry.builtins (σ := Unit)).knows fragment ∨
        (∃ t, (PureProgram.compileAndExecute [] true fragment Style.plain).outcome.1 = .ok t) ∧ LongIn rest := by
  constructor
  · rintro ⟨front, level', part', long, back, split, runs, isLong⟩
    cases front with
    | nil =>
        cases split
        exact .inl isLong
    | cons first front =>
        cases split
        exact .inr ⟨runs _ List.mem_cons_self, front, level', part', long, back, rfl,
          fun entry member => runs entry (List.mem_cons_of_mem _ member), isLong⟩
  · rintro (isLong | ⟨here, front, level', part', long, back, rfl, runs, isLong⟩)
    · exact ⟨[], level, part, fragment, rest, rfl, by simp, isLong⟩
    · refine ⟨(level, part, fragment) :: front, level', part', long, back, rfl, fun entry member => ?_, isLong⟩
      rcases List.mem_cons.1 member with rfl | later
      · exact here
      · exact runs entry later

theorem runFrom_firstProblem?_cons (level : Level) (part : Part) (fragment : Text)
    (rest : List (Level × Part × Text)) (before : List Note) :
    Noted.runFrom (firstProblem? ((level, part, fragment) :: rest)) before =
      match Noted.runFrom (PureProgram.compileAndExecute [] true fragment Style.plain) before with
      | (.ok _, notes) => Noted.runFrom (firstProblem? rest) notes
      | (.error fault, notes) =>
        (if fault.kind.isStyle then .ok (some (level.lower ++ "." ++ part.name ++ ": " ++ fault.message))
          else .error fault, notes) := by
  rw [firstProblem?]
  have mapped (computation : Noted Text) :
      Noted.runFrom (computation.map fun _ => (none : Option Text)) before =
        ((Noted.runFrom computation before).1.map fun _ => none, (Noted.runFrom computation before).2) := by
    change Noted.runFrom (computation >>= fun _ => pure none) before = _
    rw [Noted.runFrom_bind]
    rcases Noted.runFrom computation before with ⟨fault | t, notes⟩ <;> rfl
  rw [Noted.runFrom_bind, Noted.runFrom_tryCatch, mapped]
  rcases Noted.runFrom (PureProgram.compileAndExecute [] true fragment Style.plain) before with ⟨fault | t, notes⟩
  · by_cases style : fault.kind.isStyle = true
    · simp only [style, Except.map, if_true]
      rfl
    · simp only [style, Except.map]
      rfl
  · rfl

theorem exists_firstProblem?_eq_error (fragments : List (Level × Part × Text)) (before : List Note) :
    (∃ fault, (Noted.runFrom (firstProblem? fragments) before).1 = .error fault) ↔ LongIn fragments := by
  induction fragments generalizing before with
  | nil =>
      refine iff_of_false ?_ ?_
      · rintro ⟨fault, failed⟩
        cases failed
      · rintro ⟨front, level, part, fragment, back, split, -⟩
        simp at split
  | cons entry rest ih =>
      obtain ⟨level, part, fragment⟩ := entry
      have outcome := Walk.runFrom_compileAndExecute true fragment Style.plain before
      rw [← Walk.outcome_compileAndExecute] at outcome
      have long := PureProgram.escapes_compileAndExecute true fragment Style.plain
      rw [← outcome] at long
      rw [runFrom_firstProblem?_cons, longIn_cons, ← outcome]
      rw [← long]
      rcases Noted.runFrom (PureProgram.compileAndExecute [] true fragment Style.plain) before with
        ⟨⟨kind, message⟩ | t, notes⟩
      · cases kind <;> simp [Escapes, FaultKind.isStyle]
      · simp [Escapes, ih notes]

theorem escapes_validate (p : Palette) : Escapes (validate p).outcome.1 [] ↔ LongIn p.fragments := by
  rw [← exists_firstProblem?_eq_error p.fragments []]
  change (∃ fault, (Noted.runFrom (validate p) []).1 = .error fault ∧ fault.kind ∉ []) ↔ _
  unfold validate
  rw [Noted.runFrom_bind]
  rcases Noted.runFrom (firstProblem? p.fragments) [] with ⟨fault | _ | problem, notes⟩
  · simp
  · simp [Noted.runFrom_pure]
  · simp [Noted.runFrom_pure]

end

end Palette

/-- Failures stay among the kinds that callers are told to expect: unless a number has too many digits, in a
    program, a format, a fragment, a theme or a palette, with all well in front of it. Wherever a directive for a
    conditional style stands, a fragment that cannot be read or run leaves a diagnostic. -/
theorem escapes_iff_longIn [CharNames] {σ : Type} (extensions : List (Text × Extension σ)) (colors : Bool)
    (source format : Text) (front : List Node) (way : Ledger.Way) (fragment : Text) (position : Nat) (p : Palette) :
    let at_ := (Formatter.runNodes colors front).2
    let outcome := (PureProgram.compileAndExecute [] colors fragment at_.1).outcome.1
    let left := Ledger.left at_.2.conditionals.length outcome
    (Escapes (Program.compile extensions colors source).outcome.1 [.compile] ↔
      Node.LongIn (Registry.withExtensions extensions).knows source) ∧
    (Escapes (Formatter.compile colors format).outcome.1 [.compile, .execute] ↔ Formatter.LongIn colors format) ∧
    (Escapes (Formatter.compileWithReset colors format).outcome.1 [.compile, .execute] ↔
      Formatter.LongIn colors (format ++ Formatter.reset)) ∧
    ((Formatter.program colors front).runCall way.action.name (way.args fragment) position at_).1 =
      left.mapError (.ofExtension way.action.name position) ∧
    ((∃ fault, left = .error fault) ↔
      Node.LongIn (Registry.builtins (σ := Unit)).knows fragment ∨
        Numeral.isLong at_.2.conditionals.length = true ∧ ∃ t, outcome = .ok t) ∧
    (Escapes (Theme.compile colors format p).outcome.1 [.theme] ↔ Theme.LongIn colors format p) ∧
    ((∃ fault, (Theme.compileOrExit colors format p).outcome.1 = .error fault ∧ fault ≠ ⟨.exit, "1"⟩) ↔
      Theme.LongIn colors format p) ∧
    (Escapes p.validate.outcome.1 [] ↔ Palette.LongIn p.fragments) := by
  intro at_ outcome left
  refine ⟨?_, ?_, ?_, ?_, ?_, ?_, ?_, ?_⟩
  · exact Program.escapes_compile extensions colors source
  · exact Formatter.escapes_compile colors format
  · exact Formatter.escapes_compile colors (format ++ Formatter.reset)
  · exact Formatter.runCall_way colors front way fragment position
  · exact Ledger.exists_left_eq_error _ colors fragment _
  · exact Theme.escapes_compile colors format p
  · exact Theme.escapes_compileOrExit colors format p
  · exact Palette.escapes_validate p

theorem Theme.wrapLabels_of_not_mem (before after : Text) {t : Text} (noDollar : .char '$' ∉ t) :
    wrapLabels before after t = t := by
  induction t with
  | nil => simp [wrapLabels]
  | cons c rest ih =>
      rw [wrapLabels]
      split
      · next found =>
          obtain ⟨⟨front, value, back, rfl, -⟩, whole, -⟩ := label?_eq_some_iff.1 found
          refine absurd ?_ noDollar
          rw [← whole]
          simp [Segment.fieldText]
      · rw [ih fun member => noDollar (List.mem_cons_of_mem _ member)]

section

attribute [local instance] CharNames.none

theorem escapes_of_digits {digits : Text} (basic : ∀ c ∈ digits, isBasicDigit c = true)
    (many : Numeral.digitLimit < digits.length) :
    let source : Text := "\x7bfg " ++ digits ++ "\x7d"
    Escapes (Program.compile (σ := Unit) [] true source).outcome.1 [.compile] ∧
      Escapes (Formatter.compile true source).outcome.1 [.compile, .execute] ∧
      (∃ e, ((Formatter.program true []).runCall "oninfo" [.text source] 0 (Style.plain, {})).1 = .error e) ∧
      Escapes (Theme.compile true source Palette.dark).outcome.1 [.theme] ∧
      Escapes (Palette.validate (Palette.dark.set .trace { first := source })).outcome.1 [] := by
  intro source
  have long {knows : Text → Bool} {front : Text} {nodes : List Node} (found : Node.read knows front = .ok nodes)
      (rest : Text) : Node.LongIn knows (front ++ source ++ rest) := by
    have call := Node.longIn_of_call found (show Lexeme.IsName "fg" by decide) basic many rest
    simpa [source] using call
  have alone (knows : Text → Bool) : Node.LongIn knows source := by
    simpa using long (Node.readAt_nil knows 0) []
  have noDollar : .char '$' ∉ source := by
    have digit : .char '$' ∉ digits := fun member => absurd (basic '$' member) (by decide)
    simp [source, digit]
  have noField {t : Text} (plain : .char '$' ∉ t) : t.fieldsAsDirectives = t := by
    have none : Text.fieldsAsDirectives [] = [] := by decide +kernel
    simpa [none] using Text.fieldsAsDirectives_plain_append plain []
  refine ⟨(Program.escapes_compile [] true source).2 (alone _), ?_, ?_, ?_, ?_⟩
  · rw [Formatter.escapes_compile, Formatter.LongIn, noField noDollar]
    exact alone _
  · obtain ⟨fault, failed⟩ := (Ledger.exists_left_eq_error 0 true source Style.plain).2 (.inl (alone _))
    have run := Formatter.runCall_way true [] (.on .info) source 0
    simp only [Formatter.runNodes, Program.runNodes, List.length_nil, failed] at run
    exact ⟨_, run⟩
  · rw [Theme.escapes_compile]
    refine .inl ?_
    have front : .char '$' ∉ Theme.conditionals Palette.dark .first ++ "\x7bstore\x7d" := by decide
    have back : .char '$' ∉ Formatter.reset := by decide
    obtain ⟨nodes, found, -⟩ := exists_of_any (Node.read (Formatter.registry true).knows
      (Theme.conditionals Palette.dark .first ++ "\x7bstore\x7d")) (fun _ => true) (by decide +kernel)
    rw [Formatter.LongIn, Theme.lineFormat, Theme.wrapLabels_of_not_mem _ _ noDollar,
      noField (List.not_mem_append (List.not_mem_append front noDollar) back)]
    exact long found _
  · rw [Palette.escapes_validate]
    exact ⟨[], .trace, .first, source, _, rfl, by simp, alone _⟩

/-- A number of 4301 digits is too long in a program, in a format, in a fragment for the lines of one level, in
    the format of a theme, and in a palette. -/
theorem escapes_at_long_number :
    let source : Text := "\x7bfg " ++ (List.replicate 4301 '1' : Text) ++ "\x7d"
    Escapes (Program.compile (σ := Unit) [] true source).outcome.1 [.compile] ∧
      Escapes (Formatter.compile true source).outcome.1 [.compile, .execute] ∧
      (∃ e, ((Formatter.program true []).runCall "oninfo" [.text source] 0 (Style.plain, {})).1 = .error e) ∧
      Escapes (Theme.compile true source Palette.dark).outcome.1 [.theme] ∧
      Escapes (Palette.validate (Palette.dark.set .trace { first := source })).outcome.1 [] := by
  refine escapes_of_digits (fun c member => ?_) ?_
  · rw [(List.mem_replicate.1 member).2]
    rfl
  · rw [List.length_replicate]
    decide

end

end LogStyle
