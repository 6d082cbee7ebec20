import LogStyle.Proofs.Conditional.Entry
import LogStyle.Proofs.Formatter.Carry
import LogStyle.Proofs.Theme.Clause

/-! # Lines of a theme

What a theme makes of a line has a closed form: the style of the level, the user's format with something put
around each field of the level, and a reset. It does not depend on earlier lines, because on every line exactly
one of the six styles in front applies, and applies before the line stores what is remembered.
-/

namespace LogStyle

namespace Line

variable (line : Line)

def segmentText : Segment → Except Fault Text
  | .literal t => .ok t
  | .field body => line.fieldText body

def rendered (t : Text) : Except Fault Text :=
  Sequel.joined ((Segment.split t).map line.segmentText)

theorem rendered_eq_scattered (t : Text) :
    line.rendered t = Sequel.joined ((Segment.scattered t).map line.segmentText) := by
  have piece (segment : Segment) : Sequel.joined (segment.scatter.map line.segmentText) = line.segmentText segment := by
    cases segment with
    | literal u =>
        have single (c : CodePoint) : line.segmentText (.literal [c]) = .ok [c] := rfl
        simp only [Segment.scatter, List.map_map]
        exact (Sequel.joined_oks (fun c => [c]) u).trans (by simp [segmentText])
    | field body =>
        rw [Segment.scatter, List.map_singleton]
        cases h : line.segmentText (.field body) <;> simp [Sequel.joined, Except.map]
  rw [Segment.scattered, List.map_flatMap, Sequel.joined_flatMap]
  simp only [piece, rendered]

theorem renderField_ofText {σ : Type} (t body : Text) (state : σ) :
    (Template.ofText t : Template σ).renderField line body state = (line.fieldText body, state) := by
  unfold Template.renderField fieldText
  generalize Segment.nameAndValue body = parts
  obtain ⟨name, value⟩ := parts
  by_cases onPrefix : name = ("prefix" : Text)
  · subst onPrefix
    rfl
  by_cases level : name = ("level" : Text)
  · subst level
    rfl
  by_cases time : name = ("time" : Text)
  · subst time
    rfl
  have unknown : (Template.ofText t : Template σ).handlers.lookup name = none := by
    change List.lookup name (Handler.builtins : List (Text × Handler σ)) = none
    rw [Handler.builtins, List.lookup_cons, beq_false_of_ne level, List.lookup_cons, beq_false_of_ne time]
    rfl
  simp only [unknown, if_neg onPrefix, if_neg level, if_neg time]

theorem render_ofText {σ : Type} (t : Text) (state : σ) :
    (Template.ofText t : Template σ).render line state = (line.rendered t, state) := by
  have segments (segments : List Segment) : (Template.ofText t : Template σ).renderSegments line segments state =
      (Sequel.joined (segments.map line.segmentText), state) := by
    induction segments with
    | nil => rfl
    | cons segment rest ih =>
        have here : (Template.ofText t : Template σ).renderSegment line segment state =
            (line.segmentText segment, state) := by
          cases segment with
          | literal u => rfl
          | field body => exact renderField_ofText line t body state
        rw [Template.renderSegments_cons, here, List.map_cons]
        cases line.segmentText segment with
        | error fault => rfl
        | ok u =>
            rw [Sequel.andThen_ok, ih]
            rfl
  exact segments (Segment.split t)

end Line

namespace Theme

section
variable {stretches : List Stretch} (closed : ∀ stretch ∈ stretches, Segment.Closed stretch.text)
include closed

theorem scattered_flatMap_text :
    Segment.scattered (stretches.flatMap Stretch.text) = stretches.flatMap fun s => Segment.scattered s.text := by
  induction stretches with
  | nil => simp
  | cons stretch rest ih =>
      obtain ⟨noneOpen, last⟩ := closed stretch List.mem_cons_self
      rw [List.flatMap_cons, Segment.scattered_append noneOpen fun dollar => absurd dollar last,
        ih fun other member => closed other (List.mem_cons_of_mem _ member), List.flatMap_cons]

theorem rendered_flatMap_text (line : Line) :
    line.rendered (stretches.flatMap Stretch.text) = Sequel.joined (stretches.map fun s => line.rendered s.text) := by
  rw [Line.rendered_eq_scattered, scattered_flatMap_text closed, List.map_flatMap, Sequel.joined_flatMap]
  simp only [Line.rendered_eq_scattered]

end

/-- The output of a fragment that is read and run by itself. -/
def fragmentOutput [CharNames] (colors : Bool) (fragment : Text) : Text :=
  (PureProgram.compileAndExecute [] colors fragment Style.plain).outcome.1.toOption.getD []

namespace Clause

def isOn : Clause → Bool
  | on _ _ => true
  | _ => false

section

variable [CharNames]

/-- What a clause shows on a line, and what is remembered behind it, `way` being the way back to the plain style. -/
def shown (colors : Bool) (line : Line) (way : Text) : Clause → Restore → Except Fault Text × Restore
  | plain t, r => (line.rendered t, r)
  | on level fragment, r =>
    if level = line.level then
      (.ok (fragmentOutput colors fragment), { r with previous := way, current := fragmentOutput colors fragment })
    else (.ok [], r)
  | store, r => (.ok [], r.store)
  | restore, r => (.ok r.wayBack, r)
  | reset, r => (.ok (Formatter.resetSequence colors), r)

def shownAll (colors : Bool) (line : Line) (way : Text) :
    List Clause → Restore → Except Fault Text × Restore
  | [], r => (.ok [], r)
  | c :: rest, r => Sequel.andThen (c.shown colors line way r) (shownAll colors line way rest)

theorem shownAll_append (colors : Bool) (line : Line) (way : Text) (front back : List Clause) (r : Restore) :
    shownAll colors line way (front ++ back) r =
      Sequel.andThen (shownAll colors line way front r) (shownAll colors line way back) := by
  induction front generalizing r with
  | nil => simp [shownAll]
  | cons c rest ih =>
      rw [List.cons_append, shownAll, shownAll, Sequel.andThen_assoc]
      exact congrArg _ (funext ih)

theorem shownAll_singleton (colors : Bool) (line : Line) (way : Text) (c : Clause) (r : Restore) :
    shownAll colors line way [c] r = c.shown colors line way r :=
  Sequel.andThen_done _

end

/-- A clause whose fields are those of the host. -/
def Hosted : Clause → Prop
  | plain t => ∀ body, .field body ∈ Segment.scattered t →
    (Segment.nameAndValue body).1 ∉ [Ledger.conditionalName, Ledger.storeName, Ledger.restoreName]
  | _ => True

variable {colors : Bool} {c : Clause} {l l' : Ledger} {t : Text}

theorem Runs.step [CharNames] (runs : c.Runs colors l t l') :
    l.conditionals <+: l'.conditionals ∧ l'.conditionals.length ≤ l.conditionals.length + [c].countP isOn := by
  cases runs with
  | plain | store | restore | reset => exact ⟨List.prefix_rfl, Nat.le_add_right _ _⟩
  | @on level fragment t l l' isHollow writable recorded =>
      have step := Ledger.record_step colors Style.plain (.ofText level.lower) (.ofText fragment) l
      rw [recorded] at step
      refine ⟨step.prefix_conditionals, ?_⟩
      cases step with
      | keeps _ same => simp [same]
      | enters c _ more => simp [more, isOn]

theorem RunsAll.length_le [CharNames] {clauses : List Clause} (runs : RunsAll colors clauses l t l') :
    l.conditionals <+: l'.conditionals ∧ l'.conditionals.length ≤ l.conditionals.length + clauses.countP isOn := by
  induction runs with
  | nil => exact ⟨List.prefix_rfl, Nat.le_refl _⟩
  | @cons c rest l between l' t u here later ih =>
      obtain ⟨grows, length⟩ := here.step
      have count : ([c] ++ rest).countP isOn = [c].countP isOn + rest.countP isOn := List.countP_append
      rw [List.singleton_append] at count
      exact ⟨grows.trans ih.1, by omega⟩

/-- What is written is made of pieces that show on a line what the clauses show. -/
def Stands [CharNames] (colors : Bool) (line : Line) (way : Text) (clauses : List Clause) (t : Text)
    (conditionals : List Conditional) : Prop :=
  ∃ pieces : List Segment, (∀ piece ∈ pieces, piece.Sound) ∧ t = pieces.flatMap Segment.source ∧
    ∀ later, conditionals <+: later → ∀ r, LineStep.runAll (pieces.map (LineStep.ofSegment later line)) r =
      shownAll colors line way clauses r

section
variable {line : Line} {way : Text}

theorem stands_of_renders [CharNames] {piece : Segment} {conditionals : List Conditional}
    {step : Restore → Option (Except Fault Text × Restore)} (renders : Walk.Renders line conditionals piece t step)
    (same : ∀ r, step r = some (c.shown colors line way r)) : Stands colors line way [c] t conditionals := by
  obtain ⟨sound, source, runs⟩ := renders
  refine ⟨[piece], by simpa using sound, by simp [source], fun later grown r => ?_⟩
  have ran := runs later grown r
  rw [same, Option.some.injEq] at ran
  rw [List.map_singleton, LineStep.runAll, shownAll_singleton, ran]
  exact Sequel.andThen_done _

theorem Stands.append [CharNames] {front back : List Clause} {u : Text} {conditionals conditionals' : List Conditional}
    (here : Stands colors line way front t conditionals) (later : Stands colors line way back u conditionals')
    (grows : conditionals <+: conditionals') : Stands colors line way (front ++ back) (t ++ u) conditionals' := by
  obtain ⟨pieces, sound, rfl, runs⟩ := here
  obtain ⟨pieces', sound', rfl, runs'⟩ := later
  refine ⟨pieces ++ pieces', ?_, by rw [List.flatMap_append], fun final grown r => ?_⟩
  · intro piece member
    rcases List.mem_append.1 member with first | second
    · exact sound piece first
    · exact sound' piece second
  · rw [List.map_append, LineStep.runAll_append, runs final (grows.trans grown) r, shownAll_append]
    exact congrArg _ (funext (runs' final grown))

theorem stands_plain [CharNames] {u : Text} (fits : (plain u).Fits) (hosted : (plain u).Hosted)
    (conditionals : List Conditional) : Stands colors line way [plain u] u conditionals := by
  refine ⟨Segment.scattered u, ?_, (Segment.flatMap_source_scattered u).symm, fun later _ r => ?_⟩
  · intro piece member
    cases piece with
    | literal v =>
        refine ⟨Segment.fieldless_of_brace (fits.2 v member), fun first => ?_⟩
        exact fits.2 v member (List.mem_of_head? first)
    | field body => exact Segment.close_not_mem_of_mem_scattered member
  · have shows : (Segment.scattered u).map (LineStep.ofSegment later line) =
        (Segment.scattered u).map fun segment => .ofOutcome (line.segmentText segment) := by
      refine List.map_congr_left fun segment member => ?_
      cases segment with
      | literal v => rfl
      | field body =>
          have host := hosted body member
          simp only [List.mem_cons, List.not_mem_nil, or_false, not_or] at host
          simp only [LineStep.ofSegment, LineStep.ofField, if_neg host.1, if_neg host.2.1, if_neg host.2.2]
          rfl
    have run (segments : List Segment) :
        LineStep.runAll (segments.map fun segment => .ofOutcome (line.segmentText segment)) r =
          (Sequel.joined (segments.map line.segmentText), r) := by
      induction segments with
      | nil => rfl
      | cons segment rest ih =>
          rw [List.map_cons, List.map_cons, LineStep.runAll, LineStep.run_ofOutcome]
          cases line.segmentText segment with
          | error fault => rfl
          | ok v =>
              rw [Sequel.andThen_ok, ih]
              rfl
    rw [shows, run, ← Line.rendered_eq_scattered, shownAll_singleton, shown]

theorem applies_iff (level level' : Level) (sequence previous : Text) :
    Conditional.applies ⟨level.lower.lower, sequence, previous⟩ level' = decide (level = level') := by
  have all : ∀ level level' : Level, decide (level.lower.lower.lower = level'.lower) = decide (level = level') := by
    intro level level'
    cases level <;> cases level' <;> decide
  exact all level level'

theorem Runs.entered [CharNames] (back : Walk.wayBack colors Style.plain = some way) {level : Level} {fragment : Text}
    (runs : (Clause.on level fragment).Runs colors l t l') (grown : l'.conditionals.length = l.conditionals.length + 1) :
    (PureProgram.compileAndExecute [] colors fragment Style.plain).outcome.1 = .ok (fragmentOutput colors fragment) ∧
      Numeral.isLong l.conditionals.length = false ∧
      t = Ledger.placeholder (Ledger.conditionalName ++ ":" ++ Text.ofNat l.conditionals.length) ∧
      l'.conditionals = l.conditionals ++ [⟨level.lower.lower, fragmentOutput colors fragment, way⟩] := by
  cases runs with
  | on isHollow writable recorded =>
      have entered := Ledger.recorded back (.text level.lower) fragment l
      rw [Arg.toValue_text, recorded] at entered
      obtain ⟨sequence, ran, short, written, same⟩ := entered.of_grown grown
      obtain rfl : fragmentOutput colors fragment = sequence := by
        rw [fragmentOutput, ran]
        rfl
      exact ⟨ran, short, Except.ok.inj written, same⟩

theorem Runs.stands [CharNames] (back : Walk.wayBack colors Style.plain = some way) (runs : c.Runs colors l t l')
    (fits : c.Fits)
    (hosted : c.Hosted) (grown : l'.conditionals.length = l.conditionals.length + [c].countP isOn) :
    Stands colors line way [c] t l'.conditionals := by
  cases c with
  | plain u =>
      cases runs
      exact stands_plain fits hosted _
  | store =>
      cases runs
      exact stands_of_renders Walk.renders_store fun r => rfl
  | restore =>
      cases runs
      exact stands_of_renders Walk.renders_restore fun r => rfl
  | reset =>
      cases runs
      have noBrace : .char '\x7b' ∉ Formatter.resetSequence colors := by cases colors <;> decide
      exact stands_of_renders (Walk.renders_plain noBrace) fun r => rfl
  | on level fragment =>
      obtain ⟨-, short, rfl, same⟩ := runs.entered back grown
      rw [same]
      refine stands_of_renders (Walk.renders_entered short) fun r => ?_
      rw [applies_iff]
      by_cases here : level = line.level
      · simp [here, shown, Restore.follow]
      · simp [here, shown]

/-- No clause can enter more than one style, so if all of them together have entered as many as they can, each has
    entered its own. -/
theorem RunsAll.grown_cons [CharNames] {rest : List Clause} {between : Ledger} {u : Text}
    (here : c.Runs colors l t between)
    (later : RunsAll colors rest between u l')
    (grown : l'.conditionals.length = l.conditionals.length + (c :: rest).countP isOn) :
    between.conditionals.length = l.conditionals.length + [c].countP isOn ∧
      l'.conditionals.length = between.conditionals.length + rest.countP isOn := by
  have count : ([c] ++ rest).countP isOn = [c].countP isOn + rest.countP isOn := List.countP_append
  rw [List.singleton_append] at count
  have first := here.step.2
  have second := later.length_le.2
  omega

section
variable [CharNames] {clauses : List Clause} (back : Walk.wayBack colors Style.plain = some way)
  (runs : RunsAll colors clauses l t l')
  (grown : l'.conditionals.length = l.conditionals.length + clauses.countP isOn)
include back runs grown

theorem RunsAll.stands (fits : ∀ c ∈ clauses, c.Fits) (hosted : ∀ c ∈ clauses, c.Hosted) :
    Stands colors line way clauses t l'.conditionals := by
  induction runs with
  | nil => exact ⟨[], by simp, rfl, fun later _ r => rfl⟩
  | @cons c rest l between l' t u here later ih =>
      obtain ⟨first, second⟩ := grown_cons here later grown
      have standsHere : Stands colors line way [c] t between.conditionals :=
        here.stands back (fits c List.mem_cons_self) (hosted c List.mem_cons_self) first
      have standsLater := ih second (fun other member => fits other (List.mem_cons_of_mem _ member))
        fun other member => hosted other (List.mem_cons_of_mem _ member)
      exact standsHere.append standsLater later.length_le.1

theorem RunsAll.render (fits : ∀ c ∈ clauses, c.Fits) (hosted : ∀ c ∈ clauses, c.Hosted) (line : Line) (r : Restore) :
    ((Formatter.ofTemplate t l'.conditionals).render line r).1 = (shownAll colors line way clauses r.forget).1 := by
  obtain ⟨pieces, sound, made, shows⟩ : Stands colors line way clauses t l'.conditionals :=
    runs.stands back grown fits hosted
  calc ((Formatter.ofTemplate t l'.conditionals).render line r).1
    _ = (LineStep.runAll (pieces.map (LineStep.ofSegment l'.conditionals line)) r.forget).1 := by
        rw [← Formatter.renderSegments_ofTemplate t]
        exact congrArg Prod.fst (Template.render_of_pieces _ made sound line r.forget)
    _ = (shownAll colors line way clauses r.forget).1 :=
        congrArg Prod.fst (shows l'.conditionals List.prefix_rfl r.forget)

theorem RunsAll.outcome_of_mem {level : Level} {fragment : Text} (member : on level fragment ∈ clauses) :
    (PureProgram.compileAndExecute [] colors fragment Style.plain).outcome.1 = .ok (fragmentOutput colors fragment) := by
  induction runs with
  | nil => cases member
  | @cons c rest l between l' t u here later ih =>
      obtain ⟨first, second⟩ := grown_cons here later grown
      rcases List.mem_cons.1 member with rfl | inside
      · exact (here.entered back first).1
      · exact ih second inside

end

end

end Clause

end Theme

end LogStyle
