import LogStyle.Formatter
import LogStyle.Proofs.Text.Sequel

/-! # Lines as rows of steps

A formatter walks its template once for every line. Each segment comes down to one of five steps on what
is remembered, and which one it is depends on the line and the conditional styles alone, never on what is
remembered. So a line is a row of steps that is fixed before it is rendered, and everything about lines
is proved of such rows.
-/

namespace LogStyle

/-- What the fields that every template has are rendered to; a field without a meaning is left as it is
    written. -/
def Line.fieldText (line : Line) (body : Text) : Except Fault Text :=
  let (name, value) := Segment.nameAndValue body
  if name = "prefix" then .ok line.lead
  else if name = "level" then .ok (Handler.levelText line.level value)
  else if name = "time" then Handler.timeText line.clock value
  else .ok (Segment.fieldText body)

/-- What one segment of a template does on a line. -/
inductive LineStep where
  /-- Show a text whatever is remembered. -/
  | shows (text : Text)
  /-- Show a conditional style that applies, and remember it. -/
  | follow (c : Conditional)
  | store
  | restore
  | fail (fault : Fault)
  deriving Repr, DecidableEq

namespace LineStep

def run : LineStep → Restore → Except Fault Text × Restore
  | shows text, r => (.ok text, r)
  | follow c, r => (.ok c.sequence, r.follow c)
  | store, r => (.ok [], r.store)
  | restore, r => (.ok r.wayBack, r)
  | fail fault, r => (.error fault, r)

def runAll : List LineStep → Restore → Except Fault Text × Restore
  | [], r => (.ok [], r)
  | step :: rest, r => Sequel.andThen (step.run r) (runAll rest)

theorem runAll_append (front back : List LineStep) (r : Restore) :
    runAll (front ++ back) r = Sequel.andThen (runAll front r) (runAll back) := by
  induction front generalizing r with
  | nil => simp [runAll]
  | cons step rest ih =>
      rw [List.cons_append, runAll, runAll, Sequel.andThen_assoc]
      exact congrArg _ (funext ih)

/-- The step of a field that stands for a conditional style. -/
def ofNumber (conditionals : List Conditional) (level : Level) (value : Text) : LineStep :=
  match Restore.named conditionals value with
  | .error fault => fail fault
  | .ok none => shows []
  | .ok (some c) => if c.applies level then follow c else shows []

/-- The step of a field whose outcome does not depend on what is remembered. -/
def ofOutcome : Except Fault Text → LineStep
  | .ok text => shows text
  | .error fault => fail fault

theorem run_ofOutcome (outcome : Except Fault Text) (r : Restore) : (ofOutcome outcome).run r = (outcome, r) := by
  cases outcome <;> rfl

def ofField (conditionals : List Conditional) (line : Line) (body : Text) : LineStep :=
  let (name, value) := Segment.nameAndValue body
  if name = Ledger.conditionalName then ofNumber conditionals line.level value
  else if name = Ledger.storeName then store
  else if name = Ledger.restoreName then restore
  else ofOutcome (line.fieldText body)

def ofSegment (conditionals : List Conditional) (line : Line) : Segment → LineStep
  | .literal text => shows text
  | .field body => ofField conditionals line body

theorem run_ofNumber (conditionals : List Conditional) (line : Line) (value : Text) (r : Restore) :
    Restore.onLevel conditionals line value r = (ofNumber conditionals line.level value).run r := by
  unfold Restore.onLevel ofNumber
  cases Restore.named conditionals value with
  | error fault => rfl
  | ok found =>
      cases found with
      | none => rfl
      | some c => by_cases applies : c.applies line.level <;> simp [applies, run]

theorem runAll_of_fail {row : List LineStep} {fault : Fault} (fails : fail fault ∈ row) :
    ∃ first, ∀ r, (runAll row r).1 = .error first := by
  induction row with
  | nil => simp at fails
  | cons step rest ih =>
      cases step with
      | fail first => exact ⟨first, fun _ => rfl⟩
      | shows | follow | store | restore =>
          obtain ⟨first, error⟩ := ih (by simpa using fails)
          refine ⟨first, fun r => ?_⟩
          simp only [runAll, run, Sequel.andThen_ok, error]
          rfl

theorem runAll_of_not_fail {row : List LineStep} (safe : ∀ fault, fail fault ∉ row) (r : Restore) :
    ∃ text, (runAll row r).1 = .ok text := by
  induction row generalizing r with
  | nil => exact ⟨[], rfl⟩
  | cons step rest ih =>
      have onward : ∀ s, ∃ text, (runAll rest s).1 = .ok text :=
        ih fun fault member => safe fault (List.mem_cons_of_mem _ member)
      cases step with
      | fail fault => exact absurd List.mem_cons_self (safe fault)
      | shows | follow | store | restore =>
          simp only [runAll, run, Sequel.andThen_ok]
          obtain ⟨text, shown⟩ := onward _
          rw [shown]
          exact ⟨_, rfl⟩

def ofLine (f : Formatter) (line : Line) : List LineStep :=
  f.template.segments.map (ofSegment f.conditionals line)

end LineStep

namespace Formatter

variable (text : Text) (conditionals : List Conditional) (line : Line)

theorem renderField_ofTemplate (body : Text) (r : Restore) :
    (ofTemplate text conditionals).template.renderField line body r =
      (LineStep.ofField conditionals line body).run r := by
  have handlers : (ofTemplate text conditionals).template.handlers =
      [(Ledger.restoreName, fun _ _ r => (.ok r.wayBack, r)),
        (Ledger.storeName, fun _ _ r => (.ok [], r.store)),
        (Ledger.conditionalName, Restore.onLevel conditionals)] ++ Handler.builtins := rfl
  unfold Template.renderField LineStep.ofField Line.fieldText
  rw [handlers]
  generalize Segment.nameAndValue body = parts
  obtain ⟨name, value⟩ := parts
  have misses {key : Text} (h : name ≠ key) : (name == key) = false := beq_false_of_ne h
  by_cases onPrefix : name = ("prefix" : Text)
  · subst onPrefix; rfl
  by_cases onRestore : name = Ledger.restoreName
  · subst onRestore; rfl
  by_cases onStore : name = Ledger.storeName
  · subst onStore; rfl
  by_cases onNumber : name = Ledger.conditionalName
  · subst onNumber
    exact LineStep.run_ofNumber conditionals line value r
  by_cases level : name = ("level" : Text)
  · subst level; rfl
  by_cases time : name = ("time" : Text)
  · subst time
    exact (LineStep.run_ofOutcome _ r).symm
  have unknown : List.lookup name ([(Ledger.restoreName, fun _ _ r => (.ok r.wayBack, r)),
        (Ledger.storeName, fun _ _ r => (.ok [], r.store)),
        (Ledger.conditionalName, Restore.onLevel conditionals)] ++
        (Handler.builtins : List (Text × Handler Restore))) = none := by
    rw [List.cons_append, List.lookup_cons, misses onRestore]
    rw [List.cons_append, List.lookup_cons, misses onStore]
    rw [List.cons_append, List.lookup_cons, misses onNumber]
    rw [List.nil_append, Handler.builtins, List.lookup_cons, misses level]
    rw [List.lookup_cons, misses time]
    rfl
  simp only [unknown, if_neg onPrefix, if_neg onRestore, if_neg onStore, if_neg onNumber, if_neg level,
    if_neg time, LineStep.ofOutcome, LineStep.run]

theorem renderSegment_ofTemplate (segment : Segment) (r : Restore) :
    (ofTemplate text conditionals).template.renderSegment line segment r =
      (LineStep.ofSegment conditionals line segment).run r := by
  cases segment with
  | literal t => rfl
  | field body => exact renderField_ofTemplate text conditionals line body r

theorem renderSegments_ofTemplate (segments : List Segment) (r : Restore) :
    (ofTemplate text conditionals).template.renderSegments line segments r =
      LineStep.runAll (segments.map (LineStep.ofSegment conditionals line)) r := by
  induction segments generalizing r with
  | nil => rfl
  | cons segment rest ih =>
      rw [Template.renderSegments_cons, List.map_cons, LineStep.runAll, renderSegment_ofTemplate]
      exact congrArg _ (funext ih)

theorem render_ofTemplate (r : Restore) :
    (ofTemplate text conditionals).render line r =
      LineStep.runAll (LineStep.ofLine (ofTemplate text conditionals) line) r.forget :=
  renderSegments_ofTemplate text conditionals line _ _

end Formatter

end LogStyle
