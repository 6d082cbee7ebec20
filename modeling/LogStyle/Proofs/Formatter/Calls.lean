import LogStyle.Outcome
import LogStyle.Proofs.Conditional.History
import LogStyle.Proofs.Formatter.LineStep
import Mathlib.Data.List.Forall2

/-! # The calls that lines make

What a formatter remembers after some lines is what is left by the calls that their fields make, each line beginning
with one that forgets. A line that fails has made some first of its calls.
-/

namespace LogStyle

namespace Restore.Call

/-- The call that a segment makes on a line, if it makes one. -/
def ofSegment? (line : Line) : Segment → Option Call
  | .literal _ => none
  | .field body =>
    let (name, value) := Segment.nameAndValue body
    if name = Ledger.conditionalName then some (onLevel line value)
    else if name = Ledger.storeName then some store
    else if name = Ledger.restoreName then some restore
    else none

def ofLine (f : Formatter) (line : Line) : List Call :=
  forget :: f.template.segments.filterMap (ofSegment? line)

variable (conditionals : List Conditional)

def runAll (r : Restore) (calls : List Call) : Restore :=
  calls.foldl (fun r call => (call.run conditionals r).2) r

theorem run_ofSegment (line : Line) (segment : Segment) (r : Restore) :
    ((LineStep.ofSegment conditionals line segment).run r).2 =
      runAll conditionals r (ofSegment? line segment).toList := by
  cases segment with
  | literal text => rfl
  | field body =>
      rw [LineStep.ofSegment, LineStep.ofField, ofSegment?]
      generalize Segment.nameAndValue body = parts
      obtain ⟨name, value⟩ := parts
      dsimp only
      split
      · exact (congrArg Prod.snd (LineStep.run_ofNumber conditionals line value r)).symm
      · split
        · rfl
        · split
          · rfl
          · rw [LineStep.run_ofOutcome]
            rfl

theorem exists_calls_runAll (line : Line) (segments : List Segment) (r : Restore) :
    ∃ calls, calls <+: segments.filterMap (ofSegment? line) ∧
      (LineStep.runAll (segments.map (LineStep.ofSegment conditionals line)) r).2 = runAll conditionals r calls ∧
      ∀ text, (LineStep.runAll (segments.map (LineStep.ofSegment conditionals line)) r).1 = .ok text →
        calls = segments.filterMap (ofSegment? line) := by
  induction segments generalizing r with
  | nil => exact ⟨[], List.prefix_rfl, rfl, fun _ _ => rfl⟩
  | cons segment rest ih =>
      have split : (segment :: rest).filterMap (ofSegment? line) =
          (ofSegment? line segment).toList ++ rest.filterMap (ofSegment? line) := by
        cases called : ofSegment? line segment <;> simp [called]
      have own := run_ofSegment conditionals line segment r
      rw [split, List.map_cons, LineStep.runAll]
      rcases taken : (LineStep.ofSegment conditionals line segment).run r with ⟨fault | shown, s⟩
      · rw [taken] at own
        exact ⟨_, List.prefix_append _ _, own, fun _ failed => by cases failed⟩
      · rw [taken] at own
        obtain ⟨calls, front, state, whole⟩ := ih s
        have reached : s = runAll conditionals r (ofSegment? line segment).toList := own
        refine ⟨(ofSegment? line segment).toList ++ calls, (List.prefix_append_right_inj _).2 front, ?_, ?_⟩
        · rw [Sequel.andThen_ok, state, reached, runAll, runAll, runAll, List.foldl_append]
        · intro written ran
          rw [Sequel.andThen_ok] at ran
          obtain ⟨later, succeeds, -⟩ := Outcome.map_eq_ok.1 ran
          rw [whole later succeeds]

end Restore.Call

namespace Formatter

variable (text : Text) (conditionals : List Conditional)

theorem exists_calls_of_line (line : Line) (r : Restore) :
    ∃ calls, calls <+: Restore.Call.ofLine (ofTemplate text conditionals) line ∧
      ((ofTemplate text conditionals).render line r).2 = Restore.Call.runAll conditionals r calls ∧
      ∀ shown, ((ofTemplate text conditionals).render line r).1 = .ok shown →
        calls = Restore.Call.ofLine (ofTemplate text conditionals) line := by
  obtain ⟨calls, front, state, whole⟩ := Restore.Call.exists_calls_runAll conditionals line
    (ofTemplate text conditionals).template.segments r.forget
  rw [render_ofTemplate]
  exact ⟨.forget :: calls, List.cons_prefix_cons.2 ⟨rfl, front⟩, state, fun shown ran => by
    rw [whole shown ran]
    rfl⟩

/-- What is remembered after some lines is what their calls leave. -/
theorem exists_calls_of_lines (lines : List Line) :
    ∃ made : List (List Restore.Call),
      List.Forall₂ (fun line calls => calls <+: Restore.Call.ofLine (ofTemplate text conditionals) line) lines made ∧
      lines.foldl (fun r line => ((ofTemplate text conditionals).render line r).2) {} =
        Restore.after conditionals made.flatten := by
  suffices all : ∀ r : Restore, ∃ made : List (List Restore.Call),
      List.Forall₂ (fun line calls => calls <+: Restore.Call.ofLine (ofTemplate text conditionals) line) lines made ∧
      lines.foldl (fun r line => ((ofTemplate text conditionals).render line r).2) r =
        Restore.Call.runAll conditionals r made.flatten from all {}
  induction lines with
  | nil => exact fun _ => ⟨[], .nil, rfl⟩
  | cons line rest ih =>
      intro r
      obtain ⟨calls, front, state, -⟩ := exists_calls_of_line text conditionals line r
      obtain ⟨made, fronts, later⟩ := ih ((ofTemplate text conditionals).render line r).2
      refine ⟨calls :: made, .cons front fronts, ?_⟩
      rw [List.foldl_cons, later, state, List.flatten_cons, Restore.Call.runAll, Restore.Call.runAll, Restore.Call.runAll,
        List.foldl_append]

end Formatter

end LogStyle
