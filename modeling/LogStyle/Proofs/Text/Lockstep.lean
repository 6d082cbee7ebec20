import LogStyle.Proofs.Formatter.LineStep
import Mathlib.Data.List.Forall2

/-! # Runs in lockstep

Two runs that fail alike or write related texts, and reach related states either way. Sequencing keeps this, so
whole runs of programs and of lines are in lockstep as soon as their steps are.
-/

namespace LogStyle

namespace Sequel

variable {ε σ τ : Type} {R : Text → Text → Prop} {S : σ → τ → Prop}

/-- Two runs, the texts they write being related by `R` and the states they reach by `S`. -/
inductive Lockstep (R : Text → Text → Prop) (S : σ → τ → Prop) : Except ε Text × σ → Except ε Text × τ → Prop where
  | fails (e : ε) {s : σ} {s' : τ} (states : S s s') : Lockstep R S (.error e, s) (.error e, s')
  | writes {t t' : Text} {s : σ} {s' : τ} (texts : R t t') (states : S s s') :
      Lockstep R S (.ok t, s) (.ok t', s')

/-- A relation that texts put together inherit from their parts. -/
structure Joins (R : Text → Text → Prop) : Prop where
  nil : R [] []
  append {t t' u u' : Text} (here : R t t') (later : R u u') : R (t ++ u) (t' ++ u')

theorem Lockstep.andThen (joins : Joins R) {first : Except ε Text × σ} {first' : Except ε Text × τ}
    {next : σ → Except ε Text × σ} {next' : τ → Except ε Text × τ} (here : Lockstep R S first first')
    (onward : ∀ s s', S s s' → Lockstep R S (next s) (next' s')) :
    Lockstep R S (andThen first next) (andThen first' next') := by
  cases here with
  | fails e states => exact .fails e states
  | @writes t t' s s' texts states =>
      rw [andThen_ok, andThen_ok]
      have later := onward s s' states
      generalize next s = onward at later ⊢
      generalize next' s' = onward' at later ⊢
      cases later with
      | fails e states => exact .fails e states
      | writes texts' states => exact .writes (joins.append texts texts') states

end Sequel

open Sequel

theorem Program.lockstep_runNodes {σ τ : Type} {p : Program σ} {p' : Program τ} {R : Text → Text → Prop}
    {S : Reached σ → Reached τ → Prop} (joins : Joins R) {nodes : List Node}
    (step : ∀ node ∈ nodes, ∀ at_ at_', S at_ at_' → Lockstep R S (p.runNode node at_) (p'.runNode node at_'))
    {at_ : Reached σ} {at_' : Reached τ} (states : S at_ at_') :
    Lockstep R S (p.runNodes nodes at_) (p'.runNodes nodes at_') := by
  induction nodes generalizing at_ at_' with
  | nil => exact .writes joins.nil states
  | cons node rest ih =>
      have here := step node List.mem_cons_self at_ at_' states
      rw [runNodes_cons, runNodes_cons]
      apply here.andThen joins
      intro s s' states
      exact ih (fun other member => step other (List.mem_cons_of_mem _ member)) states

theorem LineStep.lockstep_runAll {R : Text → Text → Prop} {S : Restore → Restore → Prop} (joins : Joins R)
    {row row' : List LineStep}
    (steps : List.Forall₂ (fun step step' => ∀ r r', S r r' → Lockstep R S (step.run r) (step'.run r')) row row')
    {r r' : Restore} (states : S r r') : Lockstep R S (runAll row r) (runAll row' r') := by
  induction steps generalizing r r' with
  | nil => exact .writes joins.nil states
  | cons here _ ih =>
      apply (here r r' states).andThen joins
      intro s s' states
      exact ih states

end LogStyle
