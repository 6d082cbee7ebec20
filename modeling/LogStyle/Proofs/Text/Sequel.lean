import LogStyle.Program.Basic
import LogStyle.Template.Basic

/-! # Writing in sequence

Templates and programs are run alike: a part writes a text and changes a state, what comes after it starts
from the state it left, and the first failure ends the run. `Sequel.andThen` is that sequencing, so that
both kinds of run are folds of it and share its laws.
-/

namespace LogStyle

namespace Sequel

variable {ε σ : Type}

/-- Go on from where a part has ended, unless it has failed. -/
def andThen (first : Except ε Text × σ) (next : σ → Except ε Text × σ) : Except ε Text × σ :=
  match first with
  | (.error e, s) => (.error e, s)
  | (.ok t, s) => ((next s).1.map (t ++ ·), (next s).2)

@[simp] theorem andThen_error (e : ε) (s : σ) (next : σ → Except ε Text × σ) :
    andThen (.error e, s) next = (.error e, s) := rfl

theorem andThen_ok (t : Text) (s : σ) (next : σ → Except ε Text × σ) :
    andThen (.ok t, s) next = ((next s).1.map (t ++ ·), (next s).2) := rfl

@[simp] theorem andThen_nil (s : σ) (next : σ → Except ε Text × σ) :
    andThen (.ok [], s) next = next s := by
  rw [andThen_ok]
  rcases next s with ⟨_ | _, _⟩ <;> rfl

@[simp] theorem andThen_done (first : Except ε Text × σ) :
    andThen first (fun s => (.ok [], s)) = first := by
  rcases first with ⟨_ | t, s⟩
  · rfl
  · simp [andThen_ok, Except.map]

theorem andThen_assoc (first : Except ε Text × σ) (second third : σ → Except ε Text × σ) :
    andThen (andThen first second) third = andThen first fun s => andThen (second s) third := by
  rcases first with ⟨_ | t, s⟩
  · rfl
  · simp only [andThen_ok]
    rcases second s with ⟨_ | u, s'⟩
    · rfl
    · simp only [Except.map, andThen_ok]
      rcases third s' with ⟨_ | _, _⟩ <;> simp

theorem andThen_eq_ok {first : Except ε Text × σ} {next : σ → Except ε Text × σ} {t : Text} {s : σ} :
    andThen first next = (.ok t, s) ↔
      ∃ u v s', first = (.ok u, s') ∧ next s' = (.ok v, s) ∧ t = u ++ v := by
  constructor
  · intro whole
    rcases first with ⟨_ | u, s'⟩
    · simp at whole
    · rw [andThen_ok] at whole
      rcases h : next s' with ⟨_ | v, s''⟩ <;> simp only [h, Except.map, Prod.mk.injEq, reduceCtorEq,
        false_and, Except.ok.injEq] at whole
      obtain ⟨rfl, rfl⟩ := whole
      exact ⟨u, v, s', rfl, h, rfl⟩
  · rintro ⟨u, v, s', rfl, h, rfl⟩
    rw [andThen_ok, h]
    rfl

theorem andThen_eq_error {first : Except ε Text × σ} {next : σ → Except ε Text × σ} {e : ε} {s : σ} :
    andThen first next = (.error e, s) ↔
      first = (.error e, s) ∨ ∃ u s', first = (.ok u, s') ∧ next s' = (.error e, s) := by
  constructor
  · intro whole
    rcases first with ⟨_ | u, s'⟩
    · exact .inl whole
    · rw [andThen_ok] at whole
      rcases h : next s' with ⟨_ | v, s''⟩ <;> simp only [h, Except.map, Prod.mk.injEq, reduceCtorEq,
        false_and, Except.error.injEq] at whole
      obtain ⟨rfl, rfl⟩ := whole
      exact .inr ⟨u, s', rfl, h⟩
  · rintro (rfl | ⟨u, s', rfl, h⟩)
    · rfl
    · rw [andThen_ok, h]
      rfl

/-- Outcomes one after another, up to the first failure. -/
def joined : List (Except ε Text) → Except ε Text
  | [] => .ok []
  | .ok t :: rest => (joined rest).map (t ++ ·)
  | .error e :: _ => .error e

theorem joined_append (front back : List (Except ε Text)) :
    joined (front ++ back) = (joined front).bind fun t => (joined back).map (t ++ ·) := by
  induction front with
  | nil =>
      simp only [List.nil_append, joined, Except.bind]
      cases joined back <;> rfl
  | cons outcome rest ih =>
      cases outcome with
      | error e => rfl
      | ok t =>
          rw [List.cons_append, joined, ih, joined]
          cases joined rest with
          | error e => rfl
          | ok u =>
              simp only [Except.bind, Except.map]
              cases joined back <;> simp

theorem joined_flatMap {α : Type} (f : α → List (Except ε Text)) (items : List α) :
    joined (items.flatMap f) = joined (items.map fun item => joined (f item)) := by
  induction items with
  | nil => rfl
  | cons item rest ih =>
      rw [List.flatMap_cons, joined_append, ih, List.map_cons]
      cases joined (f item) <;> rfl

theorem joined_eq_ok {outcomes : List (Except ε Text)} {t : Text} :
    joined outcomes = .ok t ↔ ∃ texts : List Text, outcomes = texts.map .ok ∧ t = texts.flatten := by
  induction outcomes generalizing t with
  | nil => simp [joined, eq_comm]
  | cons outcome rest ih =>
      cases outcome with
      | error e =>
          simp only [joined, reduceCtorEq, false_iff]
          rintro ⟨_ | _, same, -⟩ <;> cases same
      | ok u =>
          rw [joined]
          constructor
          · intro whole
            rcases behind : joined rest with _ | v
            · simp [behind, Except.map] at whole
            · obtain ⟨texts, rfl, rfl⟩ := ih.1 behind
              rw [behind] at whole
              exact ⟨u :: texts, rfl, (Except.ok.inj whole).symm⟩
          · rintro ⟨texts, same, rfl⟩
            obtain ⟨v, more, rfl⟩ : ∃ v more, texts = v :: more :=
              List.exists_cons_of_ne_nil (by rintro rfl; cases same)
            obtain ⟨rfl, rfl⟩ : u = v ∧ rest = more.map .ok := by simpa using same
            rw [ih.2 ⟨more, rfl, rfl⟩]
            rfl

theorem exists_joined {outcomes : List (Except ε Text)} (all : ∀ outcome ∈ outcomes, ∃ t, outcome = .ok t) :
    ∃ t, joined outcomes = .ok t := by
  induction outcomes with
  | nil => exact ⟨[], rfl⟩
  | cons outcome rest ih =>
      obtain ⟨t, rfl⟩ := all outcome List.mem_cons_self
      obtain ⟨u, later⟩ := ih fun other member => all other (List.mem_cons_of_mem _ member)
      exact ⟨t ++ u, by rw [joined, later]; rfl⟩

theorem joined_oks {α : Type} (f : α → Text) (items : List α) :
    joined (items.map fun item => (.ok (f item) : Except ε Text)) = .ok (items.flatMap f) := by
  induction items with
  | nil => rfl
  | cons item rest ih =>
      rw [List.map_cons, joined, ih]
      rfl

end Sequel

namespace Template

variable {σ : Type}

theorem renderSegments_cons (t : Template σ) (line : Line) (segment : Segment) (rest : List Segment)
    (state : σ) :
    t.renderSegments line (segment :: rest) state =
      Sequel.andThen (t.renderSegment line segment state) (t.renderSegments line rest) := by
  simp only [renderSegments]
  rcases t.renderSegment line segment state with ⟨_ | text, state'⟩
  · rfl
  · simp only [Sequel.andThen_ok]
    rcases t.renderSegments line rest state' with ⟨_ | _, _⟩ <;> rfl

end Template

namespace Program

variable {σ : Type}

theorem runNodes_cons (p : Program σ) (node : Node) (rest : List Node) (at_ : Reached σ) :
    p.runNodes (node :: rest) at_ = Sequel.andThen (p.runNode node at_) (p.runNodes rest) := by
  simp only [runNodes]
  rcases p.runNode node at_ with ⟨_ | text, reached⟩
  · rfl
  · simp only [Sequel.andThen_ok]
    rcases p.runNodes rest reached with ⟨_ | _, _⟩ <;> rfl

theorem runNodes_congr {p p' : Program σ} (registry : p.registry = p'.registry) (colors : p.colors = p'.colors)
    (nodes : List Node) (at_ : Reached σ) : p.runNodes nodes at_ = p'.runNodes nodes at_ := by
  have one (node : Node) (at_ : Reached σ) : p.runNode node at_ = p'.runNode node at_ := by
    obtain ⟨_, own, _⟩ := p
    obtain ⟨_, own', _⟩ := p'
    cases registry
    cases colors
    cases node <;> rfl
  induction nodes generalizing at_ with
  | nil => rfl
  | cons node rest ih =>
      rw [runNodes_cons, runNodes_cons, one]
      exact congrArg _ (funext ih)

theorem runNodes_append (p : Program σ) (front back : List Node) (at_ : Reached σ) :
    p.runNodes (front ++ back) at_ = Sequel.andThen (p.runNodes front at_) (p.runNodes back) := by
  induction front generalizing at_ with
  | nil => simp [runNodes]
  | cons node rest ih =>
      rw [List.cons_append, runNodes_cons, runNodes_cons, Sequel.andThen_assoc]
      exact congrArg _ (funext ih)

end Program

end LogStyle
