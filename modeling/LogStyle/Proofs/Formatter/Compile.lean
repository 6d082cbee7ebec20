import LogStyle.Formatter

/-! # What compiling comes to

Compiling reports notes as it goes. What it finally gives depends on two things only: the nodes that are
read from the format, and the run of them over an empty ledger.
-/

namespace LogStyle

/-- A line of a level with nothing in front, on the first midnight of 2024. -/
def Line.plain (level : Level) : Line :=
  ⟨level, [], ⟨⟨⟨2024, 1, 1⟩, 0, 0, 0, 0⟩, "%H:%M"⟩⟩

theorem exists_of_any {ε α : Type} (outcome : Except ε α) (p : α → Bool) (tested : outcome.toOption.any p = true) :
    ∃ a, outcome = .ok a ∧ p a = true := by
  cases outcome with
  | error e => simp [Except.toOption] at tested
  | ok a => exact ⟨a, rfl, tested⟩

theorem of_all {ε α : Type} (outcome : Except ε α) (p : α → Bool) (tested : outcome.toOption.all p = true) {a : α}
    (succeeds : outcome = .ok a) : p a = true := by
  subst succeeds
  exact tested

theorem eq_ok_of_toOption {ε α : Type} {outcome : Except ε α} {a : α} (succeeds : outcome.toOption = some a) :
    outcome = .ok a := by
  cases outcome with
  | error e => cases succeeds
  | ok b => exact congrArg Except.ok (Option.some.inj succeeds)

theorem exists_of_isNone {ε α : Type} (outcome : Except ε α) (tested : outcome.toOption.isNone = true) :
    ∃ fault, outcome = .error fault := by
  cases outcome with
  | error fault => exact ⟨fault, rfl⟩
  | ok a => simp [Except.toOption] at tested

namespace Noted

variable {α β : Type}

/-- Run a computation after some notes, giving its outcome and all notes. -/
def runFrom (computation : Noted α) (before : List Note) : Except Fault α × List Note :=
  (ExceptT.run computation).run before

theorem runFrom_bind (first : Noted α) (next : α → Noted β) (before : List Note) :
    runFrom (first >>= next) before =
      match runFrom first before with
      | (.error e, notes) => (.error e, notes)
      | (.ok a, notes) => runFrom (next a) notes := by
  unfold runFrom ExceptT.run StateT.run
  simp only [bind, ExceptT.bind, ExceptT.mk, StateT.bind, ExceptT.bindCont]
  rcases first before with ⟨_ | a, notes⟩ <;> rfl

theorem runFrom_tryCatch (computation : Noted α) (handle : Fault → Noted α) (before : List Note) :
    runFrom (tryCatch computation handle) before =
      match runFrom computation before with
      | (.error e, notes) => runFrom (handle e) notes
      | (.ok a, notes) => (.ok a, notes) := by
  change ((ExceptT.tryCatch computation handle).run).run before = _
  unfold runFrom ExceptT.run StateT.run
  simp only [ExceptT.tryCatch, ExceptT.mk, bind, StateT.bind]
  rcases computation before with ⟨_ | a, notes⟩ <;> rfl

theorem runFrom_report (note : Note) (before : List Note) :
    runFrom (report note) before = (.ok (), before ++ [note]) := rfl

theorem runFrom_pure (a : α) (before : List Note) :
    runFrom (pure a) before = (.ok a, before) := rfl

theorem runFrom_reportAll (notes before : List Note) :
    runFrom (forIn notes PUnit.unit fun note _ => do
      report note
      pure (ForInStep.yield PUnit.unit)) before = (.ok PUnit.unit, before ++ notes) := by
  induction notes generalizing before with
  | nil => rw [List.forIn_nil, runFrom_pure, List.append_nil]
  | cons note rest ih =>
      rw [List.forIn_cons, runFrom_bind, runFrom_bind, runFrom_report]
      change runFrom (forIn rest PUnit.unit _) (before ++ [note]) = _
      rw [ih, List.append_assoc, List.singleton_append]

end Noted

namespace Formatter

section

variable [CharNames]

def registry (colors : Bool) : Registry Ledger :=
  Registry.withExtensions (Ledger.Action.extensions colors)

def nodes (colors : Bool) (format : Text) : Except CompileError (List Node) :=
  Node.read (registry colors).knows format.fieldsAsDirectives

def program (colors : Bool) (nodes : List Node) : Program Ledger :=
  ⟨registry colors, nodes, colors⟩

def runNodes (colors : Bool) (nodes : List Node) : Program.Outcome Ledger :=
  (program colors nodes).runNodes nodes (Style.plain, {})

end

/-- The formatter that a run leads to, if it does not fail. -/
def ofRun : Program.Outcome Ledger → Except Fault Formatter
  | (.error e, _) => .error e.fault
  | (.ok text, reached) => .ok (ofTemplate text reached.2.conditionals)

theorem runFrom_run (p : Program Ledger) (before : List Note) :
    (Noted.runFrom (run p) before).1 = ofRun (p.execute (Style.plain, {})) := by
  unfold run
  rcases p.execute (Style.plain, {}) with ⟨_ | text, style, ledger⟩
  · rw [Noted.runFrom_bind, Noted.runFrom_reportAll]
    rfl
  · rw [Noted.runFrom_bind, Noted.runFrom_reportAll]
    rfl

section

variable [CharNames]

theorem runFrom_compile (colors : Bool) (source : Text) (before : List Note) :
    Noted.runFrom (Program.compile (Ledger.Action.extensions colors) colors source) before =
      match Node.read (registry colors).knows source with
      | .error e => (.error e.fault, before)
      | .ok nodes => (.ok (program colors nodes), before ++ [(program colors nodes).note]) := by
  have read : Program.read (Ledger.Action.extensions colors) colors source =
      (Node.read (registry colors).knows source).map (program colors) := rfl
  unfold Program.compile
  rw [read]
  cases Node.read (registry colors).knows source with
  | error e => rfl
  | ok nodes => rfl

theorem runFrom_compileFormat (colors : Bool) (format : Text) (before : List Note) :
    (Noted.runFrom (compile colors format) before).1 =
      match nodes colors format with
      | .error e => .error e.fault
      | .ok nodes => ofRun (runNodes colors nodes) := by
  unfold compile nodes
  rw [Noted.runFrom_bind, Noted.runFrom_report]
  simp only [Noted.runFrom_bind, runFrom_compile]
  cases Node.read (registry colors).knows format.fieldsAsDirectives with
  | error e => rfl
  | ok nodes => exact runFrom_run (program colors nodes) _

theorem outcome_compile (colors : Bool) (format : Text) :
    (compile colors format).outcome.1 =
      match nodes colors format with
      | .error e => .error e.fault
      | .ok nodes => ofRun (runNodes colors nodes) :=
  runFrom_compileFormat colors format []

theorem outcome_compile_eq_ok {colors : Bool} {format : Text} {f : Formatter} :
    (compile colors format).outcome.1 = .ok f ↔
      ∃ parsed text reached, nodes colors format = .ok parsed ∧
        runNodes colors parsed = (.ok text, reached) ∧ f = ofTemplate text reached.2.conditionals := by
  rw [outcome_compile]
  constructor
  · intro compiled
    cases h : nodes colors format with
    | error e => simp [h] at compiled
    | ok parsed =>
        simp only [h] at compiled
        rcases ran : runNodes colors parsed with ⟨_ | text, reached⟩
        · simp [ran, ofRun] at compiled
        · rw [ran, ofRun, Except.ok.injEq] at compiled
          exact ⟨parsed, text, reached, rfl, ran, compiled.symm⟩
  · rintro ⟨parsed, text, reached, read, ran, rfl⟩
    simp only [read, ran, ofRun]

end

end Formatter

end LogStyle
