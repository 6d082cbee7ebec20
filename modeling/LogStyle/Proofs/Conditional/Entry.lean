import LogStyle.Proofs.Formatter.Direct

/-! # Entering conditional styles

All that can come of a directive that enters a conditional style, provided there is a way back to the style in
force: its fragment cannot be read or run and a diagnostic is left, or the style is entered. It fails in two
cases only, both of them about numbers with too many digits.
-/

namespace LogStyle

@[simp] theorem Arg.toValue_text (t : Text) : (Arg.text t).toValue = .ofText t := rfl

namespace Ledger

/-- What is written for a conditional style, and the conditional styles there are afterwards. -/
inductive Recorded [CharNames] (colors : Bool) (outer : Style) (level : Arg) (fragment previous : Text) (l : Ledger) :
    Except Fault Text → List Conditional → Prop where
  /-- The fragment cannot be read. -/
  | unread (e : CompileError) (read : Program.read (σ := Unit) [] colors fragment = .error e)
      (kind : e.fault.kind = .compile) :
      Recorded colors outer level fragment previous l (.ok (diagnostic "COMPILE" e.fault.message)) l.conditionals
  /-- A number in the fragment has too many digits. -/
  | escaped (e : CompileError) (read : Program.read (σ := Unit) [] colors fragment = .error e)
      (kind : e.fault.kind ≠ .compile) :
      Recorded colors outer level fragment previous l (.error e.fault) l.conditionals
  /-- The fragment cannot be run. -/
  | broken (p : PureProgram) (e : ExecuteError) (read : Program.read [] colors fragment = .ok p)
      (ran : (PureProgram.execute p outer).1 = .error e) :
      Recorded colors outer level fragment previous l (.ok (diagnostic "EXECUTE" e.fault.message)) l.conditionals
  /-- The level is a number. -/
  | nameless (p : PureProgram) (sequence : Text) (read : Program.read [] colors fragment = .ok p)
      (ran : (PureProgram.execute p outer).1 = .ok sequence) (n : Int) (number : level = .number n) (fault : Fault) :
      Recorded colors outer level fragment previous l (.error fault) l.conditionals
  /-- There are too many conditional styles to number one more. -/
  | full (p : PureProgram) (sequence : Text) (read : Program.read [] colors fragment = .ok p)
      (ran : (PureProgram.execute p outer).1 = .ok sequence) (long : Numeral.isLong l.conditionals.length = true) :
      Recorded colors outer level fragment previous l (.error ⟨.value, Numeral.longMessage⟩) l.conditionals
  | entered (p : PureProgram) (sequence : Text) (read : Program.read [] colors fragment = .ok p)
      (ran : (PureProgram.execute p outer).1 = .ok sequence) (target : Text) (named : level = .text target)
      (short : Numeral.isLong l.conditionals.length = false) :
      Recorded colors outer level fragment previous l
        (.ok (placeholder (conditionalName ++ ":" ++ Text.ofNat l.conditionals.length)))
        (l.conditionals ++ [⟨target.lower, sequence, previous⟩])

theorem recorded [CharNames] {colors : Bool} {outer : Style} {previous : Text}
    (back : Walk.wayBack colors outer = some previous)
    (level : Arg) (fragment : Text) (l : Ledger) :
    Recorded colors outer level fragment previous l (l.record colors outer level.toValue (.ofText fragment)).1
      (l.record colors outer level.toValue (.ofText fragment)).2.conditionals := by
  cases read : Program.read (σ := Unit) [] colors fragment with
  | error e =>
      by_cases kind : e.fault.kind = .compile
      · simp only [record, Value.ofText, read, if_pos kind]
        exact .unread e read kind
      · simp only [record, Value.ofText, read, if_neg kind]
        exact .escaped e read kind
  | ok p =>
      have found := Walk.toOption_wayBack colors outer (l.report p.note)
      have kept := wayBack_conditionals colors outer (l.report p.note)
      rw [back] at found
      rcases way : wayBack colors outer (l.report p.note) with ⟨fault | previous', l'⟩
      · simp [way, Except.toOption] at found
      · rw [way] at found kept
        obtain rfl : previous' = previous := Option.some.inj found
        have same : l'.conditionals = l.conditionals := kept
        cases ran : (PureProgram.execute p outer).1 with
        | error e =>
            simp only [record, Value.ofText, read, runFragment, way, ran]
            change Recorded _ _ _ _ _ _ _ l'.conditionals
            rw [same]
            exact .broken p e read ran
        | ok sequence =>
            cases level with
            | number n =>
                simp only [record, Value.ofText, read, runFragment, way, ran, Arg.toValue, Ledger.target, same]
                exact .nameless p sequence read ran n rfl _
            | text target =>
                simp only [record, Value.ofText, read, runFragment, way, ran, Arg.toValue, Ledger.target, enter, same]
                by_cases long : Numeral.isLong l.conditionals.length = true
                · simp only [long, if_true, same]
                  exact .full p sequence read ran long
                · simp only [long]
                  exact .entered p sequence read ran target rfl (Bool.eq_false_iff.2 long)

theorem Recorded.of_grown [CharNames] {colors : Bool} {outer : Style} {target fragment previous : Text} {l : Ledger}
    {result : Except Fault Text} {conditionals : List Conditional}
    (recorded : Recorded colors outer (.text target) fragment previous l result conditionals)
    (grown : conditionals.length = l.conditionals.length + 1) :
    ∃ sequence, (PureProgram.compileAndExecute [] colors fragment outer).outcome.1 = .ok sequence ∧
      Numeral.isLong l.conditionals.length = false ∧
      result = .ok (placeholder (conditionalName ++ ":" ++ Text.ofNat l.conditionals.length)) ∧
      conditionals = l.conditionals ++ [⟨target.lower, sequence, previous⟩] := by
  cases recorded with
  | unread | escaped | broken | nameless | full => omega
  | entered p sequence read ran target named short =>
      cases named
      refine ⟨sequence, ?_, short, rfl, rfl⟩
      rw [Walk.outcome_compileAndExecute, read]
      simp only [ran]

section
variable {colors : Bool} {outer : Style} {level : Arg} {fragment previous : Text} {l : Ledger}
  {result : Except Fault Text}
  {conditionals : List Conditional} {p : PureProgram}

section

variable [CharNames]

theorem Recorded.of_unread (recorded : Recorded colors outer level fragment previous l result conditionals)
    {e : CompileError} (read : Program.read (σ := Unit) [] colors fragment = .error e) (kind : e.fault.kind = .compile) :
    result = .ok (diagnostic "COMPILE" e.fault.message) ∧ conditionals = l.conditionals := by
  cases recorded with
  | unread e' read' =>
      obtain rfl : e = e' := by simpa [read] using read'
      exact ⟨rfl, rfl⟩
  | escaped e' read' other =>
      obtain rfl : e = e' := by simpa [read] using read'
      exact absurd kind other
  | broken p _ read' | nameless p _ read' | full p _ read' | entered p _ read' => simp [read] at read'

theorem Recorded.of_broken (recorded : Recorded colors outer level fragment previous l result conditionals)
    (read : Program.read [] colors fragment = .ok p) {e : ExecuteError}
    (failed : (PureProgram.execute p outer).1 = .error e) :
    result = .ok (diagnostic "EXECUTE" e.fault.message) ∧ conditionals = l.conditionals := by
  cases recorded with
  | unread e' read' | escaped e' read' => simp [read] at read'
  | broken p' e' read' ran =>
      obtain rfl : p = p' := by simpa [read] using read'
      obtain rfl : e = e' := by simpa [failed] using ran
      exact ⟨rfl, rfl⟩
  | nameless p' _ read' ran | full p' _ read' ran | entered p' _ read' ran =>
      obtain rfl : p = p' := by simpa [read] using read'
      simp [failed] at ran

theorem Recorded.of_entered {target : Text}
    (recorded : Recorded colors outer (.text target) fragment previous l result conditionals)
    (read : Program.read [] colors fragment = .ok p) {sequence : Text}
    (ran : (PureProgram.execute p outer).1 = .ok sequence) (short : Numeral.isLong l.conditionals.length = false) :
    result = .ok (placeholder (conditionalName ++ ":" ++ Text.ofNat l.conditionals.length)) ∧
      conditionals = l.conditionals ++ [⟨target.lower, sequence, previous⟩] := by
  cases recorded with
  | unread e' read' | escaped e' read' => simp [read] at read'
  | broken p' e' read' failed =>
      obtain rfl : p = p' := by simpa [read] using read'
      simp [ran] at failed
  | nameless p' _ read' ran' n number => cases number
  | full p' _ read' ran' long => simp [short] at long
  | entered p' output read' ran' target' named =>
      obtain rfl : p = p' := by simpa [read] using read'
      obtain rfl : sequence = output := by simpa [ran] using ran'
      cases named
      exact ⟨rfl, rfl⟩

theorem Recorded.of_outcome {target sequence : Text}
    (recorded : Recorded colors outer (.text target) fragment previous l result conditionals)
    (runs : (PureProgram.compileAndExecute [] colors fragment outer).outcome.1 = .ok sequence)
    (short : Numeral.isLong l.conditionals.length = false) :
    result = .ok (placeholder (conditionalName ++ ":" ++ Text.ofNat l.conditionals.length)) ∧
      conditionals.length = l.conditionals.length + 1 := by
  rw [Walk.outcome_compileAndExecute] at runs
  cases read : Program.read (σ := Unit) [] colors fragment with
  | error e => simp [read] at runs
  | ok p =>
      cases ran : (PureProgram.execute p outer).1 with
      | error e => simp [read, ran] at runs
      | ok output =>
          obtain ⟨written, rfl⟩ := recorded.of_entered read ran short
          exact ⟨written, by simp⟩

end

end

end Ledger

end LogStyle
