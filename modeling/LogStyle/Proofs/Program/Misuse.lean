import LogStyle.Proofs.Program.Style

/-! # Misused directives

A program of built-in directives fails at the first call whose arguments do not fit the directive or ask for a colour
that the terminal does not have, and at nothing else, as long as the terminal has the colours of the style it starts
from. The call that fails leaves nothing behind: what has been reached is what the calls before it have reached.
-/

namespace LogStyle

theorem typeProblem?_eq (params : List ParamType) (args : List Arg) :
    typeProblem? params (args.map Arg.toValue) = (params.zip args).findSome? fun pair =>
      if pair.1.accepts pair.2.toValue then none else some (.type pair.1 pair.2.toValue.typeName) := by
  rw [typeProblem?, List.zip_map_right, List.findSome?_map]
  rfl

namespace Directive

/-- Arguments that a directive cannot be called with. -/
inductive Misused (d : Directive) (args : List Arg) : Prop where
  | count (wrong : args.length ≠ d.params.length)
  | type {param : ParamType} {arg : Arg} (member : (param, arg) ∈ d.params.zip args)
      (wrong : param.accepts arg.toValue = false)
  | color {n : Int} (member : (.number, .number n) ∈ d.params.zip args) (unknown : ¬ Style.IsColor n)

/-- What the error of such a call is about: the number of the arguments, else the first of them that has the wrong
    type, else a colour. -/
inductive Blames (d : Directive) (name : Text) (args : List Arg) (position : Nat) : ExecuteError → Prop where
  | count (wrong : args.length ≠ d.params.length) :
      Blames d name args position (.badArgs name position (.count d.name d.params.length args.length))
  | type {front back : List (ParamType × Arg)} {param : ParamType} {arg : Arg} (count : args.length = d.params.length)
      (here : d.params.zip args = front ++ (param, arg) :: back)
      (fit : ∀ pair ∈ front, pair.1.accepts pair.2.toValue = true) (wrong : param.accepts arg.toValue = false) :
      Blames d name args position (.badArgs name position (.type param arg.toValue.typeName))
  | color {n : Int} (count : args.length = d.params.length)
      (fit : ∀ pair ∈ d.params.zip args, pair.1.accepts pair.2.toValue = true)
      (member : (.number, .number n) ∈ d.params.zip args) (unknown : ¬ Style.IsColor n) {e : ExecuteError}
      (told : e = if Numeral.isLong n then .longNumber name position else .noSuchColor n) :
      Blames d name args position e

variable {d : Directive} {args : List Arg}

theorem exists_effect?_iff :
    (∃ effect, d.effect? args = some effect) ↔
      args.length = d.params.length ∧ ∀ pair ∈ d.params.zip args, pair.1.accepts pair.2.toValue = true := by
  rw [← Option.isSome_iff_exists, isSome_effect?_iff, problem?, argProblem?, List.length_map, typeProblem?_eq]
  by_cases count : args.length = d.params.length
  · simp [count]
  · simp [count]

theorem mem_color?_iff {effect : Effect} (fits : d.effect? args = some effect) {n : Int} :
    n ∈ effect.color? ↔ (.number, .number n) ∈ d.params.zip args := by
  unfold effect? at fits
  split at fits <;> cases fits <;> simp [params, Effect.color?, eq_comm]

theorem not_misused_iff :
    ¬ d.Misused args ↔ ∃ effect, d.effect? args = some effect ∧ ∀ color ∈ effect.color?, Style.IsColor color := by
  constructor
  · intro fine
    have count : args.length = d.params.length := by_contra fun wrong => fine (.count wrong)
    have fit : ∀ pair ∈ d.params.zip args, pair.1.accepts pair.2.toValue = true :=
      fun _ member => eq_true_of_ne_false fun wrong => fine (.type member wrong)
    obtain ⟨effect, fits⟩ := exists_effect?_iff.2 ⟨count, fit⟩
    exact ⟨effect, fits, fun n asked => by_contra fun unknown => fine (.color ((mem_color?_iff fits).1 asked) unknown)⟩
  · rintro ⟨effect, fits, colored⟩ misused
    obtain ⟨count, fit⟩ := exists_effect?_iff.1 ⟨effect, fits⟩
    cases misused with
    | count wrong => exact wrong count
    | type member wrong => simp [fit _ member] at wrong
    | color member unknown => exact unknown (colored _ ((mem_color?_iff fits).2 member))

theorem exists_problem (unfit : d.effect? args = none) (name : Text) (position : Nat) :
    ∃ problem, d.effect args = .error problem ∧ d.Blames name args position (.badArgs name position problem) := by
  simp only [effect, unfit]
  refine ⟨_, rfl, ?_⟩
  rw [problem?, argProblem?, List.length_map, typeProblem?_eq]
  by_cases count : args.length = d.params.length
  · rw [if_pos count]
    cases found : (d.params.zip args).findSome? _ with
    | none =>
        have fit := List.findSome?_eq_none_iff.1 found
        obtain ⟨effect, fits⟩ := exists_effect?_iff.2 ⟨count, by simpa using fit⟩
        cases unfit.symm.trans fits
    | some problem =>
        obtain ⟨front, ⟨param, arg⟩, back, here, named, fit⟩ := List.findSome?_eq_some_iff.1 found
        split at named
        · cases named
        · next wrong =>
            cases named
            exact .type count here (by simpa using fit) (eq_false_of_ne_true wrong)
  · rw [if_neg count]
    exact .count count

theorem Blames.kind {name : Text} {position : Nat} {e : ExecuteError} (blames : d.Blames name args position e) :
    e.fault.kind = .execute := by
  cases blames with
  | count | type => rfl
  | color _ _ _ _ told =>
      rw [told]
      split <;> rfl

end Directive

namespace Program

variable {σ : Type} (p : Program σ)

/-- A call of a built-in directive with arguments that it cannot be called with. -/
def Misused (node : Node) : Prop :=
  ∃ name args position d, node = .call name args position ∧ p.registry.find? name = some (.builtin d) ∧ d.Misused args

/-- An error that is about a call of a built-in directive. -/
def Blames (node : Node) (e : ExecuteError) : Prop :=
  ∃ name args position d, node = .call name args position ∧ p.registry.find? name = some (.builtin d) ∧
    d.Blames name args position e

/-- A node that calls nothing but a built-in directive. -/
def CallsBuiltin (node : Node) : Prop :=
  ∀ name args position, node = .call name args position → ∃ d, p.registry.find? name = some (.builtin d)

variable {p} {node : Node} {nodes : List Node} {at_ : Reached σ}

theorem refusal?_of_unknown {effect : Effect} {n : Int} (asked : n ∈ effect.color?) (unknown : ¬ Style.IsColor n)
    {name : Text} {position : Nat} {s : Style} :
    refusal? name position effect s =
      some (if Numeral.isLong n then .longNumber name position else .noSuchColor n) := by
  have missing : (effect.color?.filter fun color => ¬ Style.IsColor color) = some n :=
    Option.filter_eq_some_iff.2 ⟨asked, decide_eq_true unknown⟩
  rw [refusal?, missing]

theorem exists_runNode_of_not_misused (builtin : p.CallsBuiltin node) (fine : ¬ p.Misused node)
    (inRange : at_.1.InRange) : ∃ t reached, p.runNode node at_ = (.ok t, reached) := by
  cases node with
  | text t => exact ⟨t, at_, rfl⟩
  | call name args position =>
      obtain ⟨d, meaning⟩ := builtin name args position rfl
      have own : ¬ d.Misused args := fun misused => fine ⟨name, args, position, d, rfl, meaning, misused⟩
      obtain ⟨effect, fits, colored⟩ := Directive.not_misused_iff.1 own
      have short : ∀ color ∈ effect.recalled at_.1, Numeral.isLong color = false :=
        Effect.isLong_of_mem_recalled inRange
      exact ⟨_, _, (runCall_eq_ok meaning).2 ⟨effect, fits, runEffect_eq_ok.2 ⟨⟨colored, short⟩, rfl, rfl⟩⟩⟩

theorem exists_runNode_of_misused (misused : p.Misused node) (at_ : Reached σ) :
    ∃ e, p.runNode node at_ = (.error e, at_) ∧ p.Blames node e := by
  obtain ⟨name, args, position, d, rfl, meaning, misused⟩ := misused
  have about {e : ExecuteError} (blames : d.Blames name args position e) :
      p.Blames (.call name args position) e := ⟨name, args, position, d, rfl, meaning, blames⟩
  simp only [runNode, runCall, meaning]
  cases fits : d.effect? args with
  | none =>
      obtain ⟨problem, failed, blames⟩ := Directive.exists_problem fits name position
      rw [failed]
      exact ⟨_, rfl, about blames⟩
  | some effect =>
      obtain ⟨count, fit⟩ := Directive.exists_effect?_iff.1 ⟨effect, fits⟩
      have asks : ∃ n ∈ effect.color?, ¬ Style.IsColor n := by
        by_contra none
        have colored : ∀ n ∈ effect.color?, Style.IsColor n := fun n asked =>
          by_contra fun unknown => none ⟨n, asked, unknown⟩
        exact Directive.not_misused_iff.2 ⟨effect, fits, colored⟩ misused
      obtain ⟨n, asked, unknown⟩ := asks
      simp only [Directive.effect, fits, runEffect, refusal?_of_unknown asked unknown]
      exact ⟨_, rfl, about (.color count fit ((Directive.mem_color?_iff fits).1 asked) unknown rfl)⟩

theorem runNodes_ends (builtin : ∀ node ∈ nodes, p.CallsBuiltin node) (inRange : at_.1.InRange) :
    ((∀ node ∈ nodes, ¬ p.Misused node) ∧ ∃ t reached, p.runNodes nodes at_ = (.ok t, reached)) ∨
      ∃ front node back t reached e, nodes = front ++ node :: back ∧ (∀ other ∈ front, ¬ p.Misused other) ∧
        p.Misused node ∧ p.Blames node e ∧ p.runNodes front at_ = (.ok t, reached) ∧
        p.runNodes nodes at_ = (.error e, reached) := by
  induction nodes generalizing at_ with
  | nil => exact .inl ⟨by simp, [], at_, rfl⟩
  | cons node rest ih =>
      simp only [runNodes_cons]
      by_cases misused : p.Misused node
      · obtain ⟨e, failed, blames⟩ := exists_runNode_of_misused misused at_
        exact .inr ⟨[], node, rest, [], at_, e, rfl, by simp, misused, blames, rfl, by rw [failed, Sequel.andThen_error]⟩
      · obtain ⟨here, rest⟩ := List.forall_mem_cons.1 builtin
        obtain ⟨t, between, ran⟩ := exists_runNode_of_not_misused here misused inRange
        have kept := p.inRange_of_runNode node inRange
        rw [ran] at kept
        rcases ih rest kept with
          ⟨fine, u, reached, later⟩ | ⟨front, bad, back, u, reached, e, whole, fine, wrong, blames, before, failed⟩
        · refine .inl ⟨List.forall_mem_cons.2 ⟨misused, fine⟩, t ++ u, reached, ?_⟩
          rw [ran, Sequel.andThen_ok, later]
          rfl
        · refine .inr ⟨node :: front, bad, back, t ++ u, reached, e, by rw [whole, List.cons_append],
            List.forall_mem_cons.2 ⟨misused, fine⟩, wrong, blames, ?_, ?_⟩
          · rw [runNodes_cons, ran, Sequel.andThen_ok, before]
            rfl
          · rw [ran, Sequel.andThen_ok, failed]
            rfl

/-- A program of built-in directives fails exactly when one of its calls is misused, whatever style it starts from
    among those whose colours the terminal has. It fails with an error about the first such call, and it has
    reached what the nodes before that call lead to. -/
theorem execute_fails_iff (builtin : ∀ node ∈ p.nodes, p.CallsBuiltin node) (inRange : at_.1.InRange) :
    ((∃ e reached, p.execute at_ = (.error e, reached)) ↔ ∃ node ∈ p.nodes, p.Misused node) ∧
      ∀ e reached, p.execute at_ = (.error e, reached) →
        e.fault.kind = .execute ∧ ∃ front node back t, p.nodes = front ++ node :: back ∧
          (∀ other ∈ front, ¬ p.Misused other) ∧ p.Misused node ∧ p.Blames node e ∧
            execute { p with nodes := front } at_ = (.ok t, reached) := by
  rcases runNodes_ends builtin inRange with
    ⟨fine, t, reached, ran⟩ | ⟨front, node, back, t, reached, e, whole, fine, misused, blames, before, failed⟩
  · have never (e : ExecuteError) (reached' : Reached σ) : p.execute at_ ≠ (.error e, reached') := by
      simp [execute, ran]
    refine ⟨iff_of_false ?_ ?_, fun e reached' failed => absurd failed (never e reached')⟩
    · rintro ⟨e, reached', failed⟩
      exact never e reached' failed
    · rintro ⟨node, member, misused⟩
      exact fine node member misused
  · refine ⟨iff_of_true ⟨e, reached, failed⟩ ⟨node, by simp [whole], misused⟩, ?_⟩
    intro e' reached' failed'
    cases failed.symm.trans failed'
    have kind : e.fault.kind = .execute := by
      obtain ⟨_, _, _, d, -, -, about⟩ := blames
      exact about.kind
    have same : execute { p with nodes := front } at_ = p.runNodes front at_ :=
      @runNodes_congr σ { p with nodes := front } p rfl rfl front at_
    exact ⟨kind, front, node, back, t, whole, fine, misused, blames, same.trans before⟩

theorem callsBuiltin_of_read [CharNames] {colors : Bool} {source : Text} {p : PureProgram}
    (found : read [] colors source = .ok p) :
    ∀ node ∈ p.nodes, p.CallsBuiltin node := by
  rintro _ member name args position rfl
  have builtin := builtin_of_read found
  have known := builtin.known name args position member
  rw [Registry.knows, builtin.registry, Registry.find?_builtins, Option.isSome_map] at known
  obtain ⟨d, named⟩ := Option.isSome_iff_exists.1 known
  exact ⟨d, by rw [builtin.registry, Registry.find?_builtins, named]; rfl⟩

section

attribute [local instance] CharNames.none

/-- A colour that the terminal does not have stops a program in front of a call with an argument too many. -/
theorem execute_fails_at_unknown_color :
    ∃ p : PureProgram, read [] true "\x7bfg 1\x7da\x7bbg 300\x7d\x7bbold 1\x7d" = .ok p ∧
      Style.plain.InRange ∧ (∃ node ∈ p.nodes, Program.Misused p node) ∧ ∃ reached front node back t,
        Program.execute p (Style.plain, ()) = (.error (.noSuchColor 300), reached) ∧ p.nodes = front ++ node :: back ∧
          Program.Blames p node (.noSuchColor 300) ∧
          Program.execute { p with nodes := front } (Style.plain, ()) = (.ok t, reached) := by
  let nodes : List Node :=
    [.call "fg" [.number 1] 0, .text "a", .call "bg" [.number 300] 7, .call "bold" [.number 1] 15]
  have found : read (σ := Unit) [] true "\x7bfg 1\x7da\x7bbg 300\x7d\x7bbold 1\x7d" =
      .ok ⟨Registry.builtins, nodes, true⟩ := by
    have parsed : Node.read (Registry.builtins (σ := Unit)).knows "\x7bfg 1\x7da\x7bbg 300\x7d\x7bbold 1\x7d" =
        .ok nodes := by decide +kernel
    exact congrArg (Except.map _) parsed
  have failed : execute ⟨Registry.builtins, nodes, true⟩ (Style.plain, ()) =
      (.error (.noSuchColor 300), { Style.plain with foreground := some 1 }, ()) := by decide +kernel
  have inRange : ((Style.plain, ()) : Reached Unit).1.InRange := Style.inRange_plain
  obtain ⟨fails, first⟩ := execute_fails_iff (callsBuiltin_of_read found) inRange
  obtain ⟨-, front, node, back, t, whole, -, -, blames, before⟩ := first _ _ failed
  exact ⟨_, found, Style.inRange_plain, fails.1 ⟨_, _, failed⟩, _, front, node, back, t, failed, whole, blames, before⟩

end

end Program

end LogStyle
