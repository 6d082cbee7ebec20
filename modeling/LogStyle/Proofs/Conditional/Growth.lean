import LogStyle.Proofs.Formatter.Compile
import LogStyle.Proofs.Text.Numeral
import LogStyle.Proofs.Text.Sequel

/-! # How ledgers grow

While a format is compiled its directives either leave the conditional styles alone or enter one more behind
the others and write the field of its number. So a number, once written, keeps naming the style it was
written for, and every number in use is short enough to be read again.
-/

namespace LogStyle

theorem Signature.eq_of_problem?_eq_none {s : Signature} {given : Nat} (fits : s.problem? given = none) :
    given = s.params.length := by
  unfold problem? at fits
  split at fits
  · cases fits
  · split at fits
    · cases fits
    · omega

theorem Signature.problem?_length (s : Signature) : s.problem? s.params.length = none := by
  simp [problem?]

namespace Registry

variable {σ : Type}

theorem find?_insert (r : Registry σ) (name key : Text) (entry : Entry σ) :
    (r.insert name entry).find? key = if key = name then some entry else r.find? key := by
  induction r with
  | nil =>
      by_cases same : key = name
      · simp [insert, find?, same]
      · simp [insert, find?, same, List.lookup_cons, beq_false_of_ne same]
  | cons head rest ih =>
      obtain ⟨n, e⟩ := head
      simp only [find?] at ih ⊢
      by_cases taken : n = name
      · by_cases same : key = name
        · simp [insert, taken, same]
        · simp [insert, taken, same, List.lookup_cons, beq_false_of_ne same]
      · rw [insert, if_neg taken, List.lookup_cons, ih, List.lookup_cons]
        by_cases here : key = n
        · subst here
          simp [taken]
        · simp [beq_false_of_ne here]

theorem lookup_map {α β : Type} (key : α → Text) (f : α → β) (xs : List α) (name : Text) :
    (xs.map fun x => (key x, f x)).lookup name = (xs.find? (key · = name)).map f := by
  induction xs with
  | nil => rfl
  | cons x rest ih =>
      rw [List.map_cons, List.lookup_cons, ih, List.find?_cons]
      by_cases same : name = key x
      · simp [same]
      · simp [beq_false_of_ne same, Ne.symm same]

theorem find?_builtins (name : Text) :
    (builtins : Registry σ).find? name = (Directive.all.find? (·.name = name)).map .builtin :=
  lookup_map Directive.name Entry.builtin Directive.all name

theorem find?_foldl_insert (extensions : List (Text × Extension σ)) (r : Registry σ) (key : Text)
    (distinct : (extensions.map Prod.fst).Nodup) :
    (extensions.foldl (fun r (name, extension) => r.insert name (.extension extension)) r).find? key =
      match extensions.lookup key with
      | some e => some (.extension e)
      | none => r.find? key := by
  induction extensions generalizing r with
  | nil => rfl
  | cons head rest ih =>
      obtain ⟨name, e⟩ := head
      simp only [List.map_cons, List.nodup_cons] at distinct
      rw [List.foldl_cons, ih _ distinct.2, find?_insert, List.lookup_cons]
      by_cases same : key = name
      · subst same
        have absent : rest.lookup key = none := by
          rw [List.lookup_eq_none_iff]
          intro pair member
          simp only [bne_iff_ne, ne_eq]
          intro clash
          exact distinct.1 (clash ▸ List.mem_map_of_mem member)
        simp [absent]
      · simp [beq_false_of_ne same, same]

end Registry

namespace Ledger

/-- The directive of formats with a name. -/
def Action.ofName? (name : Text) : Option Action :=
  Action.all.find? (·.name = name)

theorem Action.ofName?_name (a : Action) : ofName? a.name = some a := by
  cases a with
  | on level => cases level <;> rfl
  | field | onLevel | store | restore => rfl

namespace Action

/-- The level and the fragment of a directive for a conditional style. -/
def fragment? : Action → List Arg → Option (Arg × Text)
  | .onLevel, [level, .text fragment] => some (level, fragment)
  | .on level, [.text fragment] => some (.text level.lower, fragment)
  | _, _ => none

/-- All that a directive of formats can do: from a ledger it writes a text and leads to a ledger. -/
inductive Does [CharNames] (colors : Bool) (outer : Style) (l : Ledger) : Action → List Arg → Text → Ledger → Prop where
  | field (name : Arg) : Does colors outer l .field [name] (placeholder name.toValue.shown) l
  | store : Does colors outer l .store [] (placeholder storeName) l
  | restore : Does colors outer l .restore [] (placeholder restoreName) l
  | record {a : Action} {args : List Arg} {level : Arg} {fragment t : Text} {l' : Ledger}
      (conditional : a.fragment? args = some (level, fragment))
      (recorded : l.record colors outer level.toValue (.ofText fragment) = (.ok t, l')) :
      Does colors outer l a args t l'

theorem run_eq_ok [CharNames] {a : Action} {colors : Bool} {outer : Style} {args : List Arg} {t : Text} {l l' : Ledger} :
    a.run colors (some outer) (args.map Arg.toValue) l = (.ok t, l') ↔ a.Does colors outer l args t l' := by
  constructor
  · intro ran
    unfold Action.run at ran
    split at ran
    · cases ran
    next fits =>
    have count := Signature.eq_of_problem?_eq_none fits
    rw [List.length_map] at count
    cases a with
    | field =>
        obtain ⟨name, rfl⟩ := List.length_eq_one_iff.1 count
        cases ran
        exact .field name
    | store =>
        obtain rfl := List.length_eq_zero_iff.1 count
        cases ran
        exact .store
    | restore =>
        obtain rfl := List.length_eq_zero_iff.1 count
        cases ran
        exact .restore
    -- Both ways to name a level come to the same record; only a fragment that is a text can be run.
    | onLevel =>
        rcases args with _ | ⟨level, _ | ⟨fragment, _ | ⟨extra, rest⟩⟩⟩
        · cases count
        · cases count
        · cases fragment with
          | number n => cases ran
          | text fragment => exact .record rfl ran
        · cases count
    | on level =>
        obtain ⟨fragment, rfl⟩ := List.length_eq_one_iff.1 count
        cases fragment with
        | number n => cases ran
        | text fragment =>
            have conditional : fragment? (.on level) [.text fragment] = some (.text level.lower, fragment) := rfl
            exact .record conditional ran
  · intro does
    cases does with
    | field name => rfl
    | store => rfl
    | restore => rfl
    | record conditional recorded =>
        rw [← recorded]
        unfold fragment? at conditional
        split at conditional
        · cases conditional
          rfl
        · cases conditional
          rfl
        · cases conditional

end Action

/-- What a directive of a format may do to the conditional styles: nothing, or enter one more and write the
    field of its number. -/
inductive Step (l : Ledger) : Except Fault Text × Ledger → Prop where
  | keeps (result : Except Fault Text) {l' : Ledger} (same : l'.conditionals = l.conditionals) :
      Step l (result, l')
  | enters (c : Conditional) {l' : Ledger} (short : Numeral.isLong l.conditionals.length = false)
      (more : l'.conditionals = l.conditionals ++ [c]) :
      Step l (.ok (placeholder (conditionalName ++ ":" ++ Text.ofNat l.conditionals.length)), l')

theorem enter_step (l : Ledger) (c : Conditional) : Step l (l.enter c) := by
  unfold enter
  split
  · exact .keeps _ rfl
  · next short => exact .enters c (by simpa using short) rfl

theorem wayBack_conditionals [CharNames] (colors : Bool) (outer : Style) (l : Ledger) :
    (wayBack colors outer l).2.conditionals = l.conditionals := by
  unfold wayBack
  split
  · split
    · rfl
    · split <;> rfl
  · rfl

theorem Step.of_same {l l' : Ledger} (same : l'.conditionals = l.conditionals)
    {result : Except Fault Text × Ledger} (step : Step l' result) : Step l result := by
  cases step with
  | keeps result kept => exact .keeps result (kept.trans same)
  | enters c short more =>
      rw [same] at short more ⊢
      exact .enters c short more

theorem runFragment_step [CharNames] (colors : Bool) (outer : Style) (level fragment : Value) (p : PureProgram)
    (l : Ledger) : Step l (runFragment colors outer level fragment p l) := by
  have kept := wayBack_conditionals colors outer l
  unfold runFragment
  rcases back : wayBack colors outer l with ⟨_ | previous, l'⟩
  · rw [back] at kept
    exact .keeps _ kept
  · rw [back] at kept
    simp only
    split
    · exact .keeps _ kept
    · split
      · exact .keeps _ kept
      · exact (enter_step l' _).of_same kept

theorem record_step [CharNames] (colors : Bool) (outer : Style) (level fragment : Value) (l : Ledger) :
    Step l (record colors outer level fragment l) := by
  unfold record
  split
  · split
    · split
      · exact .keeps _ rfl
      · exact .keeps _ rfl
    · next p _ =>
        have kept : (l.report p.note).conditionals = l.conditionals := rfl
        exact (runFragment_step colors outer level _ p (l.report p.note)).of_same kept
  · exact .keeps _ rfl

theorem Action.run_step [CharNames] (a : Action) (colors : Bool) (outer : Option Style) (args : List Value)
    (l : Ledger) : Step l (a.run colors outer args l) := by
  have conditional (outer : Option Style) (level fragment : Value) :
      Step l (Action.conditional colors outer level fragment l) := by
    cases outer with
    | none => exact .keeps _ rfl
    | some outer => exact record_step colors outer level fragment l
  unfold Action.run
  split
  · exact .keeps _ rfl
  · unfold Action.perform
    split
    · exact .keeps _ rfl
    · exact conditional _ _ _
    · exact conditional _ _ _
    · exact .keeps _ rfl
    · exact .keeps _ rfl
    · exact .keeps _ rfl

/-- Every number in use can be written out and read again. -/
def Numbered (l : Ledger) : Prop :=
  ∀ n < l.conditionals.length, Numeral.isLong n = false

theorem Step.prefix_conditionals {l : Ledger} {result : Except Fault Text × Ledger} (step : Step l result) :
    l.conditionals <+: result.2.conditionals := by
  cases step with
  | keeps _ same => exact same ▸ List.prefix_rfl
  | enters c _ more => exact more ▸ List.prefix_append _ _

theorem Step.numbered {l : Ledger} {result : Except Fault Text × Ledger} (step : Step l result)
    (numbered : l.Numbered) : result.2.Numbered := by
  cases step with
  | keeps _ same => simpa only [Numbered, same] using numbered
  | enters c short more =>
      intro n below
      simp only [more, List.length_append, List.length_singleton] at below
      rcases Nat.lt_succ_iff_lt_or_eq.1 below with earlier | rfl
      · exact numbered n earlier
      · exact short

end Ledger

namespace Formatter

section

variable [CharNames]

theorem find?_registry (colors : Bool) (name : Text) :
    (registry colors).find? name =
      match Ledger.Action.ofName? name with
      | some a => some (.extension (a.extension colors))
      | none => (Directive.all.find? (·.name = name)).map .builtin := by
  have distinct : ((Ledger.Action.extensions colors).map Prod.fst).Nodup := by
    rw [Ledger.Action.extensions, List.map_map]
    exact (by decide : (Ledger.Action.all.map Ledger.Action.name).Nodup)
  unfold registry Registry.withExtensions
  rw [Registry.find?_foldl_insert _ _ _ distinct, Ledger.Action.extensions, Registry.lookup_map]
  unfold Ledger.Action.ofName?
  cases Ledger.Action.all.find? (·.name = name) with
  | some a => rfl
  | none => exact Registry.find?_builtins name

theorem knows_of_ofName? {name : Text} {a : Ledger.Action} (named : Ledger.Action.ofName? name = some a)
    (colors : Bool) : (registry colors).knows name = true := by
  rw [Registry.knows, find?_registry, named]
  rfl

theorem runCall_of_ofName? {name : Text} {a : Ledger.Action} (named : Ledger.Action.ofName? name = some a)
    (colors : Bool) (nodes : List Node) (args : List Arg) (position : Nat) (at_ : Program.Reached Ledger) :
    (program colors nodes).runCall name args position at_ =
      match a.run colors (some at_.1) (args.map Arg.toValue) at_.2 with
      | (.ok t, l) => (.ok t, at_.1, l)
      | (.error fault, l) => (.error (.ofExtension name position fault), at_.1, l) := by
  simp only [Program.runCall, program, find?_registry, named, Ledger.Action.extension]
  rcases a.run colors (some at_.1) (args.map Arg.toValue) at_.2 with ⟨_ | _, _⟩ <;> rfl

theorem runNode_grows (colors : Bool) (nodes : List Node) (node : Node) (at_ : Program.Reached Ledger) :
    at_.2.conditionals <+: ((program colors nodes).runNode node at_).2.2.conditionals ∧
      (at_.2.Numbered → ((program colors nodes).runNode node at_).2.2.Numbered) := by
  have kept {reached : Program.Reached Ledger} (same : reached.2 = at_.2) :
      at_.2.conditionals <+: reached.2.conditionals ∧ (at_.2.Numbered → reached.2.Numbered) := by
    rw [same]
    exact ⟨List.prefix_rfl, id⟩
  cases node with
  | text t => exact kept rfl
  | call name args position =>
      simp only [Program.runNode, Program.runCall, program, find?_registry]
      cases Ledger.Action.ofName? name with
      | some a =>
          have step := a.run_step colors (some at_.1) (args.map Arg.toValue) at_.2
          simp only [Ledger.Action.extension]
          rcases ran : a.run colors (some at_.1) (args.map Arg.toValue) at_.2 with ⟨_ | t, ledger⟩
          · rw [ran] at step
            exact ⟨step.prefix_conditionals, step.numbered⟩
          · rw [ran] at step
            exact ⟨step.prefix_conditionals, step.numbered⟩
      | none =>
          cases Directive.all.find? (·.name = name) with
          | none => exact kept rfl
          | some d =>
              simp only [Option.map_some]
              cases d.effect args with
              | error problem => exact kept rfl
              | ok effect =>
                  refine kept ?_
                  simp only [Program.runEffect]
                  split <;> rfl

theorem runNodes_grows (colors : Bool) (all nodes : List Node) (at_ : Program.Reached Ledger) :
    at_.2.conditionals <+: ((program colors all).runNodes nodes at_).2.2.conditionals ∧
      (at_.2.Numbered → ((program colors all).runNodes nodes at_).2.2.Numbered) := by
  induction nodes generalizing at_ with
  | nil => exact ⟨List.prefix_rfl, id⟩
  | cons node rest ih =>
      obtain ⟨adds, numbered⟩ := runNode_grows colors all node at_
      rw [Program.runNodes_cons]
      rcases ran : (program colors all).runNode node at_ with ⟨_ | t, reached⟩
      · rw [ran] at adds numbered
        exact ⟨adds, numbered⟩
      · rw [ran] at adds numbered
        obtain ⟨addsMore, numberedAfter⟩ := ih reached
        exact ⟨adds.trans addsMore, fun start => numberedAfter (numbered start)⟩

end

end Formatter

end LogStyle
