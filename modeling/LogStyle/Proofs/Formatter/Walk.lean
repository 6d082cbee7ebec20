import LogStyle.Proofs.Conditional.Growth
import LogStyle.Proofs.Formatter.Readable
import LogStyle.Proofs.Template.Pieces

/-! # Formats as interpreters

What a format means on a line can be said without compiling it: one walk over its nodes, carrying the style
in force and what is remembered, gives the text of the line at once. The walk knows no template, no fields
and no numbers of conditional styles. It fails where the line does, at a field that cannot be shown.
-/

namespace LogStyle

namespace Walk

variable [CharNames] (colors : Bool) (line : Line)

/-- What leads back to a style from any other: the output of its directives, run from the plain style.
    Nothing when colours are off. -/
def wayBack (s : Style) : Option Text :=
  if colors then (PureProgram.compileAndExecute [] colors s.directives Style.plain).outcome.1.toOption
  else some []

/-- A fragment for the lines of one level. It is run from the style in force; if it is broken, a diagnostic
    stands in its place on the lines of every level. -/
def conditional (level : Arg) (fragment : Text) (s : Style) (r : Restore) : Option (Text × Restore) :=
  match Program.read (σ := Unit) [] colors fragment with
  | .error e => some (Ledger.diagnostic "COMPILE" e.fault.message, r)
  | .ok p =>
    match (PureProgram.execute p s).1, level with
    | .error e, _ => some (Ledger.diagnostic "EXECUTE" e.fault.message, r)
    | .ok _, .number _ => none
    | .ok sequence, .text target =>
      if target.lower = line.level.lower then
        (wayBack colors s).map fun previous => (sequence, { r with previous, current := sequence })
      else some ([], r)

/-- A directive of formats. Only a field can fail. -/
def action (a : Ledger.Action) (args : List Arg) (s : Style) (r : Restore) : Option (Except Fault Text × Restore) :=
  match a, args with
  | .field, [name] => some (line.fieldText name.toValue.shown, r)
  | .onLevel, [level, .text fragment] => (conditional colors line level fragment s r).map fun (t, r) => (.ok t, r)
  | .on level, [.text fragment] =>
    (conditional colors line (.text level.lower) fragment s r).map fun (t, r) => (.ok t, r)
  | .store, [] => some (.ok [], { r with stored := r.previous ++ r.current })
  | .restore, [] => some (.ok (if r.stored = [] then r.previous else r.stored), r)
  | _, _ => none

def directive (d : Directive) (args : List Arg) (s : Style) : Option (Text × Style) :=
  match d.effect? args with
  | some effect =>
    if ∀ color ∈ effect.color?, Style.IsColor color then some (effect.output colors s, effect.apply s)
    else none
  | none => none

def node (n : Node) (s : Style) (r : Restore) : Option (Except Fault Text × Style × Restore) :=
  match n with
  | .text t => some (.ok t, s, r)
  | .call name args _ =>
    match Ledger.Action.ofName? name, Directive.all.find? (·.name = name) with
    | some a, _ => (action colors line a args s r).map fun (t, r) => (t, s, r)
    | none, some d => (directive colors d args s).map fun (t, s) => (.ok t, s, r)
    | none, none => none

def nodes : List Node → Style → Restore → Option (Except Fault Text × Style × Restore)
  | [], s, r => some (.ok [], s, r)
  | n :: rest, s, r =>
    match node colors line n s r with
    | none => none
    | some (.error fault, s, r) => some (.error fault, s, r)
    | some (.ok t, s, r) => (nodes rest s r).map fun (u, s, r) => (u.map (t ++ ·), s, r)

end Walk

/-- The texts among the arguments of a call. -/
def Arg.texts (args : List Arg) : List Text :=
  args.filterMap fun
    | .text t => some t
    | .number _ => none

@[simp] theorem Arg.mem_texts {args : List Arg} {t : Text} : t ∈ Arg.texts args ↔ .text t ∈ args := by
  rw [texts, List.mem_filterMap]
  constructor
  · rintro ⟨_ | _, member, same⟩
    · cases same
      exact member
    · cases same
  · intro member
    exact ⟨_, member, rfl⟩

/-- A node whose texts cannot be taken for fields once they stand in a template. -/
def Node.Plain : Node → Prop
  | .text _ => True
  | .call name args _ =>
    (∀ t ∈ Arg.texts args, Segment.Fieldless t) ∧
    (name = Directive.leave.name ∨ name = Directive.enter.name → ∀ t ∈ Arg.texts args, .char '\x7b' ∉ t) ∧
    (name = Ledger.Action.field.name → ∀ arg ∈ args, .char '\x7d' ∉ arg.toValue.shown ∧
      (Segment.nameAndValue arg.toValue.shown).1 ∉
        [Ledger.conditionalName, Ledger.storeName, Ledger.restoreName])

instance : DecidablePred Node.Plain
  | .text _ => inferInstanceAs (Decidable True)
  | .call _ _ _ => inferInstanceAs (Decidable (_ ∧ _ ∧ _))

/-- A node for a field that shows the time by a pattern that cannot be encoded. -/
def Node.Unencodable (clock : Clock) : Node → Prop
  | .text _ => False
  | .call name args _ =>
    name = Ledger.Action.field.name ∧ ∃ arg ∈ args, (Segment.field arg.toValue.shown).Unencodable clock

instance (clock : Clock) : DecidablePred (Node.Unencodable clock)
  | .text _ => .isFalse id
  | .call _ _ _ => inferInstanceAs (Decidable (_ ∧ _))

namespace Walk

variable [CharNames] {colors : Bool} {line : Line} {outcome : Except Fault Text} {s s' : Style} {r r' : Restore}

theorem exists_error_of_action {a : Ledger.Action} {args : List Arg}
    (walked : action colors line a args s r = some (outcome, r')) :
    (∃ fault, outcome = .error fault) ↔
      a = .field ∧ ∃ arg ∈ args, (Segment.field arg.toValue.shown).Unencodable line.clock := by
  unfold action at walked
  split at walked
  · cases walked
    simp [Line.exists_fieldText_eq_error]
  · obtain ⟨_, -, made⟩ := Option.map_eq_some_iff.1 walked
    cases made
    simp
  · obtain ⟨_, -, made⟩ := Option.map_eq_some_iff.1 walked
    cases made
    simp
  · cases walked
    simp
  · cases walked
    simp
  · cases walked

theorem exists_error_of_node {n : Node} (walked : node colors line n s r = some (outcome, s', r')) :
    (∃ fault, outcome = .error fault) ↔ n.Unencodable line.clock := by
  have field : Ledger.Action.ofName? Ledger.Action.field.name = some .field := by decide
  cases n with
  | text t =>
      cases walked
      simp [Node.Unencodable]
  | call name args position =>
      simp only [node] at walked
      cases named : Ledger.Action.ofName? name with
      | some a =>
          simp only [named] at walked
          obtain ⟨_, acted, made⟩ := Option.map_eq_some_iff.1 walked
          cases made
          have same : name = Ledger.Action.field.name ↔ a = .field := by
            constructor
            · rintro rfl
              exact Option.some.inj (named.symm.trans field)
            · rintro rfl
              simpa [eq_comm] using List.find?_some named
          rw [exists_error_of_action acted, Node.Unencodable, same]
      | none =>
          have other : name ≠ Ledger.Action.field.name := by
            rintro rfl
            exact Option.some_ne_none _ (field.symm.trans named)
          simp only [Node.Unencodable, other, false_and, iff_false, not_exists]
          rintro fault rfl
          cases known : Directive.all.find? (·.name = name) with
          | none => simp [named, known] at walked
          | some d => simp [named, known] at walked

theorem exists_ok_of_nodes {parsed : List Node} (walked : nodes colors line parsed s r = some (outcome, s', r')) :
    (∃ text, outcome = .ok text) ↔ ∀ n ∈ parsed, ¬ n.Unencodable line.clock := by
  induction parsed generalizing s r outcome with
  | nil =>
      cases walked
      simp
  | cons n rest ih =>
      rw [List.forall_mem_cons]
      rw [nodes] at walked
      rcases here : node colors line n s r with _ | ⟨fault | t, s₁, r₁⟩
      · simp [here] at walked
      · have broken := (exists_error_of_node here).1 ⟨fault, rfl⟩
        simp only [here, Option.some.injEq, Prod.mk.injEq] at walked
        obtain ⟨rfl, -⟩ := walked
        simp [broken]
      · have sound : ¬ n.Unencodable line.clock := fun broken => by
          obtain ⟨fault, error⟩ := (exists_error_of_node here).2 broken
          cases error
        simp only [here] at walked
        obtain ⟨⟨later, s₂, r₂⟩, onward, made⟩ := Option.map_eq_some_iff.1 walked
        cases made
        rw [and_iff_right sound, ← ih onward]
        cases later <;> simp [Except.map]

end Walk

end LogStyle
