import LogStyle.Proofs.Terminal.Program
import LogStyle.Proofs.Text.Lockstep

/-! # Programs without colours

Whether escape sequences are written makes no difference to what a program does: it fails alike, and it reaches the
same styles. What it writes is what is left of the other output when the sequences are taken out.
-/

namespace LogStyle

namespace Effect

/-- What the sequences of an effect say. -/
def codes (s : Style) : Effect → List Text
  | .foreground color => [Style.foregroundCode color]
  | .background color => [Style.backgroundCode color]
  | .bold on => [if on then "1" else "22"]
  | .reverse on => [if on then "7" else "27"]
  | .leave _ color =>
    [Style.foregroundCode s.background, Style.backgroundCode (some color), Style.foregroundCode s.foreground]
  | .enter color _ =>
    [Style.foregroundCode (some color), Style.backgroundCode (some color), Style.foregroundCode s.foreground]
  | .reset => ["0"]

variable {effect : Effect} {s : Style}

theorem relates_output {R : Text → Text → Prop} (joins : Sequel.Joins R) {colors : Bool}
    (sequences : ∀ code ∈ effect.codes s, R (Style.sequence colors code) (Style.sequence false code))
    (glyphs : ∀ glyph color, effect = .leave glyph color ∨ effect = .enter color glyph → R glyph glyph) :
    R (effect.output colors s) (effect.output false s) := by
  cases effect with
  | foreground | background | bold | reverse | reset => exact sequences _ List.mem_cons_self
  | leave glyph color =>
      simp only [codes, List.forall_mem_cons] at sequences
      obtain ⟨drawn, entered, back, -⟩ := sequences
      exact joins.append (joins.append (joins.append drawn entered) (glyphs glyph color (.inl rfl))) back
  | enter color glyph =>
      simp only [codes, List.forall_mem_cons] at sequences
      obtain ⟨drawn, entered, back, -⟩ := sequences
      exact joins.append (joins.append (joins.append drawn (glyphs glyph color (.inr rfl))) entered) back

theorem isParameter_of_mem_codes (inRange : s.InRange) (colored : ∀ color ∈ effect.color?, Style.IsColor color) :
    ∀ code ∈ effect.codes s, ∀ c ∈ code, isParameter c = true := by
  have foreground {color : Option Int} (colored : ∀ n ∈ color, Style.IsColor n) :=
    Style.isParameter_of_mem_foregroundCode colored
  have background {color : Option Int} (colored : ∀ n ∈ color, Style.IsColor n) :=
    Style.isParameter_of_mem_backgroundCode colored
  cases effect with
  | foreground color => exact List.forall_mem_singleton.2 (foreground colored)
  | background color => exact List.forall_mem_singleton.2 (background colored)
  | bold on | reverse on => exact List.forall_mem_singleton.2 (List.all_eq_true.1 (by cases on <;> decide))
  | leave glyph color =>
      have entered : ∀ n ∈ some color, Style.IsColor n := colored
      exact List.forall_mem_cons.2 ⟨foreground inRange.2, List.forall_mem_cons.2
        ⟨background entered, List.forall_mem_singleton.2 (foreground inRange.1)⟩⟩
  | enter color glyph =>
      have entered : ∀ n ∈ some color, Style.IsColor n := colored
      exact List.forall_mem_cons.2 ⟨foreground entered, List.forall_mem_cons.2
        ⟨background entered, List.forall_mem_singleton.2 (foreground inRange.1)⟩⟩
  | reset => exact List.forall_mem_singleton.2 (List.all_eq_true.1 (by decide))

theorem m_not_mem_of_mem_codes : ∀ code ∈ effect.codes s, .char 'm' ∉ code := by
  cases effect with
  | bold on | reverse on => exact List.forall_mem_singleton.2 (by cases on <;> decide)
  | reset => exact List.forall_mem_singleton.2 (by decide)
  | foreground | background | leave | enter =>
      simp [codes, Style.m_not_mem_foregroundCode, Style.m_not_mem_backgroundCode]

section
variable (plain : ∀ glyph color, effect = .leave glyph color ∨ effect = .enter color glyph → .char '\x1b' ∉ glyph)
include plain

theorem fades_output (inRange : s.InRange) (colored : ∀ color ∈ effect.color?, Style.IsColor color) (colors : Bool) :
    Text.Fades (effect.output colors s) (effect.output false s) :=
  relates_output ⟨Text.fades_nil, Text.Fades.append⟩
    (fun code member => Style.fades_sequence (isParameter_of_mem_codes inRange colored code member) colors)
    fun glyph color drawn => Text.fades_self (plain glyph color drawn)

theorem styled_output (s : Style) : Text.Styled (effect.output true s) (effect.output false s) :=
  relates_output ⟨.nil, Text.Styled.append⟩
    (fun code member => Style.styled_sequence (m_not_mem_of_mem_codes code member))
    fun glyph color drawn => Text.styled_self (plain glyph color drawn)

end

end Effect

namespace Program

variable {σ : Type}

def withColors (p : Program σ) (colors : Bool) : Program σ :=
  { p with colors }

theorem read_withColors [CharNames] (extensions : List (Text × Extension σ)) (colors colors' : Bool) (source : Text) :
    read extensions colors' source = (read extensions colors source).map (·.withColors colors') := by
  simp only [read]
  cases Node.read (Registry.withExtensions extensions).knows source <;> rfl

theorem withColors_of_read [CharNames] {extensions : List (Text × Extension σ)} {colors : Bool} {source : Text}
    {p : Program σ}
    (found : read extensions colors source = .ok p) : p.withColors colors = p := by
  obtain ⟨nodes, -, rfl⟩ := Outcome.map_eq_ok.1 found
  rfl

/-- What a program shows besides escape sequences is without an escape character. -/
structure Quiet (p : Program σ) : Prop where
  plain : ∀ node ∈ p.nodes, node.EscapeFree
  answers : ∀ name args position, .call name args position ∈ p.nodes → ∀ e, p.registry.find? name = some (.extension e) →
    ∀ s x t, (e.run (args.map Arg.toValue) s x).1 = .ok t → .char '\x1b' ∉ t

theorem quiet_of_builtin {p : PureProgram} (builtin : p.registry = Registry.builtins)
    (plain : ∀ node ∈ p.nodes, node.EscapeFree) : p.Quiet := by
  refine ⟨plain, ?_⟩
  intro name args position _ e meaning
  rw [builtin, Registry.find?_builtins] at meaning
  simp at meaning

open Sequel

variable (p : Program σ)

/-- What a node writes with escape sequences and without: a text that stands in the program, one that an extension has
    answered, or an effect on the style. -/
inductive Output (at_ : Reached σ) : Node → (Bool → Text) → Prop where
  | text (t : Text) : Output at_ (.text t) fun _ => t
  | answer {name : Text} {args : List Arg} {position : Nat} {e : Extension σ} {t : Text}
      (meaning : p.registry.find? name = some (.extension e))
      (answered : (e.run (args.map Arg.toValue) at_.1 at_.2).1 = .ok t) :
      Output at_ (.call name args position) fun _ => t
  | effect {d : Directive} {name : Text} {args : List Arg} {position : Nat} {effect : Effect}
      (fits : d.effect? args = some effect) (colored : ∀ color ∈ effect.color?, Style.IsColor color) :
      Output at_ (.call name args position) fun colors => effect.output colors at_.1

theorem Output.relates {p : Program σ} {at_ : Reached σ} {node : Node} {output : Bool → Text}
    (writes : p.Output at_ node output) (quiet : p.Quiet) (member : node ∈ p.nodes) {R : Text → Text → Prop}
    (self : ∀ {t}, .char '\x1b' ∉ t → R t t)
    (effects : ∀ {effect : Effect}, (∀ color ∈ effect.color?, Style.IsColor color) →
      (∀ glyph color, effect = .leave glyph color ∨ effect = .enter color glyph → .char '\x1b' ∉ glyph) →
      R (effect.output true at_.1) (effect.output false at_.1)) :
    R (output true) (output false) := by
  have plain := quiet.plain node member
  cases writes with
  | text t => exact self plain
  | answer meaning answered => exact self (quiet.answers _ _ _ member _ meaning _ _ _ answered)
  | effect fits colored =>
      apply effects colored
      intro glyph color drawn
      exact plain glyph (Directive.mem_texts_of_effect? fits drawn)

theorem exists_output (node : Node) (at_ : Reached σ) :
    ∃ reached, (∃ e, ∀ colors, (p.withColors colors).runNode node at_ = (.error e, reached)) ∨
      ∃ output, p.Output at_ node output ∧
        ∀ colors, (p.withColors colors).runNode node at_ = (.ok (output colors), reached) := by
  cases node with
  | text t => exact ⟨at_, .inr ⟨_, .text t, fun _ => rfl⟩⟩
  | call name args position =>
      simp only [runNode, runCall, withColors]
      cases meaning : p.registry.find? name with
      | none => exact ⟨at_, .inl ⟨_, fun _ => rfl⟩⟩
      | some entry =>
          cases entry with
          | extension e =>
              rcases answer : e.run (args.map Arg.toValue) at_.1 at_.2 with ⟨fault | t, x⟩
              · simp only [answer]
                exact ⟨_, .inl ⟨_, fun _ => rfl⟩⟩
              · simp only [answer]
                exact ⟨_, .inr ⟨_, .answer meaning (congrArg Prod.fst answer), fun _ => rfl⟩⟩
          | builtin d =>
              cases fits : d.effect? args with
              | none =>
                  simp only [Directive.effect, fits]
                  exact ⟨_, .inl ⟨_, fun _ => rfl⟩⟩
              | some effect =>
                  simp only [Directive.effect, fits, runEffect]
                  cases had : refusal? name position effect at_.1 with
                  | some e => exact ⟨_, .inl ⟨e, fun _ => rfl⟩⟩
                  | none => exact ⟨_, .inr ⟨_, .effect fits (refusal?_eq_none.1 had).1, fun _ => rfl⟩⟩

/-- With and without colours a program fails alike and reaches the same style. What it writes is related as the
    outputs of its nodes are, which may be compared under an invariant that nodes preserve. -/
theorem exists_execute {R : Text → Text → Prop} (joins : Joins R) {I : Reached σ → Prop}
    (kept : ∀ node at_, I at_ → I ((p.withColors true).runNode node at_).2)
    (related : ∀ node ∈ p.nodes, ∀ at_, I at_ → ∀ output, p.Output at_ node output → R (output true) (output false))
    {at_ : Reached σ} (start : I at_) :
    ∃ reached, (∃ e, ∀ colors, (p.withColors colors).execute at_ = (.error e, reached)) ∨
      ∃ output : Bool → Text, (∀ colors, (p.withColors colors).execute at_ = (.ok (output colors), reached)) ∧
        R (output true) (output false) := by
  have lockstep : Lockstep R (fun on off => on = off ∧ I on) ((p.withColors true).execute at_)
      ((p.withColors false).execute at_) := by
    apply lockstep_runNodes joins _ ⟨rfl, start⟩
    rintro node member between _ ⟨rfl, holds⟩
    have after := kept node between holds
    obtain ⟨reached, ⟨e, fails⟩ | ⟨output, writes, runs⟩⟩ := p.exists_output node between
    · rw [fails] at after
      rw [fails, fails]
      exact .fails e ⟨rfl, after⟩
    · rw [runs] at after
      rw [runs, runs]
      exact .writes (related node member between holds output writes) ⟨rfl, after⟩
  generalize on : (p.withColors true).execute at_ = first at lockstep
  generalize off : (p.withColors false).execute at_ = second at lockstep
  cases lockstep with
  | @fails e reached _ states =>
      obtain ⟨rfl, -⟩ := states
      exact ⟨reached, .inl ⟨e, Bool.rec off on⟩⟩
  | @writes t u reached _ texts states =>
      obtain ⟨rfl, -⟩ := states
      exact ⟨reached, .inr ⟨Bool.rec u t, Bool.rec off on, texts⟩⟩

theorem execute_withColors (p : PureProgram) (s : Style) :
    ∃ final, (∃ e, ∀ colors, PureProgram.execute (p.withColors colors) s = (.error e, final)) ∨
      ∃ output : Bool → Text, (∀ colors, PureProgram.execute (p.withColors colors) s = (.ok (output colors), final)) ∧
        (p.Quiet → s.InRange → Text.Fades (output true) (output false)) := by
  let Known := p.Quiet ∧ s.InRange
  have joins : Joins fun t u => Known → Text.Fades t u :=
    ⟨fun _ => Text.fades_nil, fun here later known => (here known).append (later known)⟩
  have run (colors : Bool) {t : Except ExecuteError Text} {reached : Reached Unit}
      (ran : (p.withColors colors).execute (s, ()) = (t, reached)) :
      PureProgram.execute (p.withColors colors) s = (t, reached.1) := by
    simp only [PureProgram.execute, ran]
  have related (node : Node) (member : node ∈ p.nodes) (at_ : Reached Unit) (inRange : Known → at_.1.InRange)
      (output : Bool → Text) (writes : p.Output at_ node output) : Known → Text.Fades (output true) (output false) :=
    fun known => writes.relates known.1 member Text.fades_self fun colored plain =>
      Effect.fades_output plain (inRange known) colored true
  have start : Known → ((s, ()) : Reached Unit).1.InRange := And.right
  obtain ⟨reached, ⟨e, fails⟩ | ⟨output, runs, fades⟩⟩ := p.exists_execute joins
    (fun node at_ holds known => inRange_of_runNode _ node (holds known)) related start
  · exact ⟨reached.1, .inl ⟨e, fun colors => run colors (fails colors)⟩⟩
  · exact ⟨reached.1, .inr ⟨output, fun colors => run colors (runs colors), fun quiet inRange => fades ⟨quiet, inRange⟩⟩⟩

/-- The colours make no difference to what a program does, wherever it starts: with and without them it can be
    read, it fails in the same way or not at all, and it reaches the same. If all that it shows is without an
    escape character, then without colours it writes what is left of the other output when the escape sequences are
    taken out. -/
theorem unstyle_of_read [CharNames] {extensions : List (Text × Extension σ)} {colors : Bool} {source : Text}
    {p : Program σ}
    (found : read extensions colors source = .ok p) :
    ∃ on off, read extensions true source = .ok on ∧ read extensions false source = .ok off ∧ ∀ at_, ∃ reached,
      (∃ e, on.execute at_ = (.error e, reached) ∧ off.execute at_ = (.error e, reached)) ∨
      ∃ t u, on.execute at_ = (.ok t, reached) ∧ off.execute at_ = (.ok u, reached) ∧ (p.Quiet → u = t.unstyle) := by
  have switched (colors' : Bool) : read extensions colors' source = .ok (p.withColors colors') := by
    rw [read_withColors extensions colors, found]
    rfl
  refine ⟨_, _, switched true, switched false, fun at_ => ?_⟩
  have joins : Joins fun t u => p.Quiet → Text.Styled t u :=
    ⟨fun _ => .nil, fun here later quiet => (here quiet).append (later quiet)⟩
  have related (node : Node) (member : node ∈ p.nodes) (at_ : Reached σ) (_ : True) (output : Bool → Text)
      (writes : p.Output at_ node output) : p.Quiet → Text.Styled (output true) (output false) :=
    fun quiet => writes.relates quiet member Text.styled_self fun _ plain => Effect.styled_output plain at_.1
  have start : (fun _ => True) at_ := trivial
  obtain ⟨reached, ⟨e, fails⟩ | ⟨output, runs, styled⟩⟩ :=
    p.exists_execute joins (fun _ _ _ => trivial) related start
  · exact ⟨reached, .inl ⟨e, fails true, fails false⟩⟩
  · exact ⟨reached, .inr ⟨_, _, runs true, runs false, fun quiet => (styled quiet).unstyle_eq.symm⟩⟩

section

attribute [local instance] CharNames.none

/-- A transition writes out the colours of the style it starts from, also those that no terminal has. -/
theorem unstyle_unknown_colors :
    let greet : Extension Unit := .ofFunction "greet" fun _ => .ok "b"
    let source : Text := "a\x7bgreet\x7d\x7bfrom \"x\" 3\x7d"
    ∃ p on off reached t u, read [("greet", greet)] true source = .ok p ∧ p.Quiet ∧
      read [("greet", greet)] true source = .ok on ∧ read [("greet", greet)] false source = .ok off ∧
      on.execute (⟨some (-1), some 300, false, false⟩, ()) = (.ok t, reached) ∧
      off.execute (⟨some (-1), some 300, false, false⟩, ()) = (.ok u, reached) ∧ u = t.unstyle ∧
      t = "ab\x1b[38;5;300m\x1b[48;5;3mx\x1b[38;5;-1m" ∧ u = "abx" := by
  intro greet source
  let nodes : List Node := [.text "a", .call "greet" [] 1, .call "from" [.text "x", .number 3] 8]
  let p (colors : Bool) : Program Unit := ⟨Registry.withExtensions [("greet", greet)], nodes, colors⟩
  have found (colors : Bool) : read [("greet", greet)] colors source = .ok (p colors) := by
    have parsed : Node.read (Registry.withExtensions [("greet", greet)]).knows source = .ok nodes := by decide +kernel
    exact congrArg (Except.map _) parsed
  have quiet : (p true).Quiet := by
    refine ⟨by decide, ?_⟩
    intro name args position member e meaning s x t answered
    have called : name = "greet" ∨ name = "from" := by
      simp only [p, nodes, List.mem_cons, List.not_mem_nil, Node.call.injEq, reduceCtorEq, or_false, false_or] at member
      exact member.imp (·.1) (·.1)
    rcases called with rfl | rfl
    · cases meaning
      cases answered
      decide
    · cases meaning
  obtain ⟨on, off, first, second, runs⟩ := unstyle_of_read (found true)
  cases (found true).symm.trans first
  cases (found false).symm.trans second
  have shown : (p true).execute (⟨some (-1), some 300, false, false⟩, ()) =
      (.ok "ab\x1b[38;5;300m\x1b[48;5;3mx\x1b[38;5;-1m", ⟨some (-1), some 3, false, false⟩, ()) := by decide +kernel
  have plain : (p false).execute (⟨some (-1), some 300, false, false⟩, ()) =
      (.ok "abx", ⟨some (-1), some 3, false, false⟩, ()) := by decide +kernel
  obtain ⟨reached, ⟨e, fails, -⟩ | ⟨t, u, ran, bare, same⟩⟩ := runs (⟨some (-1), some 300, false, false⟩, ())
  · simp [shown] at fails
  · cases shown.symm.trans ran
    cases plain.symm.trans bare
    exact ⟨_, _, _, _, _, _, found true, quiet, first, second, ran, bare, same quiet, rfl, rfl⟩

end

end Program

end LogStyle
