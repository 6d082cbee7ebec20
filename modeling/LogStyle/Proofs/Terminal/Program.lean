import LogStyle.Proofs.Program.Style
import LogStyle.Proofs.Terminal.Basic

/-! # What programs tell a terminal

A program keeps track of the style in force while it runs. A terminal that starts in the same style and reads what
the program writes follows it: it shows each text in the style in force there, and ends where the program ends.
-/

namespace LogStyle

/-- What a terminal is to show of an effect, given the style it starts from: a glyph stands between the background
    that is left and the one that is entered. -/
def Effect.cells (s : Style) : Effect → List Cell
  | .leave glyph color => Cell.row { s with foreground := s.background, background := some color } glyph
  | .enter color glyph => Cell.row { s with foreground := some color } glyph
  | _ => []

namespace Node

/-- No escape character stands in a text of the node. -/
def EscapeFree : Node → Prop
  | .text t => .char '\x1b' ∉ t
  | .call _ args _ => ∀ t ∈ Arg.texts args, .char '\x1b' ∉ t

instance : DecidablePred EscapeFree
  | .text _ => inferInstanceAs (Decidable (_ ∉ _))
  | .call _ _ _ => inferInstanceAs (Decidable (∀ t ∈ _, _))

/-- The effect of a call of a built-in directive. -/
def effect? : Node → Option Effect
  | .text _ => none
  | .call name args _ => (Directive.all.find? (·.name = name)).bind (·.effect? args)

/-- What a terminal is to show of a node, given the style in force. -/
def cells (s : Style) : Node → List Cell
  | .text t => Cell.row s t
  | .call name args position => ((Node.call name args position).effect?.map (Effect.cells s)).getD []

end Node

/-- What a terminal is to show of nodes that run one after another: each in the style that those before it leave. -/
def Program.cells (p : PureProgram) : List Node → Style → List Cell
  | [], _ => []
  | node :: rest, s => node.cells s ++ cells p rest (p.runNode node (s, ())).2.1

namespace Terminal

/-- A terminal takes in a text from every style. Where it starts in the style in force, it shows what it is to show
    and follows the style. -/
def Realizes (s : Style) (t : Text) (cells : List Cell) (final : Style) : Prop :=
  ∀ start, ∃ shown after, Reads start t shown after ∧ (start = s → shown = cells ∧ after = final)

variable {s between final : Style} {t u : Text} {cells more : List Cell}

theorem Realizes.reads (realizes : Realizes s t cells final) : Reads s t cells final := by
  obtain ⟨shown, after, reads, same⟩ := realizes s
  obtain ⟨rfl, rfl⟩ := same rfl
  exact reads

theorem Realizes.append (here : Realizes s t cells between) (later : Realizes between u more final) :
    Realizes s (t ++ u) (cells ++ more) final := by
  intro start
  obtain ⟨shown, middle, reads, same⟩ := here start
  obtain ⟨shown', after, reads', same'⟩ := later middle
  refine ⟨shown ++ shown', after, reads.append reads', ?_⟩
  intro alike
  obtain ⟨rfl, rfl⟩ := same alike
  obtain ⟨rfl, rfl⟩ := same' rfl
  exact ⟨rfl, rfl⟩

theorem Realizes.of_reads {f : Style → List Cell} {g : Style → Style} (reads : ∀ start, Reads start t (f start) (g start))
    (s : Style) : Realizes s t (f s) (g s) := by
  intro start
  refine ⟨_, _, reads start, ?_⟩
  rintro rfl
  exact ⟨rfl, rfl⟩

theorem realizes_row (s : Style) (absent : .char '\x1b' ∉ t) : Realizes s t (Cell.row s t) s :=
  .of_reads (fun start => reads_row start absent) s

end Terminal

open Terminal in
/-- What an effect writes makes a terminal show its glyph and follow it. The glyph of a transition is drawn in two
    colours that are not those in force; the foreground is put back behind it. -/
theorem Effect.realizes_output {s : Style} (inRange : s.InRange) {effect : Effect}
    (colored : ∀ color ∈ effect.color?, Style.IsColor color)
    (plain : ∀ glyph color, effect = .leave glyph color ∨ effect = .enter color glyph → .char '\x1b' ∉ glyph) :
    Realizes s (effect.output true s) (effect.cells s) (effect.apply s) := by
  cases effect with
  | foreground color => exact .of_reads (fun start => reads_foreground start colored) s
  | background color => exact .of_reads (fun start => reads_background start colored) s
  | bold on => exact .of_reads (fun start => reads_bold start on) s
  | reverse on => exact .of_reads (fun start => reads_reverse start on) s
  | reset =>
      have digit : ∀ c ∈ ("0" : Text), isParameter c = true := List.all_eq_true.1 (by decide)
      exact .of_reads (fun start => reads_sequence digit rfl) s
  | leave glyph color =>
      intro start
      have entered : ∀ n ∈ some color, Style.IsColor n := colored
      have alone := plain glyph color (.inl rfl)
      have drawn := (reads_foreground start inRange.2).append (reads_background _ entered)
      refine ⟨_, _, (drawn.append (reads_row _ alone)).append (reads_foreground _ inRange.1), ?_⟩
      rintro rfl
      exact ⟨by simp [cells], rfl⟩
  | enter color glyph =>
      intro start
      have entered : ∀ n ∈ some color, Style.IsColor n := colored
      have alone := plain glyph color (.inr rfl)
      have drawn := (reads_foreground start entered).append (reads_row _ alone)
      refine ⟨_, _, (drawn.append (reads_background _ entered)).append (reads_foreground _ inRange.1), ?_⟩
      rintro rfl
      exact ⟨by simp [cells], rfl⟩

namespace Directive

theorem mem_texts_of_effect? {d : Directive} {args : List Arg} {effect : Effect} (found : d.effect? args = some effect)
    {glyph : Text} {color : Int} (drawn : effect = .leave glyph color ∨ effect = .enter color glyph) :
    glyph ∈ Arg.texts args := by
  rcases drawn with rfl | rfl
  · obtain ⟨-, rfl⟩ := of_effect?_leave found
    simp
  · obtain ⟨-, rfl⟩ := of_effect?_enter found
    simp

end Directive

namespace Program

open Terminal

variable {p : PureProgram} (builtin : p.registry = Registry.builtins)
include builtin

theorem exists_effect_of_runCall {name : Text} {args : List Arg} {position : Nat} {at_ reached : Reached Unit}
    {t : Text} (ran : p.runCall name args position at_ = (.ok t, reached)) :
    ∃ d effect, Directive.all.find? (·.name = name) = some d ∧ d.effect? args = some effect ∧
      (∀ color ∈ effect.color?, Style.IsColor color) ∧ t = effect.output p.colors at_.1 ∧
      reached = (effect.apply at_.1, at_.2) := by
  have meaning : p.registry.find? name = (Directive.all.find? (·.name = name)).map .builtin := by
    rw [builtin, Registry.find?_builtins]
  cases named : Directive.all.find? (·.name = name) with
  | none =>
      rw [named] at meaning
      simp [runCall, meaning] at ran
  | some d =>
      rw [named] at meaning
      obtain ⟨effect, found, had⟩ := (runCall_eq_ok meaning).1 ran
      obtain ⟨⟨colored, -⟩, written, reached⟩ := runEffect_eq_ok.1 had
      exact ⟨d, effect, rfl, found, colored, written, reached⟩

variable (colors : p.colors = true)
include colors

theorem realizes_runNode {node : Node} (plain : node.EscapeFree) {at_ reached : Reached Unit} {t : Text}
    (inRange : at_.1.InRange) (ran : p.runNode node at_ = (.ok t, reached)) :
    Realizes at_.1 t (node.cells at_.1) reached.1 := by
  cases node with
  | text u =>
      cases ran
      exact realizes_row at_.1 plain
  | call name args position =>
      obtain ⟨d, effect, named, found, colored, rfl, rfl⟩ := exists_effect_of_runCall builtin ran
      have cells : (Node.call name args position).cells at_.1 = effect.cells at_.1 := by
        simp only [Node.cells, Node.effect?, named, Option.bind_some, found, Option.map_some, Option.getD_some]
      rw [cells, colors]
      apply Effect.realizes_output inRange colored
      intro glyph color drawn
      exact plain glyph (Directive.mem_texts_of_effect? found drawn)

theorem realizes_runNodes {nodes : List Node} (plain : ∀ node ∈ nodes, node.EscapeFree) {at_ reached : Reached Unit}
    {t : Text} (inRange : at_.1.InRange) (ran : p.runNodes nodes at_ = (.ok t, reached)) :
    Realizes at_.1 t (p.cells nodes at_.1) reached.1 := by
  -- Each node starts in the style in force, and the terminal has followed it there.
  induction nodes generalizing at_ t with
  | nil =>
      cases ran
      exact .of_reads reads_nil _
  | cons node rest ih =>
      rw [runNodes_cons, Sequel.andThen_eq_ok] at ran
      obtain ⟨v, w, between, here, later, rfl⟩ := ran
      have first := realizes_runNode builtin colors (plain node List.mem_cons_self) inRange here
      have kept := p.inRange_of_runNode node inRange
      rw [here] at kept
      have second := ih (fun other member => plain other (List.mem_cons_of_mem _ member)) kept later
      have cells : p.cells (node :: rest) at_.1 = node.cells at_.1 ++ p.cells rest between.1 := by
        rw [Program.cells, here]
      rw [cells]
      exact first.append second

end Program

namespace Terminal

theorem realizes_execute [CharNames] {source : Text} {p : PureProgram} (read : Program.read [] true source = .ok p)
    (plain : ∀ node ∈ p.nodes, node.EscapeFree) {s final : Style} (inRange : s.InRange) {out : Text}
    (ran : p.execute s = (.ok out, final)) : Realizes s out (p.cells p.nodes s) final := by
  have builtin := (Program.builtin_of_read read).registry
  have colors : p.colors = true := by
    obtain ⟨nodes, -, rfl⟩ := Outcome.map_eq_ok.1 read
    rfl
  rcases result : p.runNodes p.nodes (s, ()) with ⟨e | t, reached⟩
  · simp [PureProgram.execute, Program.execute, result] at ran
  · have same : t = out ∧ reached.1 = final := by
      simpa [PureProgram.execute, Program.execute, result] using ran
    obtain ⟨rfl, rfl⟩ := same
    exact Program.realizes_runNodes builtin colors plain inRange result

/-- A terminal in the style a program is run from follows the program: it shows each text in the style in force
    there, the glyph of a transition in the colours of the two backgrounds, and ends in the style that the program
    has reached. -/
theorem read_execute [CharNames] {source : Text} {p : PureProgram} (read : Program.read [] true source = .ok p)
    (plain : ∀ node ∈ p.nodes, node.EscapeFree) {s final : Style} (inRange : s.InRange) {out : Text}
    (ran : p.execute s = (.ok out, final)) : Terminal.read s out = (p.cells p.nodes s, final) :=
  (realizes_execute read plain inRange ran).reads.read_eq

section

attribute [local instance] CharNames.none

/-- Two transitions, from a style with both colours: each glyph stands between two backgrounds. -/
theorem read_execute_of_transitions :
    let seed : Style := { foreground := some 3, background := some 2, bold := true }
    ∃ p out, Program.read [] true "a\x7bfrom \">\" 4\x7db\x7bto 7 \"<\"\x7d" = .ok p ∧
      (∀ node ∈ p.nodes, node.EscapeFree) ∧ seed.InRange ∧
      PureProgram.execute p seed = (.ok out, { seed with background := some 7 }) ∧
      Terminal.read seed out =
        ([⟨'a', seed⟩, ⟨'>', { seed with foreground := some 2, background := some 4 }⟩,
          ⟨'b', { seed with background := some 4 }⟩,
          ⟨'<', { seed with foreground := some 7, background := some 4 }⟩],
        { seed with background := some 7 }) := by
  intro seed
  obtain ⟨p, read, tested⟩ :=
    exists_of_any (Program.read [] true "a\x7bfrom \">\" 4\x7db\x7bto 7 \"<\"\x7d")
      (fun p : PureProgram => (∀ node ∈ p.nodes, node.EscapeFree) ∧ (p.execute seed).1.toOption.isSome ∧
        (p.execute seed).2 = { seed with background := some 7 } ∧
        p.cells p.nodes seed = [⟨'a', seed⟩, ⟨'>', { seed with foreground := some 2, background := some 4 }⟩,
          ⟨'b', { seed with background := some 4 }⟩,
          ⟨'<', { seed with foreground := some 7, background := some 4 }⟩]) (by decide +kernel)
  obtain ⟨plain, runs, final, cells⟩ := of_decide_eq_true tested
  have inRange : seed.InRange := ⟨by simp [seed, Style.IsColor], by simp [seed, Style.IsColor]⟩
  rcases ran : PureProgram.execute p seed with ⟨e | out, after⟩
  · simp [ran, Except.toOption] at runs
  · obtain rfl : after = { seed with background := some 7 } := by rw [← final, ran]
    have shown := read_execute read plain inRange ran
    rw [cells] at shown
    exact ⟨p, out, read, plain, inRange, ran, shown⟩

end

end Terminal

end LogStyle
