import LogStyle.Proofs.Formatter.Readable
import LogStyle.Proofs.Formatter.Walk
import LogStyle.Proofs.Program.Error
import LogStyle.Proofs.Text.Lower

/-! # Compiling and rendering is walking

While a format is compiled each of its nodes writes one piece of the template: a text that no field starts in,
or a field. Splitting the template finds the pieces again, and the ledger still holds under their numbers what
was entered for them, so rendering does node by node what the walk does.
-/

namespace LogStyle

namespace Style

/-- A character of escape sequences. -/
def isCode (c : CodePoint) : Bool :=
  isBasicDigit c || c ∈ [.char '\x1b', .char '[', .char ';', .char '-', .char 'm']

def Coded (t : Text) : Prop :=
  ∀ c ∈ t, isCode c = true

-- By way of the list, for there are too many characters to try them all.
instance : DecidablePred Coded :=
  fun _ => decidable_of_iff _ List.all_eq_true

theorem coded_nil : Coded [] := by
  intro c member
  cases member

theorem Coded.append {t u : Text} (here : Coded t) (later : Coded u) : Coded (t ++ u) :=
  List.forall_mem_append.2 ⟨here, later⟩

theorem Coded.not_mem {t : Text} (coded : Coded t) {c : CodePoint} (foreign : isCode c = false) : c ∉ t := by
  intro member
  rw [coded c member] at foreign
  cases foreign

theorem coded_sequence (colors : Bool) {parameters : Text} (coded : Coded parameters) :
    Coded (sequence colors parameters) := by
  intro c member
  cases colors with
  | false => cases member
  | true =>
      simp only [sequence, if_true, List.cons_append, List.mem_cons, List.mem_append, List.not_mem_nil, or_false] at member
      rcases member with rfl | rfl | inside | rfl
      · rfl
      · rfl
      · exact coded c inside
      · rfl

theorem coded_ofInt (n : Int) : Coded (Text.ofInt n) := by
  intro c member
  cases n with
  | ofNat n => simp [isCode, Text.isBasicDigit_of_mem_ofNat member]
  | negSucc n =>
      rcases List.mem_cons.1 member with rfl | digit
      · rfl
      · simp [isCode, Text.isBasicDigit_of_mem_ofNat digit]

theorem coded_foreground (colors : Bool) (color : Option Int) : Coded (sequence colors (foregroundCode color)) := by
  apply coded_sequence
  cases color with
  | none => decide
  | some n =>
      have lead : Coded "38;5;" := by decide
      exact lead.append (coded_ofInt n)

theorem coded_background (colors : Bool) (color : Option Int) : Coded (sequence colors (backgroundCode color)) := by
  apply coded_sequence
  cases color with
  | none => decide
  | some n =>
      have lead : Coded "48;5;" := by decide
      exact lead.append (coded_ofInt n)

end Style

namespace Directive

theorem of_effect?_leave {d : Directive} {args : List Arg} {glyph : Text} {color : Int}
    (found : d.effect? args = some (.leave glyph color)) :
    d = .leave ∧ args = [.text glyph, .number color] := by
  unfold effect? at found
  split at found <;> simp_all

theorem of_effect?_enter {d : Directive} {args : List Arg} {glyph : Text} {color : Int}
    (found : d.effect? args = some (.enter color glyph)) :
    d = .enter ∧ args = [.number color, .text glyph] := by
  unfold effect? at found
  split at found <;> simp_all

end Directive

namespace Program

variable {σ : Type}

/-- An effect is had exactly when the terminal has the colour it asks for, and the colours of the style in force
    that it writes out are not too long. -/
theorem runEffect_eq_ok {colors : Bool} {name : Text} {position : Nat} {effect : Effect} {at_ reached : Reached σ}
    {t : Text} :
    runEffect colors name position effect at_ = (.ok t, reached) ↔
      ((∀ color ∈ effect.color?, Style.IsColor color) ∧
        ∀ color ∈ effect.recalled at_.1, Numeral.isLong color = false) ∧
      t = effect.output colors at_.1 ∧ reached = (effect.apply at_.1, at_.2) := by
  rw [← @refusal?_eq_none name position, runEffect]
  cases refusal? name position effect at_.1 with
  | none => simp [eq_comm]
  | some e => simp

theorem runCall_eq_ok {p : Program σ} {name : Text} {d : Directive} (meaning : p.registry.find? name = some (.builtin d))
    {args : List Arg} {position : Nat} {at_ reached : Reached σ} {t : Text} :
    p.runCall name args position at_ = (.ok t, reached) ↔
      ∃ effect, d.effect? args = some effect ∧ runEffect p.colors name position effect at_ = (.ok t, reached) := by
  simp only [runCall, meaning, Directive.effect]
  cases d.effect? args with
  | none => simp
  | some effect => simp

end Program

theorem Effect.isLong_of_mem_recalled {effect : Effect} {s : Style} (inRange : s.InRange) :
    ∀ color ∈ effect.recalled s, Numeral.isLong color = false := by
  have short (color : Int) (isColor : Style.IsColor color) : Numeral.isLong color = false := by
    obtain ⟨n, rfl⟩ := Int.eq_ofNat_of_zero_le isColor.1
    have small : n ≤ 255 := Int.ofNat_le.1 isColor.2
    exact Numeral.isLong_of_le small (by decide +kernel)
  intro color member
  cases effect with
  | foreground | background | bold | reverse | reset => cases member
  | leave glyph other =>
      rcases List.mem_append.1 member with back | front
      · exact short color (inRange.2 color (Option.mem_toList.1 back))
      · exact short color (inRange.1 color (Option.mem_toList.1 front))
  | enter other glyph => exact short color (inRange.1 color (Option.mem_toList.1 member))

namespace Effect

/-- What an effect draws between its escape sequences. -/
def glyph : Effect → Text
  | .leave glyph _ | .enter _ glyph => glyph
  | .foreground _ | .background _ | .bold _ | .reverse _ | .reset => []

theorem exists_output (colors : Bool) (s : Style) (effect : Effect) :
    ∃ front back, effect.output colors s = front ++ effect.glyph ++ back ∧ Style.Coded front ∧ Style.Coded back := by
  have alone {t : Text} (coded : Style.Coded t) :
      ∃ front back, t = front ++ [] ++ back ∧ Style.Coded front ∧ Style.Coded back :=
    ⟨t, [], by simp, coded, Style.coded_nil⟩
  have foreground := Style.coded_foreground colors
  have background := Style.coded_background colors
  cases effect with
  | foreground color => exact alone (foreground color)
  | background color => exact alone (background color)
  | bold on => exact alone (Style.coded_sequence colors (by cases on <;> decide))
  | reverse on => exact alone (Style.coded_sequence colors (by cases on <;> decide))
  | leave glyph color => exact ⟨_, _, rfl, (foreground s.background).append (background color), foreground s.foreground⟩
  | enter color glyph =>
      refine ⟨Style.sequence colors (Style.foregroundCode (some color)),
        Style.sequence colors (Style.backgroundCode (some color)) ++
          Style.sequence colors (Style.foregroundCode s.foreground), ?_, foreground color,
        (background color).append (foreground s.foreground)⟩
      simp only [output, Effect.glyph, List.append_assoc]
  | reset => exact alone (Style.coded_sequence colors (by decide))

theorem brace_not_mem_output (colors : Bool) (s : Style) (effect : Effect)
    (plain : ∀ glyph color, effect = .leave glyph color ∨ effect = .enter color glyph → .char '\x7b' ∉ glyph) :
    .char '\x7b' ∉ effect.output colors s := by
  obtain ⟨front, back, written, early, late⟩ := effect.exists_output colors s
  have drawn : .char '\x7b' ∉ effect.glyph := by
    cases effect with
    | leave glyph color => exact plain glyph color (.inl rfl)
    | enter color glyph => exact plain glyph color (.inr rfl)
    | foreground | background | bold | reverse | reset => exact List.not_mem_nil
  rw [written]
  exact List.not_mem_append (List.not_mem_append (early.not_mem rfl) drawn) (late.not_mem rfl)

end Effect

namespace Walk

/-- A piece of a template does on a line what a step of the walk does, whatever is remembered, once the ledger
    holds what the piece refers to. -/
def Renders (line : Line) (conditionals : List Conditional) (piece : Segment) (t : Text)
    (step : Restore → Option (Except Fault Text × Restore)) : Prop :=
  piece.Sound ∧ piece.source = t ∧ ∀ later, conditionals <+: later → ∀ r,
    step r = some ((LineStep.ofSegment later line piece).run r)

variable {line : Line} {conditionals : List Conditional}

theorem renders_plain {t : Text} (plain : .char '\x7b' ∉ t) :
    Renders line conditionals (.literal t) t fun r => some (.ok t, r) :=
  ⟨⟨Segment.fieldless_of_brace plain, fun first => plain (List.mem_of_head? first)⟩, rfl, fun _ _ _ => rfl⟩

theorem renders_diagnostic {stage message : Text} (plain : .char '$' ∉ stage) (fieldless : Segment.Fieldless message) :
    Renders line conditionals (.literal (Ledger.diagnostic stage message)) (Ledger.diagnostic stage message)
      fun r => some (.ok (Ledger.diagnostic stage message), r) := by
  refine ⟨⟨?_, by simp [Ledger.diagnostic]⟩, rfl, fun later _ r => rfl⟩
  have front : .char '$' ∉ ("#\x7b" : Text) ++ stage ++ (" ERROR: " : Text) :=
    List.not_mem_append (List.not_mem_append (by decide) plain) (by decide)
  exact fieldless.between front (by decide)

theorem renders_field {name : Text} (closed : .char '\x7d' ∉ name)
    (host : (Segment.nameAndValue name).1 ∉ [Ledger.conditionalName, Ledger.storeName, Ledger.restoreName]) :
    Renders line conditionals (.field name) (Ledger.placeholder name) fun r => some (line.fieldText name, r) := by
  refine ⟨closed, rfl, fun later _ r => ?_⟩
  simp only [List.mem_cons, List.not_mem_nil, or_false, not_or] at host
  simp only [LineStep.ofSegment, LineStep.ofField, if_neg host.1, if_neg host.2.1, if_neg host.2.2,
    LineStep.run_ofOutcome]

theorem renders_store : Renders line conditionals (.field Ledger.storeName) (Ledger.placeholder Ledger.storeName)
    fun r => some (.ok [], { r with stored := r.previous ++ r.current }) :=
  ⟨by simp only [Segment.Sound]; decide, rfl, fun _ _ _ => rfl⟩

theorem renders_restore :
    Renders line conditionals (.field Ledger.restoreName) (Ledger.placeholder Ledger.restoreName)
      fun r => some (.ok (if r.stored = [] then r.previous else r.stored), r) :=
  ⟨by simp only [Segment.Sound]; decide, rfl, fun _ _ _ => rfl⟩

theorem ofField_numbered {later : List Conditional} {count : Nat} {c : Conditional} (found : later[count]? = some c)
    (short : Numeral.isLong count = false) (line : Line) :
    LineStep.ofField later line (Ledger.conditionalName ++ ":" ++ Text.ofNat count) =
      if c.applies line.level then .follow c else .shows [] := by
  have named : Restore.named later (Text.ofNat count) = .ok (some c) := by
    rw [Restore.named_of_names (Restore.names_ofNat short), found]
  have parts : Segment.nameAndValue (Ledger.conditionalName ++ ":" ++ Text.ofNat count) =
      (Ledger.conditionalName, Text.ofNat count) := rfl
  simp only [LineStep.ofField, parts, if_true, LineStep.ofNumber, named]

theorem close_not_mem_numbered (count : Nat) : .char '\x7d' ∉ Ledger.conditionalName ++ ":" ++ Text.ofNat count :=
  List.not_mem_append (List.not_mem_append (by decide) (by decide)) (Text.not_mem_ofNat (by decide) _)

theorem renders_entered {c : Conditional} (short : Numeral.isLong conditionals.length = false) :
    Renders line (conditionals ++ [c])
      (.field (Ledger.conditionalName ++ ":" ++ Text.ofNat conditionals.length))
      (Ledger.placeholder (Ledger.conditionalName ++ ":" ++ Text.ofNat conditionals.length))
      fun r => if c.applies line.level then some (.ok c.sequence, r.follow c) else some (.ok [], r) := by
  refine ⟨close_not_mem_numbered _, rfl, fun later grown r => ?_⟩
  have found : later[conditionals.length]? = some c := by
    obtain ⟨more, rfl⟩ := grown
    simp
  rw [LineStep.ofSegment, ofField_numbered found short]
  by_cases applies : c.applies line.level <;> simp [applies, LineStep.run]

section

variable [CharNames]

theorem runFrom_compileAndExecute (colors : Bool) (source : Text) (s : Style) (before : List Note) :
    (Noted.runFrom (PureProgram.compileAndExecute [] colors source s) before).1 =
      match Program.read [] colors source with
      | .error e => .error e.fault
      | .ok p =>
        match (PureProgram.execute p s).1 with
        | .ok t => .ok t
        | .error e => .error e.fault := by
  unfold PureProgram.compileAndExecute Program.compile
  rw [Noted.runFrom_bind]
  cases Program.read (σ := Unit) [] colors source with
  | error e => rfl
  | ok p =>
      simp only [Noted.runFrom_bind, Noted.runFrom_report, Noted.runFrom_pure]
      cases (PureProgram.execute p s).1 <;> rfl

theorem outcome_compileAndExecute (colors : Bool) (source : Text) (s : Style) :
    (PureProgram.compileAndExecute [] colors source s).outcome.1 =
      match Program.read [] colors source with
      | .error e => .error e.fault
      | .ok p =>
        match (PureProgram.execute p s).1 with
        | .ok t => .ok t
        | .error e => .error e.fault :=
  runFrom_compileAndExecute colors source s []

theorem toOption_wayBack (colors : Bool) (outer : Style) (l : Ledger) :
    (Ledger.wayBack colors outer l).1.toOption = wayBack colors outer := by
  unfold Ledger.wayBack wayBack
  cases colors with
  | false => rfl
  | true =>
      simp only [if_true, outcome_compileAndExecute]
      cases Program.read (σ := Unit) [] true outer.directives with
      | error e => rfl
      | ok p =>
          simp only
          cases (PureProgram.execute p Style.plain).1 <;> rfl

theorem wayBack_of_ledger {colors : Bool} {outer : Style} {l l' : Ledger} {previous : Text}
    (found : Ledger.wayBack colors outer l = (.ok previous, l')) : wayBack colors outer = some previous := by
  rw [← toOption_wayBack colors outer l, found]
  rfl

theorem conditional_of_run {colors : Bool} {outer : Style} {target fragment sequence previous : Text} {p : PureProgram}
    (read : Program.read [] colors fragment = .ok p) (ran : (PureProgram.execute p outer).1 = .ok sequence)
    (back : wayBack colors outer = some previous) :
    (fun r => (conditional colors line (.text target) fragment outer r).map
        fun (t, r) => ((.ok t : Except Fault Text), r)) = fun r =>
      if Conditional.applies ⟨target.lower, sequence, previous⟩ line.level then
        some (.ok sequence, r.follow ⟨target.lower, sequence, previous⟩)
      else some (.ok [], r) := by
  funext r
  have step : conditional colors line (.text target) fragment outer r =
      if Conditional.applies ⟨target.lower, sequence, previous⟩ line.level then
        some (sequence, r.follow ⟨target.lower, sequence, previous⟩)
      else some ([], r) := by
    simp only [conditional, read, ran, back, Conditional.applies, Text.lower_lower, decide_eq_true_eq]
    rfl
  rw [step]
  by_cases applies : Conditional.applies ⟨target.lower, sequence, previous⟩ line.level <;> simp [applies]

theorem exists_renders_record {colors : Bool} {outer : Style} {level : Arg} {fragment t : Text} {l l' : Ledger}
    (fieldless : Segment.Fieldless fragment)
    (ran : Ledger.record colors outer level.toValue (.ofText fragment) l = (.ok t, l')) :
    ∃ piece, Renders line l'.conditionals piece t fun r =>
      (conditional colors line level fragment outer r).map fun (t, r) => (.ok t, r) := by
  simp only [Ledger.record, Value.ofText] at ran
  cases read : Program.read (σ := Unit) [] colors fragment with
  | error e =>
      have step : conditional colors line level fragment outer =
          fun r => some (Ledger.diagnostic "COMPILE" e.fault.message, r) := by
        funext r
        simp only [conditional, read]
      simp only [read] at ran
      split at ran
      · cases ran
        rw [step]
        exact ⟨_, renders_diagnostic (by decide) (Program.fieldless_of_read fieldless read)⟩
      · cases ran
  | ok p =>
      simp only [read, Ledger.runFragment] at ran
      have kept := Ledger.wayBack_conditionals colors outer (l.report p.note)
      rcases back : Ledger.wayBack colors outer (l.report p.note) with ⟨fault | previous, l₁⟩
      · simp [back] at ran
      · rw [back] at kept
        simp only [back] at ran
        cases result : (PureProgram.execute p outer).1 with
        | error e =>
            have step : conditional colors line level fragment outer =
                fun r => some (Ledger.diagnostic "EXECUTE" e.fault.message, r) := by
              funext r
              simp only [conditional, read, result]
            have message := Program.fieldless_of_execute (Program.builtin_of_read read) result
            simp only [result] at ran
            cases ran
            rw [step]
            exact ⟨_, renders_diagnostic (by decide) message⟩
        | ok sequence =>
            simp only [result] at ran
            cases level with
            | number n => cases ran
            | text target =>
                change Ledger.enter l₁ ⟨target.lower, sequence, previous⟩ = _ at ran
                unfold Ledger.enter at ran
                split at ran
                · cases ran
                · next short =>
                    cases ran
                    rw [conditional_of_run read result (wayBack_of_ledger back)]
                    exact ⟨_, renders_entered (by simpa using short)⟩

end

variable (line)

theorem exists_renders_action [CharNames] {colors : Bool} {a : Ledger.Action} {name : Text} {args : List Arg}
    {position : Nat}
    {outer : Style} {t : Text} {l l' : Ledger} (plain : (Node.call name args position).Plain)
    (named : Ledger.Action.ofName? name = some a)
    (ran : a.run colors (some outer) (args.map Arg.toValue) l = (.ok t, l')) :
    ∃ piece, Renders line l'.conditionals piece t (action colors line a args outer) := by
  have same : a.name = name := by simpa using List.find?_some named
  obtain ⟨fieldless, -, hosted⟩ := plain
  cases Ledger.Action.run_eq_ok.1 ran with
  | field arg =>
      obtain ⟨closed, host⟩ := hosted same.symm arg List.mem_cons_self
      exact ⟨_, renders_field closed host⟩
  | store => exact ⟨_, renders_store⟩
  | restore => exact ⟨_, renders_restore⟩
  | record found recorded =>
      unfold Ledger.Action.fragment? at found
      split at found
      · cases found
        exact exists_renders_record (fieldless _ (by simp)) recorded
      · cases found
        exact exists_renders_record (fieldless _ (by simp)) recorded
      · cases found

theorem exists_renders_directive {colors : Bool} {d : Directive} {args : List Arg} {position : Nat}
    {at_ reached : Program.Reached Ledger} {t : Text} (plain : (Node.call d.name args position).Plain)
    {effect : Effect} (found : d.effect? args = some effect)
    (ran : Program.runEffect colors d.name position effect at_ = (.ok t, reached)) :
    Renders line reached.2.conditionals (.literal t) t (fun r => some (.ok t, r)) ∧
      directive colors d args at_.1 = some (t, reached.1) := by
  have glyphs (glyph : Text) (color : Int) (drawn : effect = .leave glyph color ∨ effect = .enter color glyph) :
      .char '\x7b' ∉ glyph := by
    obtain ⟨-, braces, -⟩ := plain
    rcases drawn with rfl | rfl
    · obtain ⟨rfl, rfl⟩ := Directive.of_effect?_leave found
      exact braces (.inl rfl) glyph (by simp)
    · obtain ⟨rfl, rfl⟩ := Directive.of_effect?_enter found
      exact braces (.inr rfl) glyph (by simp)
  obtain ⟨⟨colored, -⟩, rfl, rfl⟩ := Program.runEffect_eq_ok.1 ran
  refine ⟨renders_plain (Effect.brace_not_mem_output colors at_.1 effect glyphs), ?_⟩
  simp only [directive, found, if_pos colored]

theorem exists_renders_node [CharNames] {colors : Bool} {all : List Node} {n : Node}
    {at_ reached : Program.Reached Ledger}
    {t : Text} (plain : n.Plain) (outside : ∀ u, n = .text u → .char '\x7b' ∉ u)
    (ran : (Formatter.program colors all).runNode n at_ = (.ok t, reached)) :
    ∃ piece step, Renders line reached.2.conditionals piece t step ∧
      ∀ r, node colors line n at_.1 r = (step r).map fun (shown, r) => (shown, reached.1, r) := by
  cases n with
  | text u =>
      cases ran
      exact ⟨_, _, renders_plain (outside t rfl), fun r => rfl⟩
  | call name args position =>
      simp only [Program.runNode, Program.runCall, Formatter.program, Formatter.find?_registry] at ran
      cases named : Ledger.Action.ofName? name with
      | some a =>
          simp only [named, Ledger.Action.extension] at ran
          rcases result : a.run colors (some at_.1) (args.map Arg.toValue) at_.2 with ⟨fault | u, l'⟩
          · simp [result] at ran
          · simp only [result, Prod.mk.injEq, Except.ok.injEq] at ran
            obtain ⟨rfl, rfl⟩ := ran
            obtain ⟨piece, renders⟩ := exists_renders_action line plain named result
            exact ⟨piece, _, renders, fun r => by simp only [node, named]⟩
      | none =>
          cases known : Directive.all.find? (·.name = name) with
          | none => simp [named, known] at ran
          | some d =>
              have same : d.name = name := by simpa using List.find?_some known
              subst same
              simp only [named, known, Option.map_some, Directive.effect] at ran
              cases found : d.effect? args with
              | none => simp [found] at ran
              | some effect =>
                  simp only [found] at ran
                  obtain ⟨renders, step⟩ := exists_renders_directive line plain found ran
                  exact ⟨_, _, renders, fun r => by simp only [node, named, known, step, Option.map_some]⟩

theorem exists_pieces_of_runNodes [CharNames] {colors : Bool} {all parsed : List Node}
    {at_ reached : Program.Reached Ledger} {text : Text} (plain : ∀ n ∈ parsed, n.Plain)
    (outside : ∀ u, .text u ∈ parsed → .char '\x7b' ∉ u)
    (ran : (Formatter.program colors all).runNodes parsed at_ = (.ok text, reached)) :
    ∃ pieces : List Segment, (∀ piece ∈ pieces, piece.Sound) ∧ text = pieces.flatMap Segment.source ∧
      ∀ later, reached.2.conditionals <+: later → ∀ r outcome r',
        LineStep.runAll (pieces.map (LineStep.ofSegment later line)) r = (outcome, r') →
          ∃ s, nodes colors line parsed at_.1 r = some (outcome, s, r') := by
  induction parsed generalizing at_ text with
  | nil =>
      cases ran
      refine ⟨[], by simp, rfl, fun later _ r outcome r' runs => ?_⟩
      cases runs
      exact ⟨_, rfl⟩
  | cons n rest ih =>
      rw [Program.runNodes_cons, Sequel.andThen_eq_ok] at ran
      obtain ⟨t, u, between, here, onward, rfl⟩ := ran
      obtain ⟨piece, step, ⟨sound, source, renders⟩, walked⟩ :=
        exists_renders_node line (plain n List.mem_cons_self)
          (fun u same => outside u (same ▸ List.mem_cons_self)) here
      obtain ⟨pieces, soundRest, sourceRest, rendersRest⟩ :=
        ih (fun other member => plain other (List.mem_cons_of_mem _ member))
          (fun u member => outside u (List.mem_cons_of_mem _ member)) onward
      -- The rest may enter more conditional styles, but those this piece refers to keep their numbers.
      have grows : between.2.conditionals <+: reached.2.conditionals := by
        have adds := (Formatter.runNodes_grows colors all rest between).1
        rwa [onward] at adds
      refine ⟨piece :: pieces, ?_, by rw [List.flatMap_cons, source, sourceRest], fun later grown r outcome r' runs => ?_⟩
      · rintro other (_ | ⟨_, member⟩)
        · exact sound
        · exact soundRest other member
      · have known := renders later (grows.trans grown) r
        rw [List.map_cons, LineStep.runAll] at runs
        rcases stepped : (LineStep.ofSegment later line piece).run r with ⟨fault | shown, r₁⟩
        · rw [stepped, Sequel.andThen_error] at runs
          cases runs
          exact ⟨between.1, by simp only [nodes, walked, known, stepped, Option.map_some]⟩
        · rw [stepped, Sequel.andThen_ok] at runs
          cases runs
          obtain ⟨s, walks⟩ := rendersRest later grown r₁ _ _ rfl
          exact ⟨s, by simp only [nodes, walked, known, stepped, Option.map_some, walks]⟩

end Walk

/-- Rendering a line with a compiled format is walking over the nodes of the format. The first line starts with
    nothing remembered, and every line with nothing stored. Both succeed exactly when no node is for a time that
    cannot be shown. -/
theorem Formatter.render_eq_walk [CharNames] {colors : Bool} {format : Text} {f : Formatter} {parsed : List Node}
    (compiled : (compile colors format).outcome.1 = .ok f) (read : nodes colors format = .ok parsed)
    (plain : ∀ n ∈ parsed, n.Plain) (line : Line) (r : Restore) :
    (∃ s, Walk.nodes colors line parsed Style.plain r.forget = some ((f.render line r).1, s, (f.render line r).2)) ∧
      ((∃ text, (f.render line r).1 = .ok text) ↔ ∀ n ∈ parsed, ¬ n.Unencodable line.clock) := by
  obtain ⟨parsed', written, reached, read', ran, rfl⟩ := outcome_compile_eq_ok.1 compiled
  obtain rfl : parsed = parsed' := Except.ok.inj (read.symm.trans read')
  have outside : ∀ u, .text u ∈ parsed → .char '\x7b' ∉ u := fun u member =>
    Node.brace_not_mem_of_readFrom (d := none) rfl read member
  obtain ⟨pieces, sound, made, renders⟩ := Walk.exists_pieces_of_runNodes line plain outside ran
  have rendered :=
    calc (ofTemplate written reached.2.conditionals).render line r
      _ = (ofTemplate written reached.2.conditionals).template.renderSegments line pieces r.forget :=
          Template.render_of_pieces _ made sound line r.forget
      _ = LineStep.runAll (pieces.map (LineStep.ofSegment reached.2.conditionals line)) r.forget :=
          renderSegments_ofTemplate _ _ line pieces r.forget
  obtain ⟨s, walks⟩ := renders reached.2.conditionals List.prefix_rfl r.forget _ _ rendered.symm
  exact ⟨⟨s, walks⟩, Walk.exists_ok_of_nodes walks⟩

section

attribute [local instance] CharNames.none

/-- The format has a field, a conditional style, a broken one and a way back behind them. -/
theorem Formatter.render_eq_walk_past_broken_style :
    let format : Text :=
      "\x7bbg 4\x7d$\x7blevel\x7d\x7bonerror \"\x7bbold\x7d\"\x7d\x7boninfo \"\x7bfg\"\x7d\x7brestore\x7d"
    ∃ f parsed s text, (compile true format).outcome.1 = .ok f ∧ nodes true format = .ok parsed ∧
      (∀ n ∈ parsed, n.Plain) ∧ (f.render (Line.plain .error) {}).1 = .ok text ∧
      Walk.nodes true (Line.plain .error) parsed Style.plain {} = some (.ok text, s, (f.render (Line.plain .error) {}).2) := by
  intro format
  obtain ⟨f, compiled, -⟩ :=
    exists_of_any (compile true format).outcome.1 (fun _ => true) (by decide +kernel)
  obtain ⟨parsed, -, -, read, -⟩ := outcome_compile_eq_ok.1 compiled
  have tested : (nodes true format).toOption.all (fun parsed =>
      ∀ n ∈ parsed, n.Plain ∧ ¬ n.Unencodable (Line.plain .error).clock) = true := by
    decide +kernel
  rw [read] at tested
  have safe : ∀ n ∈ parsed, n.Plain ∧ ¬ n.Unencodable (Line.plain .error).clock := by
    simpa only [Except.toOption, Option.all_some, decide_eq_true_eq] using tested
  have plain : ∀ n ∈ parsed, n.Plain := fun n member => (safe n member).1
  obtain ⟨⟨s, walks⟩, shows⟩ := render_eq_walk compiled read plain (Line.plain .error) {}
  obtain ⟨text, shown⟩ := shows.2 fun n member => (safe n member).2
  exact ⟨f, parsed, s, text, compiled, read, plain, shown, by rw [← shown]; exact walks⟩

end

end LogStyle
