import LogStyle.Proofs.Conditional.Entry
import LogStyle.Proofs.Program.Colors

/-! # Marks of nodes

While a format is compiled each of its nodes leaves a mark: a text of the template, or a conditional style under
its number. Which mark that is depends on the node and the style in force, and not on the colours, which only
change how marks are written. So a format compiles with colours exactly when it does without.
-/

namespace LogStyle

/-- What a node of a format leaves behind. What is written for it may depend on the colours. -/
inductive Mark where
  | shown (t : Bool → Text)
  /-- A style for the lines of a level: what leads to it, and the style in force before. -/
  | style (target : Text) (sequence : Bool → Text) (outer : Style)

namespace Mark

/-- What a mark puts in the template, behind some conditional styles. -/
def written (colors : Bool) (count : Nat) : Mark → Text
  | shown t => t colors
  | style _ _ _ => Ledger.placeholder (Ledger.conditionalName ++ ":" ++ Text.ofNat count)

def entered (colors : Bool) : Mark → List Conditional
  | shown _ => []
  | style target sequence outer => [⟨target, sequence colors, outer.spelled colors⟩]

/-- A mark whose number, if it has one, can be written out. -/
def Numbered (count : Nat) : Mark → Prop
  | shown _ => True
  | style _ _ _ => Numeral.isLong count = false

def writtenAll (colors : Bool) : Nat → List Mark → Text
  | _, [] => []
  | count, mark :: rest => mark.written colors count ++ writtenAll colors (count + (mark.entered colors).length) rest

def enteredAll (colors : Bool) (marks : List Mark) : List Conditional :=
  marks.flatMap (entered colors)

theorem length_entered (mark : Mark) (colors colors' : Bool) :
    (mark.entered colors).length = (mark.entered colors').length := by
  cases mark <;> rfl

theorem length_enteredAll (marks : List Mark) (colors colors' : Bool) :
    (enteredAll colors marks).length = (enteredAll colors' marks).length := by
  simp only [enteredAll, List.length_flatMap, length_entered _ colors colors']

def NumberedAll : Nat → List Mark → Prop
  | _, [] => True
  | count, mark :: rest => mark.Numbered count ∧ NumberedAll (count + (mark.entered true).length) rest

theorem writtenAll_append (colors : Bool) (count : Nat) (front back : List Mark) :
    writtenAll colors count (front ++ back) =
      writtenAll colors count front ++ writtenAll colors (count + (enteredAll colors front).length) back := by
  induction front generalizing count with
  | nil => rfl
  | cons mark rest ih =>
      simp only [List.cons_append, writtenAll, ih, enteredAll, List.flatMap_cons, List.length_append, List.append_assoc,
        Nat.add_assoc]

theorem numberedAll_append {count : Nat} {front back : List Mark} :
    NumberedAll count (front ++ back) ↔
      NumberedAll count front ∧ NumberedAll (count + (enteredAll true front).length) back := by
  induction front generalizing count with
  | nil => simp [NumberedAll, enteredAll]
  | cons mark rest ih =>
      simp only [List.cons_append, NumberedAll, ih, enteredAll, List.flatMap_cons, List.length_append, Nat.add_assoc,
        and_assoc]

end Mark

namespace Node

def fragment? : Node → Option (Arg × Text)
  | .text _ => none
  | .call name args _ => (Ledger.Action.ofName? name).bind (·.fragment? args)

/-- The mark that a node leaves where a style is in force, and the style that is in force behind it. -/
inductive Leaves [CharNames] : Node → Style → Mark → Style → Prop where
  | text (t : Text) (s : Style) : Leaves (.text t) s (.shown fun _ => t) s
  | effect {n : Node} {effect : Effect} {s : Style} (found : n.effect? = some effect)
      (colored : ∀ color ∈ effect.color?, Style.IsColor color) :
      Leaves n s (.shown fun colors => effect.output colors s) (effect.apply s)
  | field {name : Text} (named : Ledger.Action.ofName? name = some .field) (arg : Arg) (position : Nat) (s : Style) :
      Leaves (.call name [arg] position) s (.shown fun _ => Ledger.placeholder arg.toValue.shown) s
  | store {name : Text} (named : Ledger.Action.ofName? name = some .store) (position : Nat) (s : Style) :
      Leaves (.call name [] position) s (.shown fun _ => Ledger.placeholder Ledger.storeName) s
  | restore {name : Text} (named : Ledger.Action.ofName? name = some .restore) (position : Nat) (s : Style) :
      Leaves (.call name [] position) s (.shown fun _ => Ledger.placeholder Ledger.restoreName) s
  | unread {n : Node} {level : Arg} {fragment : Text} {e : CompileError} {s : Style}
      (conditional : n.fragment? = some (level, fragment)) (read : Program.read (σ := Unit) [] true fragment = .error e)
      (kind : e.fault.kind = .compile) :
      Leaves n s (.shown fun _ => Ledger.diagnostic "COMPILE" e.fault.message) s
  | broken {n : Node} {level : Arg} {fragment : Text} {p : PureProgram} {e : ExecuteError} {s final : Style}
      (conditional : n.fragment? = some (level, fragment)) (read : Program.read [] true fragment = .ok p)
      (failed : ∀ colors, PureProgram.execute (p.withColors colors) s = (.error e, final)) :
      Leaves n s (.shown fun _ => Ledger.diagnostic "EXECUTE" e.fault.message) s
  | entered {n : Node} {target fragment : Text} {p : PureProgram} {s final : Style} {sequence : Bool → Text}
      (conditional : n.fragment? = some (.text target, fragment)) (read : Program.read [] true fragment = .ok p)
      (ran : ∀ colors, PureProgram.execute (p.withColors colors) s = (.ok (sequence colors), final)) :
      Leaves n s (.style target.lower sequence s) s

/-- The marks that nodes leave one after another. -/
inductive LeavesAll [CharNames] : List Node → Style → List Mark → Style → Prop where
  | nil (s : Style) : LeavesAll [] s [] s
  | cons {n : Node} {rest : List Node} {s between final : Style} {mark : Mark} {marks : List Mark}
      (here : Leaves n s mark between) (later : LeavesAll rest between marks final) :
      LeavesAll (n :: rest) s (mark :: marks) final

variable {front back : List Node} {s final : Style} {marks : List Mark}

theorem exists_leavesAll_of_append [CharNames] (whole : LeavesAll (front ++ back) s marks final) :
    ∃ early late between, marks = early ++ late ∧ LeavesAll front s early between ∧
      LeavesAll back between late final := by
  induction front generalizing s marks with
  | nil => exact ⟨[], marks, s, rfl, .nil s, whole⟩
  | cons n rest ih =>
      cases whole with
      | cons here later =>
          obtain ⟨early, late, between, rfl, front, back⟩ := ih later
          exact ⟨_ :: early, late, between, rfl, .cons here front, back⟩

theorem Leaves.inRange [CharNames] {n : Node} {mark : Mark} (leaves : Leaves n s mark final) (inRange : s.InRange) :
    final.InRange := by
  cases leaves with
  | effect found colored => exact Effect.inRange_apply inRange colored
  | text | field | store | restore | unread | broken | entered => exact inRange

theorem LeavesAll.inRange [CharNames] (leaves : LeavesAll front s marks final) (inRange : s.InRange) : final.InRange := by
  induction leaves with
  | nil => exact inRange
  | cons here _ ih => exact ih (here.inRange inRange)

end Node

theorem Ledger.Action.ofName?_directive (d : Directive) : ofName? d.name = none := by
  cases d <;> rfl

namespace Formatter

open Node

variable {colors : Bool} {all : List Node} {n : Node} {s final : Style} {t : Text} {l l' : Ledger}

section

variable [CharNames]

theorem exists_leaves_of_record {level : Arg} {fragment : Text} (inRange : s.InRange)
    (conditional : n.fragment? = some (level, fragment))
    (recorded : l.record colors s level.toValue (.ofText fragment) = (.ok t, l')) :
    ∃ mark, Leaves n s mark s ∧ mark.Numbered l.conditionals.length ∧ t = mark.written colors l.conditionals.length ∧
      l'.conditionals = l.conditionals ++ mark.entered colors := by
  have all := Ledger.recorded (Walk.wayBack_eq colors inRange) level fragment l
  rw [recorded] at all
  generalize written : (Except.ok t : Except Fault Text) = result at all
  generalize same : l'.conditionals = conditionals at all
  cases all with
  | escaped | nameless | full => cases written
  | unread e read kind =>
      cases written
      rw [Program.read_withColors [] true] at read
      cases found : Program.read (σ := Unit) [] true fragment with
      | ok p => simp [found, Except.map] at read
      | error e' =>
          obtain rfl : e' = e := by simpa [found, Except.map] using read
          exact ⟨_, .unread conditional found kind, trivial, rfl, by simp [Mark.entered]⟩
  | broken p e read ran =>
      cases written
      rw [Program.read_withColors [] true] at read
      obtain ⟨p, found, rfl⟩ := Outcome.map_eq_ok.1 read
      obtain ⟨final, ⟨e', failed⟩ | ⟨output, runs, -⟩⟩ := Program.execute_withColors p s
      · obtain rfl : e' = e := by simpa [failed] using ran
        exact ⟨_, .broken conditional found failed, trivial, rfl, by simp [Mark.entered]⟩
      · simp [runs] at ran
  | entered p sequence read ran target named short =>
      cases written
      cases named
      rw [Program.read_withColors [] true] at read
      obtain ⟨p, found, rfl⟩ := Outcome.map_eq_ok.1 read
      obtain ⟨final, ⟨e', failed⟩ | ⟨output, runs, -⟩⟩ := Program.execute_withColors p s
      · simp [failed] at ran
      · obtain rfl : output colors = sequence := by simpa [runs] using ran
        exact ⟨_, .entered conditional found runs, short, rfl, rfl⟩

theorem exists_leaves {reached : Program.Reached Ledger} (inRange : s.InRange)
    (ran : (program colors all).runNode n (s, l) = (.ok t, reached)) :
    ∃ mark, Leaves n s mark reached.1 ∧ mark.Numbered l.conditionals.length ∧
      t = mark.written colors l.conditionals.length ∧
      reached.2.conditionals = l.conditionals ++ mark.entered colors := by
  cases n with
  | text u =>
      cases ran
      exact ⟨_, .text t s, trivial, rfl, by simp [Mark.entered]⟩
  | call name args position =>
      cases named : Ledger.Action.ofName? name with
      | some a =>
          rw [Program.runNode, runCall_of_ofName? named] at ran
          rcases result : a.run colors (some s) (args.map Arg.toValue) l with ⟨fault | u, l'⟩
          · simp [result] at ran
          · simp only [result, Prod.mk.injEq, Except.ok.injEq] at ran
            obtain ⟨rfl, rfl⟩ := ran
            cases Ledger.Action.run_eq_ok.1 result with
            | field arg => exact ⟨_, .field named arg position s, trivial, rfl, by simp [Mark.entered]⟩
            | store => exact ⟨_, .store named position s, trivial, rfl, by simp [Mark.entered]⟩
            | restore => exact ⟨_, .restore named position s, trivial, rfl, by simp [Mark.entered]⟩
            | record found recorded =>
                refine exists_leaves_of_record inRange ?_ recorded
                rw [Node.fragment?, named, Option.bind_some, found]
      | none =>
          have meaning := find?_registry colors name
          rw [named] at meaning
          cases known : Directive.all.find? (·.name = name) with
          | none =>
              rw [known] at meaning
              simp [Program.runNode, Program.runCall, program, meaning] at ran
          | some d =>
              rw [known] at meaning
              obtain ⟨effect, found, had⟩ := (Program.runCall_eq_ok (p := program colors all) meaning).1 ran
              obtain ⟨⟨colored, -⟩, rfl, rfl⟩ := Program.runEffect_eq_ok.1 had
              have effects : (Node.call name args position).effect? = some effect := by
                rw [Node.effect?, known, Option.bind_some, found]
              exact ⟨_, .effect effects colored, trivial, rfl, by simp [Mark.entered]⟩

theorem runNode_of_does {name : Text} {a : Ledger.Action} (named : Ledger.Action.ofName? name = some a) {args : List Arg}
    (does : a.Does colors s l args t l') (position : Nat) :
    (program colors all).runNode (.call name args position) (s, l) = (.ok t, s, l') := by
  rw [Program.runNode, runCall_of_ofName? named, Ledger.Action.run_eq_ok.2 does]

theorem runs_of_record {level : Arg} {fragment : Text} (inRange : s.InRange)
    (conditional : n.fragment? = some (level, fragment)) {entered : List Conditional}
    (known : ∀ {result conditionals}, Ledger.Recorded colors s level fragment (s.spelled colors) l result conditionals →
      result = .ok t ∧ conditionals = l.conditionals ++ entered) :
    ∃ l', (program colors all).runNode n (s, l) = (.ok t, s, l') ∧ l'.conditionals = l.conditionals ++ entered := by
  obtain ⟨written, same⟩ := known (Ledger.recorded (Walk.wayBack_eq colors inRange) level fragment l)
  cases n with
  | text u => cases conditional
  | call name args position =>
      obtain ⟨a, named, found⟩ := Option.bind_eq_some_iff.1 conditional
      exact ⟨_, runNode_of_does named (.record found (Prod.ext written rfl)) position, same⟩

theorem runNode_of_effect? (inRange : s.InRange) {effect : Effect} (found : n.effect? = some effect)
    (colored : ∀ color ∈ effect.color?, Style.IsColor color) :
    (program colors all).runNode n (s, l) = (.ok (effect.output colors s), effect.apply s, l) := by
  cases n with
  | text t => cases found
  | call name args position =>
      obtain ⟨d, known, fits⟩ := Option.bind_eq_some_iff.1 found
      obtain rfl : d.name = name := by simpa using List.find?_some known
      have meaning := find?_registry colors d.name
      rw [Ledger.Action.ofName?_directive, known] at meaning
      exact (Program.runCall_eq_ok meaning).2 ⟨effect, fits, Program.runEffect_eq_ok.2
        ⟨⟨colored, Effect.isLong_of_mem_recalled inRange⟩, rfl, rfl⟩⟩

theorem runs_of_leaves (colors : Bool) (all : List Node) (inRange : s.InRange) {mark : Mark}
    (leaves : Leaves n s mark final) (l : Ledger) (numbered : mark.Numbered l.conditionals.length) :
    ∃ l', (program colors all).runNode n (s, l) = (.ok (mark.written colors l.conditionals.length), final, l') ∧
      l'.conditionals = l.conditionals ++ mark.entered colors := by
  have reread {fragment : Text} {p : PureProgram} (read : Program.read [] true fragment = .ok p) :
      Program.read [] colors fragment = .ok (p.withColors colors) := by
    rw [Program.read_withColors [] true, read]
    rfl
  cases leaves with
  | text t => exact ⟨l, rfl, by simp [Mark.entered]⟩
  | effect found colored => exact ⟨l, runNode_of_effect? inRange found colored, by simp [Mark.entered]⟩
  | field named arg position => exact ⟨l, runNode_of_does named (.field arg) position, by simp [Mark.entered]⟩
  | store named position => exact ⟨l, runNode_of_does named .store position, by simp [Mark.entered]⟩
  | restore named position => exact ⟨l, runNode_of_does named .restore position, by simp [Mark.entered]⟩
  | unread conditional read kind =>
      apply runs_of_record inRange conditional
      intro result conditionals recorded
      rw [Mark.entered, List.append_nil]
      apply recorded.of_unread _ kind
      rw [Program.read_withColors [] true, read]
      rfl
  | broken conditional read failed =>
      apply runs_of_record inRange conditional
      intro result conditionals recorded
      rw [Mark.entered, List.append_nil]
      exact recorded.of_broken (reread read) (congrArg Prod.fst (failed colors))
  | entered conditional read ran =>
      apply runs_of_record inRange conditional
      intro result conditionals recorded
      exact recorded.of_entered (reread read) (congrArg Prod.fst (ran colors)) numbered

theorem exists_leavesAll {parsed : List Node} {reached : Program.Reached Ledger} (inRange : s.InRange)
    (ran : (program colors all).runNodes parsed (s, l) = (.ok t, reached)) :
    ∃ marks, LeavesAll parsed s marks reached.1 ∧ Mark.NumberedAll l.conditionals.length marks ∧
      t = Mark.writtenAll colors l.conditionals.length marks ∧
      reached.2.conditionals = l.conditionals ++ Mark.enteredAll colors marks := by
  -- Each node starts in the style that those before it leave.
  induction parsed generalizing s l t with
  | nil =>
      cases ran
      exact ⟨[], .nil s, trivial, rfl, (List.append_nil _).symm⟩
  | cons n rest ih =>
      rw [Program.runNodes_cons, Sequel.andThen_eq_ok] at ran
      obtain ⟨u, v, between, here, later, rfl⟩ := ran
      obtain ⟨mark, leaves, numbered, rfl, entered⟩ := exists_leaves inRange here
      obtain ⟨marks, more, numberedAll, rfl, enteredAll⟩ := ih (leaves.inRange inRange) later
      have count : between.2.conditionals.length = l.conditionals.length + (mark.entered true).length := by
        rw [entered, List.length_append, mark.length_entered colors true]
      refine ⟨mark :: marks, .cons leaves more, ⟨numbered, count ▸ numberedAll⟩, ?_, ?_⟩
      · rw [Mark.writtenAll, count, mark.length_entered true colors]
      · rw [enteredAll, entered, Mark.enteredAll, Mark.enteredAll, List.flatMap_cons, List.append_assoc]

theorem runs_of_leavesAll (colors : Bool) (all : List Node) {parsed : List Node} {marks : List Mark}
    (leaves : LeavesAll parsed s marks final) (inRange : s.InRange) (l : Ledger)
    (numbered : Mark.NumberedAll l.conditionals.length marks) :
    ∃ l', (program colors all).runNodes parsed (s, l) =
        (.ok (Mark.writtenAll colors l.conditionals.length marks), final, l') ∧
      l'.conditionals = l.conditionals ++ Mark.enteredAll colors marks := by
  induction leaves generalizing l with
  | nil s => exact ⟨l, rfl, (List.append_nil _).symm⟩
  | @cons n rest s between final mark marks here later ih =>
      obtain ⟨l₁, ran, entered⟩ := runs_of_leaves colors all inRange here l numbered.1
      have count : l₁.conditionals.length = l.conditionals.length + (mark.entered true).length := by
        rw [entered, List.length_append, mark.length_entered colors true]
      obtain ⟨l₂, ranAll, enteredAll⟩ := ih (here.inRange inRange) l₁ (count ▸ numbered.2)
      refine ⟨l₂, ?_, ?_⟩
      · rw [Program.runNodes_cons, ran, Sequel.andThen_ok, ranAll, Mark.writtenAll, count,
          mark.length_entered true colors]
        rfl
      · rw [enteredAll, entered, Mark.enteredAll, Mark.enteredAll, List.flatMap_cons, List.append_assoc]

theorem nodes_eq (colors : Bool) (format : Text) : nodes colors format = nodes true format := by
  have same : (registry colors).knows = (registry true).knows := by
    funext name
    rw [Registry.knows, Registry.knows, find?_registry, find?_registry]
    cases Ledger.Action.ofName? name <;> rfl
  rw [nodes, nodes, same]

/-- A format compiles exactly when its nodes leave marks that can be numbered. Only what is written for the marks
    depends on the colours. -/
theorem compile_iff_leavesAll {colors : Bool} {format : Text} {f : Formatter} :
    (compile colors format).outcome.1 = .ok f ↔
      ∃ parsed marks final, nodes true format = .ok parsed ∧ LeavesAll parsed Style.plain marks final ∧
        Mark.NumberedAll 0 marks ∧ f = ofTemplate (Mark.writtenAll colors 0 marks) (Mark.enteredAll colors marks) := by
  rw [outcome_compile_eq_ok]
  constructor
  · rintro ⟨parsed, text, reached, read, ran, rfl⟩
    obtain ⟨marks, leaves, numbered, rfl, entered⟩ := exists_leavesAll Style.inRange_plain ran
    rw [List.nil_append] at entered
    exact ⟨parsed, marks, reached.1, nodes_eq colors format ▸ read, leaves, numbered, by rw [entered]; rfl⟩
  · rintro ⟨parsed, marks, final, read, leaves, numbered, rfl⟩
    obtain ⟨l, ran, entered⟩ := runs_of_leavesAll colors parsed leaves Style.inRange_plain {} numbered
    rw [List.nil_append] at entered
    exact ⟨parsed, _, _, (nodes_eq colors format).trans read, ran, by rw [entered]; rfl⟩

theorem compiled_of_leavesAll (colors : Bool) {format : Text} {parsed : List Node} {marks : List Mark} {final : Style}
    (read : nodes true format = .ok parsed) (leaves : LeavesAll parsed Style.plain marks final)
    (numbered : Mark.NumberedAll 0 marks) :
    (compile colors format).outcome.1 =
      .ok (ofTemplate (Mark.writtenAll colors 0 marks) (Mark.enteredAll colors marks)) :=
  compile_iff_leavesAll.2 ⟨parsed, marks, final, read, leaves, numbered, rfl⟩

theorem exists_compiled {format : Text} (colors : Bool) {colors' : Bool}
    (compiled : ∃ f, (compile colors' format).outcome.1 = .ok f) : ∃ f, (compile colors format).outcome.1 = .ok f := by
  obtain ⟨f, compiled⟩ := compiled
  obtain ⟨parsed, marks, final, read, leaves, numbered, -⟩ := compile_iff_leavesAll.1 compiled
  exact ⟨_, compiled_of_leavesAll colors read leaves numbered⟩

end

end Formatter

end LogStyle
