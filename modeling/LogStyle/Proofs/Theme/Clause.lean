import LogStyle.Proofs.Program.Argument
import LogStyle.Proofs.Theme.Compile
import LogStyle.Proofs.Theme.Stretch

/-! # Clauses of a theme

The format of a theme's lines is put together from clauses: the stretches of the user's format, and directives
around them. Where every stretch is closed the format is read clause by clause, so what compiling does can be
told from the clauses alone. All of them run from the plain style: what comes between conditional styles leaves
the style alone, and the reset behind each label returns to it.
-/

namespace LogStyle

namespace Theme

/-- A part of the format of a theme's lines. -/
inductive Clause where
  /-- A stretch of the user's format. -/
  | plain (t : Text)
  /-- A style for the lines of one level. -/
  | on (level : Level) (fragment : Text)
  | store
  | restore
  | reset
  deriving Repr, DecidableEq

namespace Clause

def source : Clause → Text
  | plain t => t
  | on level fragment => call ("on" ++ level.lower) fragment
  | store => "\x7bstore\x7d"
  | restore => "\x7brestore\x7d"
  | reset => Formatter.reset

end Clause

/-- The styles of all levels for one use. -/
def preludeClauses (p : Palette) (part : Part) : List Clause :=
  Level.all.map fun level => .on level ((p level).fragment part)

/-- The clauses that a stretch of the user's format becomes. -/
def Stretch.clauses (p : Palette) : Stretch → List Clause
  | between t => [.plain t]
  | label t => [.on .error (p .error).label, .on .fatal (p .fatal).label, .plain t, .reset, .restore]

/-- The clauses of the format of a theme's lines, the reset behind it included. -/
def lineClauses (p : Palette) (format : Text) : List Clause :=
  preludeClauses p .first ++ [.store] ++ (stretches format).flatMap (Stretch.clauses p) ++ [.reset]

theorem conditionals_eq (p : Palette) (part : Part) :
    conditionals p part = (preludeClauses p part).flatMap Clause.source := by
  rw [conditionals, preludeClauses, List.flatMap_map]
  rfl

theorem Stretch.wrapped_eq (p : Palette) (stretch : Stretch) :
    stretch.wrapped (labelConditionals p) "\x7breset\x7d\x7brestore\x7d" =
      (stretch.clauses p).flatMap Clause.source := by
  have onError : ("onerror" : Text) = "on" ++ Level.error.lower := by decide
  have onFatal : ("onfatal" : Text) = "on" ++ Level.fatal.lower := by decide
  have back : ("\x7breset\x7d\x7brestore\x7d" : Text) = Clause.reset.source ++ Clause.restore.source := by
    decide
  cases stretch with
  | between t => exact (List.append_nil t).symm
  | label t =>
      rw [wrapped, labelConditionals, onError, onFatal, back]
      simp only [clauses, List.flatMap_cons, List.flatMap_nil, List.append_nil, List.append_assoc]
      rfl

theorem lineFormat_eq (format : Text) (p : Palette) :
    lineFormat format p ++ Formatter.reset = (lineClauses p format).flatMap Clause.source := by
  rw [lineFormat, lineClauses, conditionals_eq, wrapLabels_eq]
  simp only [List.flatMap_append, List.flatMap_assoc, List.flatMap_cons, List.flatMap_nil, List.append_nil,
    ← Stretch.wrapped_eq]
  rfl

namespace Clause

/-- A clause that is read by itself: no opening brace stands outside of its fields, and none of these is left
    open. -/
def Fits : Clause → Prop
  | plain t => Segment.Closed t ∧ ∀ u, .literal u ∈ Segment.scattered t → .char '\x7b' ∉ u
  | _ => True

/-- What a clause does while a format is compiled: from a ledger it writes a text and leads to a ledger. -/
inductive Runs [CharNames] (colors : Bool) : Clause → Ledger → Text → Ledger → Prop where
  | plain {t : Text} {l : Ledger}
      (full : ∀ body, .field body ∈ Segment.scattered t → body ≠ [] ∧ Literal.Writable body) :
      Runs colors (plain t) l t l
  | on {level : Level} {fragment t : Text} {l l' : Ledger} (isHollow : Text.hollow fragment = true)
      (writable : Literal.Writable fragment)
      (recorded : l.record colors Style.plain (.ofText level.lower) (.ofText fragment) = (.ok t, l')) :
      Runs colors (on level fragment) l t l'
  | store {l : Ledger} : Runs colors store l (Segment.fieldText Ledger.storeName) l
  | restore {l : Ledger} : Runs colors restore l (Segment.fieldText Ledger.restoreName) l
  | reset {l : Ledger} : Runs colors reset l (Formatter.resetSequence colors) l

inductive RunsAll [CharNames] (colors : Bool) : List Clause → Ledger → Text → Ledger → Prop where
  | nil {l : Ledger} : RunsAll colors [] l [] l
  | cons {c : Clause} {rest : List Clause} {l between l' : Ledger} {t u : Text} (here : Runs colors c l t between)
      (later : RunsAll colors rest between u l') : RunsAll colors (c :: rest) l (t ++ u) l'

end Clause

section
variable {colors : Bool} {position : Nat} {rest t : Text} {l : Ledger} {reached : Program.Reached Ledger}

theorem exists_problem_of_two (level : Level) (x y : Value) (args : List Value) :
    ∃ problem, (Ledger.Action.on level).signature.problem? (x :: y :: args).length = some problem := by
  have few : ¬ (x :: y :: args).length < 1 := by simp
  have many : 1 < (x :: y :: args).length := by simp
  have one : (Ledger.Action.on level).signature.params.length = 1 := rfl
  exact ⟨_, by rw [Signature.problem?, one, if_neg few, if_pos many]⟩

theorem writes_word [CharNames] {name : Text} (named : Lexeme.IsName name)
    (known : (Formatter.program colors []).registry.knows name = true) (noDollar : .char '$' ∉ name)
    (at_ : Program.Reached Ledger) :
    (Formatter.program colors []).Writes position (Text.fieldsAsDirectives (("\x7b" ++ name ++ "\x7d") ++ rest)) at_ t
        reached ↔
      ∃ u between v, (Formatter.program colors []).runCall name [] position at_ = (.ok u, between) ∧
        (Formatter.program colors []).Writes (position + 1 + name.length + 1) rest.fieldsAsDirectives between v reached ∧
        t = u ++ v := by
  have plain : .char '$' ∉ ("\x7b" ++ name ++ "\x7d" : Text) :=
    List.not_mem_append (List.not_mem_append (by decide) noDollar) (by decide)
  have source (w : Text) : ("\x7b" ++ name ++ "\x7d" : Text) ++ w = .char '\x7b' :: (name ++ .char '\x7d' :: w) := by
    simp only [List.append_assoc]
    rfl
  rw [Text.fieldsAsDirectives_plain_append plain, source]
  exact Program.writes_call _ named known

section
variable {name : Text} (noDollar : .char '$' ∉ name) (fragment : Text)
include noDollar

theorem fieldsAsDirectives_call (rest : Text) :
    Text.fieldsAsDirectives (call name fragment ++ rest) =
      .char '\x7b' :: (name ++ [.char ' ', .char '"']) ++
        Text.fieldsAsDirectives (Literal.encodeBody fragment ++ .char '"' :: .char '\x7d' :: rest) := by
  have front : .char '$' ∉ .char '\x7b' :: (name ++ [.char ' ', .char '"']) := by simp [noDollar]
  have source : call name fragment ++ rest =
      .char '\x7b' :: (name ++ [.char ' ', .char '"']) ++ (Literal.encodeBody fragment ++ .char '"' :: .char '\x7d' :: rest) := by
    simp only [call, Literal.encode_eq, List.append_assoc, List.cons_append, List.nil_append]
    rfl
  rw [source, Text.fieldsAsDirectives_plain_append front]

theorem fieldsAsDirectives_call_of_hollow (isHollow : Text.hollow fragment = true) (rest : Text) :
    Text.fieldsAsDirectives (call name fragment ++ rest) =
      .char '\x7b' :: (name ++ .char ' ' :: (Literal.encode fragment ++ .char '\x7d' :: rest.fieldsAsDirectives)) := by
  rw [fieldsAsDirectives_call noDollar, Text.fieldsAsDirectives_of_hollow isHollow,
    Text.fieldsAsDirectives_cons (by decide), Text.fieldsAsDirectives_cons (by decide), Literal.encode_eq]
  simp only [List.append_assoc, List.cons_append, List.nil_append]

theorem exists_call_of_not_hollow [CharNames] (named : Lexeme.IsName name) (isHollow : Text.hollow fragment = false)
    {knows : Text → Bool} {nodes : List Node}
    (read : Node.readAt knows position (Text.fieldsAsDirectives (call name fragment ++ rest)) = .ok nodes) :
    ∃ x y args more, nodes = .call name (x :: y :: args) position :: more := by
  have close : .char '\x7d' ∈ .char '\x7d' :: rest := List.mem_cons_self
  obtain ⟨a, body, after, full, closed, written⟩ := Text.exists_field_of_not_hollow isHollow close
  have shape : .char '\x7b' :: (name ++ [.char ' ', .char '"']) ++
      (Literal.encodeBody a ++ (Segment.field body).directive ++ after) =
      .char '\x7b' :: (name ++ .char ' ' :: .char '"' :: (Literal.encodeBody a ++ (Segment.field body).directive ++ after)) := by
    simp only [List.append_assoc, List.cons_append, List.nil_append]
  rw [fieldsAsDirectives_call noDollar, written, shape] at read
  exact Node.exists_call_of_field named full closed read

end

theorem writes_on [CharNames] (level : Level) (fragment : Text) :
    (Formatter.program colors []).Writes position
        (Text.fieldsAsDirectives (call ("on" ++ level.lower) fragment ++ rest)) (Style.plain, l) t reached ↔
      ∃ u l' v, (Clause.on level fragment).Runs colors l u l' ∧
        (Formatter.program colors []).Writes
          (position + 1 + ("on" ++ level.lower : Text).length + 1 + (Literal.encode fragment).length + 1)
          rest.fieldsAsDirectives (Style.plain, l') v reached ∧ t = u ++ v := by
  have named : Lexeme.IsName ("on" ++ level.lower) := by cases level <;> decide
  have noDollar : .char '$' ∉ ("on" ++ level.lower : Text) := by cases level <;> decide
  have meaning : Ledger.Action.ofName? ("on" ++ level.lower) = some (.on level) :=
    (Ledger.Action.on level).ofName?_name
  have known : (Formatter.program colors []).registry.knows ("on" ++ level.lower) = true :=
    Formatter.knows_of_ofName? meaning colors
  have called := Formatter.runCall_of_ofName? meaning colors []
  generalize ("on" ++ level.lower : Text) = name at named noDollar known called ⊢
  cases isHollow : Text.hollow fragment with
  | true =>
      have same : (Ledger.Action.on level).run colors (some (Style.plain, l).1) ([Arg.text fragment].map Arg.toValue)
          (Style.plain, l).2 = l.record colors Style.plain (.ofText level.lower) (.ofText fragment) := rfl
      have ran (place : Nat) := called [.text fragment] place (Style.plain, l)
      rw [same] at ran
      rw [fieldsAsDirectives_call_of_hollow noDollar fragment isHollow,
        Program.writes_callWith (Formatter.program colors []) named known]
      constructor
      · rintro ⟨writable, u, between, v, here, writes, rfl⟩
        rw [ran] at here
        rcases recorded : l.record colors Style.plain (.ofText level.lower) (.ofText fragment) with ⟨fault | u', l'⟩
        · simp [recorded] at here
        · simp only [recorded, Prod.mk.injEq, Except.ok.injEq] at here
          obtain ⟨rfl, rfl⟩ := here
          exact ⟨_, l', v, .on isHollow writable recorded, writes, rfl⟩
      · rintro ⟨u, l', v, here, writes, rfl⟩
        cases here with
        | on _ writable recorded => exact ⟨writable, u, _, v, by rw [ran, recorded], writes, rfl⟩
  | false =>
      refine iff_of_false ?_ ?_
      · rintro ⟨nodes, read, runs⟩
        obtain ⟨x, y, args, more, rfl⟩ := exists_call_of_not_hollow noDollar fragment named isHollow read
        -- Two arguments are one too many.
        obtain ⟨problem, fails⟩ := exists_problem_of_two level x.toValue y.toValue (args.map Arg.toValue)
        rw [Program.runNodes_cons, Program.runNode, called] at runs
        simp only [List.map_cons, Ledger.Action.run, fails] at runs
        cases runs
      · rintro ⟨u, l', v, here, -⟩
        cases here with
        | on isHollow' _ _ =>
            rw [isHollow] at isHollow'
            cases isHollow'

theorem writes_wordClause [CharNames] {c : Clause} {name : Text} (named : Lexeme.IsName name)
    (known : (Formatter.program colors []).registry.knows name = true) (noDollar : .char '$' ∉ name) {shown : Text}
    (written : c.source = "\x7b" ++ name ++ "\x7d")
    (ran : (Formatter.program colors []).runCall name [] position (Style.plain, l) = (.ok shown, Style.plain, l))
    (runs : ∀ u l', c.Runs colors l u l' ↔ u = shown ∧ l' = l) :
    (Formatter.program colors []).Writes position (Text.fieldsAsDirectives (c.source ++ rest)) (Style.plain, l) t
        reached ↔
      ∃ u l' v, c.Runs colors l u l' ∧
        (Formatter.program colors []).Writes (position + 1 + name.length + 1) rest.fieldsAsDirectives (Style.plain, l')
          v reached ∧ t = u ++ v := by
  rw [written, writes_word named known noDollar, ran]
  constructor
  · rintro ⟨u, between, v, here, writes, rfl⟩
    cases here
    exact ⟨_, l, v, (runs _ _).2 ⟨rfl, rfl⟩, writes, rfl⟩
  · rintro ⟨u, l', v, here, writes, rfl⟩
    obtain ⟨rfl, rfl⟩ := (runs _ _).1 here
    exact ⟨_, _, v, rfl, writes, rfl⟩

end

namespace Clause

variable {colors : Bool} {l l' : Ledger} {t : Text}

theorem runs_store [CharNames] : store.Runs colors l t l' ↔ t = Segment.fieldText Ledger.storeName ∧ l' = l := by
  constructor
  · rintro ⟨⟩
    exact ⟨rfl, rfl⟩
  · rintro ⟨rfl, rfl⟩
    exact .store

theorem runs_restore [CharNames] : restore.Runs colors l t l' ↔ t = Segment.fieldText Ledger.restoreName ∧ l' = l := by
  constructor
  · rintro ⟨⟩
    exact ⟨rfl, rfl⟩
  · rintro ⟨rfl, rfl⟩
    exact .restore

theorem runs_reset [CharNames] : reset.Runs colors l t l' ↔ t = Formatter.resetSequence colors ∧ l' = l := by
  constructor
  · rintro ⟨⟩
    exact ⟨rfl, rfl⟩
  · rintro ⟨rfl, rfl⟩
    exact .reset

end Clause

theorem writes_clause [CharNames] (colors : Bool) {c : Clause} (fits : c.Fits) (position : Nat) :
    ∃ place, ∀ {rest t : Text} {l : Ledger} {reached : Program.Reached Ledger},
      (Formatter.program colors []).Writes position (Text.fieldsAsDirectives (c.source ++ rest)) (Style.plain, l) t
          reached ↔
        ∃ u l' v, c.Runs colors l u l' ∧
          (Formatter.program colors []).Writes place rest.fieldsAsDirectives (Style.plain, l') v reached ∧
          t = u ++ v := by
  cases c with
  | plain u =>
      obtain ⟨closed, outside⟩ := fits
      refine ⟨position + ((Segment.scattered u).flatMap Segment.directive).length, fun {rest t l reached} => ?_⟩
      have source : (Clause.plain u).source = u := rfl
      rw [source, Text.fieldsAsDirectives_append closed.1 fun dollar => absurd dollar closed.2,
        Text.fieldsAsDirectives_eq u, Formatter.writes_directives colors [] outside, Segment.flatMap_source_scattered]
      constructor
      · rintro ⟨full, v, writes, rfl⟩
        exact ⟨u, l, v, .plain full, writes, rfl⟩
      · rintro ⟨_, _, v, here, writes, rfl⟩
        cases here with
        | plain full => exact ⟨full, v, writes, rfl⟩
  | on level fragment => exact ⟨_, writes_on level fragment⟩
  | store =>
      have named : Lexeme.IsName "store" := by decide
      have written : Clause.store.source = "\x7b" ++ ("store" : Text) ++ "\x7d" := by decide
      have meaning : Ledger.Action.ofName? "store" = some .store := rfl
      exact ⟨_, writes_wordClause named (Formatter.knows_of_ofName? meaning colors) (by decide) written
        (Formatter.runCall_of_ofName? meaning colors [] [] position _) fun _ _ => Clause.runs_store⟩
  | restore =>
      have named : Lexeme.IsName "restore" := by decide
      have written : Clause.restore.source = "\x7b" ++ ("restore" : Text) ++ "\x7d" := by decide
      have meaning : Ledger.Action.ofName? "restore" = some .restore := rfl
      exact ⟨_, writes_wordClause named (Formatter.knows_of_ofName? meaning colors) (by decide) written
        (Formatter.runCall_of_ofName? meaning colors [] [] position _) fun _ _ => Clause.runs_restore⟩
  | reset =>
      have named : Lexeme.IsName "reset" := by decide
      have written : Clause.reset.source = "\x7b" ++ ("reset" : Text) ++ "\x7d" := by decide
      have known : (Formatter.program colors []).registry.knows "reset" = true := by cases colors <;> rfl
      refine ⟨_, fun {rest t l reached} => writes_wordClause named known (by decide) written ?_ fun _ _ =>
        Clause.runs_reset⟩
      exact Formatter.runNode_reset colors [] position (Style.plain, l)

theorem writes_clauses [CharNames] {colors : Bool} {clauses : List Clause} (fits : ∀ c ∈ clauses, c.Fits) {position : Nat}
    {l : Ledger} {t : Text} {reached : Program.Reached Ledger} :
    (Formatter.program colors []).Writes position (Text.fieldsAsDirectives (clauses.flatMap Clause.source))
        (Style.plain, l) t reached ↔
      ∃ l', Clause.RunsAll colors clauses l t l' ∧ reached = (Style.plain, l') := by
  induction clauses generalizing position l t with
  | nil =>
      have empty : Text.fieldsAsDirectives [] = [] := by simp [Text.fieldsAsDirectives_eq]
      rw [List.flatMap_nil, empty, Program.writes_nil]
      constructor
      · rintro ⟨rfl, rfl⟩
        exact ⟨l, .nil, rfl⟩
      · rintro ⟨l', runs, rfl⟩
        cases runs
        exact ⟨rfl, rfl⟩
  | cons c rest ih =>
      obtain ⟨place, law⟩ := writes_clause colors (fits c List.mem_cons_self) position
      rw [List.flatMap_cons, law]
      constructor
      · rintro ⟨u, between, v, here, writes, rfl⟩
        obtain ⟨l', later, rfl⟩ := (ih fun other member => fits other (List.mem_cons_of_mem _ member)).1 writes
        exact ⟨l', .cons here later, rfl⟩
      · rintro ⟨l', runs, rfl⟩
        cases runs with
        | cons here later =>
            exact ⟨_, _, _, here, (ih fun other member => fits other (List.mem_cons_of_mem _ member)).2
              ⟨l', later, rfl⟩, rfl⟩

theorem fits_of_mem_preludeClauses {p : Palette} {part : Part} : ∀ c ∈ preludeClauses p part, c.Fits := by
  intro c member
  obtain ⟨level, -, rfl⟩ := List.mem_map.1 member
  trivial

theorem exists_of_plain_mem_lineClauses {p : Palette} {format t : Text}
    (member : .plain t ∈ lineClauses p format) : ∃ stretch ∈ stretches format, stretch.text = t := by
  have none : .plain t ∉ preludeClauses p .first := by simp [preludeClauses]
  simp only [lineClauses, List.mem_append, none, List.mem_singleton, reduceCtorEq, false_or, or_false,
    List.mem_flatMap] at member
  obtain ⟨stretch, inside, member⟩ := member
  refine ⟨stretch, inside, ?_⟩
  cases stretch with
  | between u =>
      cases List.mem_singleton.1 member
      rfl
  | label u =>
      simp only [Stretch.clauses, List.mem_cons, reduceCtorEq, List.not_mem_nil, false_or, or_false,
        Clause.plain.injEq] at member
      exact member.symm

theorem exists_of_on_mem_lineClauses {p : Palette} {format fragment : Text} {level : Level}
    (member : .on level fragment ∈ lineClauses p format) :
    ∃ part, (part = .label → level = .error ∨ level = .fatal) ∧ (p level).fragment part = fragment := by
  simp only [lineClauses, List.mem_append, List.mem_singleton, reduceCtorEq, or_false, List.mem_flatMap] at member
  rcases member with prelude | ⟨stretch, -, inside⟩
  · obtain ⟨other, -, same⟩ := List.mem_map.1 prelude
    cases same
    exact ⟨.first, by simp, rfl⟩
  · cases stretch with
    | between t => simp [Stretch.clauses] at inside
    | label t =>
        simp only [Stretch.clauses, List.mem_cons, Clause.on.injEq, reduceCtorEq, List.not_mem_nil, or_false] at inside
        rcases inside with ⟨rfl, rfl⟩ | ⟨rfl, rfl⟩
        · exact ⟨.label, fun _ => .inl rfl, rfl⟩
        · exact ⟨.label, fun _ => .inr rfl, rfl⟩

theorem fits_of_mem_lineClauses {p : Palette} {format : Text}
    (fits : ∀ stretch ∈ stretches format, (Clause.plain stretch.text).Fits) : ∀ c ∈ lineClauses p format, c.Fits := by
  intro c member
  cases c with
  | plain t =>
      obtain ⟨stretch, inside, same⟩ := exists_of_plain_mem_lineClauses member
      exact same ▸ fits stretch inside
  | on | store | restore | reset => trivial

theorem compile_clauses_iff [CharNames] {colors : Bool} {clauses : List Clause} (fits : ∀ c ∈ clauses, c.Fits)
    {f : Formatter} :
    (Formatter.compile colors (clauses.flatMap Clause.source)).outcome.1 = .ok f ↔
      ∃ t l, Clause.RunsAll colors clauses {} t l ∧ f = Formatter.ofTemplate t l.conditionals := by
  rw [Formatter.outcome_compile_iff_writes]
  constructor
  · rintro ⟨t, reached, writes, rfl⟩
    obtain ⟨l, runs, rfl⟩ := (writes_clauses fits).1 writes
    exact ⟨t, l, runs, rfl⟩
  · rintro ⟨t, l, runs, rfl⟩
    exact ⟨t, (Style.plain, l), (writes_clauses fits).2 ⟨l, runs, rfl⟩, rfl⟩

theorem outcome_compile_iff_runsAll [CharNames] {colors : Bool} {format : Text} {p : Palette} {theme : Theme}
    (fits : ∀ stretch ∈ stretches format, (Clause.plain stretch.text).Fits) :
    (compile colors format p).outcome.1 = .ok theme ↔
      (∃ t l, Clause.RunsAll colors (lineClauses p format) {} t l ∧ theme.line = Formatter.ofTemplate t l.conditionals) ∧
        ∃ t l, Clause.RunsAll colors (preludeClauses p .trail) {} t l ∧
          theme.trailer = Formatter.ofTemplate t l.conditionals := by
  rw [outcome_compile_eq_ok, Formatter.compileWithReset, lineFormat_eq, conditionals_eq,
    compile_clauses_iff (fits_of_mem_lineClauses fits), compile_clauses_iff fits_of_mem_preludeClauses]

end Theme

end LogStyle
