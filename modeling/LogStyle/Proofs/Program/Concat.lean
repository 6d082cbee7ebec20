import LogStyle.Proofs.Program.Grammar

/-! # Programs behind programs

A source that can be read ends outside of braces. So what stands behind it is read as it would be on its own, with
its positions moved, and is run from the style and the state that the first source leaves. Texts that meet at the
seam become one text, which changes nothing of what is written.
-/

namespace LogStyle

/-! ## Moved sources -/

section
variable (k : Nat)

def Token.shift (token : Token) : Token :=
  { token with position := k + token.position }

namespace Node

/-- A node of a source that has been moved. -/
def shift : Node → Node
  | text t => .text t
  | call name args position => .call name args (k + position)

def Draft.shift (d : Draft) : Draft :=
  { d with position := k + d.position }

end Node

def CompileError.shift : CompileError → CompileError
  | emptyDirective position => .emptyDirective (k + position)
  | undefined name position => .undefined name (k + position)
  | unclosed position => .unclosed (k + position)
  | expectedName found position => .expectedName found (k + position)
  | unexpected found position => .unexpected found (k + position)
  | badText literal position why => .badText literal (k + position) why
  | longNumber digits => .longNumber digits

def ExecuteError.shift : ExecuteError → ExecuteError
  | undefined name => .undefined name
  | noSuchColor color => .noSuchColor color
  | badArgs name position problem => .badArgs name (k + position) problem
  | failed name position fault => .failed name (k + position) fault
  | inner fault => .inner fault

theorem Token.scanFrom_shift (open_ : Bool) (position : Nat) (t : Text) :
    scanFrom open_ (k + position) t = (scanFrom open_ position t).map (shift k) := by
  induction open_, position, t using scanFrom.induct with
  | case1 open_ position => simp
  | case2 open_ position c rest lexeme ih =>
      rw [scanFrom_cons, scanFrom_cons, List.map_cons, ← ih, Nat.add_assoc]
      rfl

namespace Node

theorem Draft.add_shift [CharNames] (d : Draft) (token : Token) :
    (d.shift k).add (token.shift k) = ((d.add token).map (shift k)).mapError (·.shift k) := by
  unfold add Token.shift
  cases kind : token.kind with
  | brace | text | blank | raw => rfl
  | name => cases named : d.name <;> simp [addWord, addArg, shift, named, Except.map, Outcome.mapError_ok]
  | integer =>
      rcases read : number token.text with e | n
      · simp only [number] at read
        split at read
        · cases read
        · cases read
          rfl
        · cases read
      · rfl
  | quoted => cases decoded : Literal.decode (inner token.text) <;> rfl
  | stray =>
      cases named : d.name <;> simp [shift, named, Except.map, Outcome.mapError_error, CompileError.shift]

variable {knows : Text → Bool}

theorem Draft.close_shift (d : Draft) :
    (d.shift k).close knows = ((d.close knows).map (Node.shift k)).mapError (·.shift k) := by
  unfold close shift
  cases d.name with
  | none => rfl
  | some name =>
      cases known : knows name <;>
        simp [known, Except.map, Outcome.mapError_error, Outcome.mapError_ok, CompileError.shift, Node.shift]

theorem readFrom_shift [CharNames] (d : Option Draft) (tokens : List Token) :
    readFrom knows (d.map (Draft.shift k)) (tokens.map (Token.shift k)) =
      ((readFrom knows d tokens).map (List.map (shift k))).mapError (·.shift k) := by
  induction tokens generalizing d with
  | nil => cases d <;> rfl
  | cons token rest ih =>
      cases d with
      | none =>
          by_cases brace : token.kind = .brace
          · have opened := ih (some { position := token.position })
            simp only [List.map_cons, Option.map_none, readFrom, Token.shift, if_pos brace]
            exact opened
          · have later := ih none
            simp only [Option.map_none] at later
            simp only [List.map_cons, Option.map_none, readFrom, Token.shift, if_neg brace, later]
            cases readFrom knows none rest <;> rfl
      | some d =>
          by_cases brace : token.kind = .brace
          · have later := ih none
            simp only [Option.map_none] at later
            simp only [List.map_cons, Option.map_some, readFrom, Token.shift, if_pos brace, later, Draft.close_shift]
            cases d.close knows with
            | error e => rfl
            | ok node => cases readFrom knows none rest <;> rfl
          · have added := d.add_shift k token
            have kind : (token.shift k).kind ≠ .brace := brace
            simp only [List.map_cons, Option.map_some, readFrom, if_neg kind, if_neg brace, added]
            cases d.add token with
            | error e => rfl
            | ok longer => exact ih (some longer)

theorem readAt_shift [CharNames] (position : Nat) (source : Text) :
    readAt knows (k + position) source =
      ((readAt knows position source).map (List.map (shift k))).mapError (·.shift k) := by
  unfold readAt
  rw [Token.scanFrom_shift]
  exact readFrom_shift k none _

end Node

namespace Program

variable {σ : Type} (p : Program σ)

theorem refusal?_shift (name : Text) (position : Nat) (effect : Effect) (s : Style) :
    refusal? name (k + position) effect s = (refusal? name position effect s).map (·.shift k) := by
  unfold refusal?
  split
  · rw [Option.map_some, apply_ite (ExecuteError.shift k)]
    simp only [ExecuteError.longNumber, ExecuteError.shift]
  · split <;> rfl

theorem runNode_shift (node : Node) (at_ : Reached σ) :
    p.runNode (node.shift k) at_ = ((p.runNode node at_).1.mapError (·.shift k), (p.runNode node at_).2) := by
  cases node with
  | text t => rfl
  | call name args position =>
      simp only [Node.shift, runNode, runCall]
      cases p.registry.find? name with
      | none => rfl
      | some entry =>
          cases entry with
          | builtin d =>
              cases fits : d.effect args with
              | error problem => simp only [fits, Outcome.mapError_error, ExecuteError.shift]
              | ok effect =>
                  simp only [fits, runEffect, refusal?_shift]
                  cases refusal? name position effect at_.1 <;> rfl
          | extension e =>
              rcases ran : e.run (args.map Arg.toValue) at_.1 at_.2 with ⟨fault | t, state⟩
              · simp only [ran, ExecuteError.ofExtension, Outcome.mapError_error]
                split <;> rfl
              · simp only [ran, Outcome.mapError_ok]

theorem runNodes_shift (nodes : List Node) (at_ : Reached σ) :
    p.runNodes (nodes.map (Node.shift k)) at_ =
      ((p.runNodes nodes at_).1.mapError (·.shift k), (p.runNodes nodes at_).2) := by
  induction nodes generalizing at_ with
  | nil => rfl
  | cons node rest ih =>
      rw [List.map_cons, runNodes_cons, runNodes_cons, runNode_shift]
      rcases p.runNode node at_ with ⟨e | t, between⟩
      · rfl
      · simp only [Outcome.mapError_ok, Sequel.andThen_ok, ih]
        rcases p.runNodes rest between with ⟨e | u, reached⟩ <;> rfl

end Program

end

/-! ## What stands behind a source that can be read -/

namespace Node

/-- Nodes with a node in front; a text goes into the text behind it. -/
def prepend : Node → List Node → List Node
  | text t, nodes => t.foldr consChar nodes
  | call name args position, nodes => .call name args position :: nodes

variable {knows : Text → Bool}

theorem readAt_append [CharNames] {position : Nat} {front : Text} {nodes : List Node}
    (written : Grammar.Source Grammar.Wordless knows position front nodes) (back : Text) :
    readAt knows position (front ++ back) =
      (readAt knows (position + front.length) back).map fun more => nodes.foldr prepend more := by
  have onward (node : Node) (nodes : List Node) (read : Except CompileError (List Node)) :
      (read.map fun more => nodes.foldr prepend more).map node.prepend =
        read.map fun more => (node :: nodes).foldr prepend more := by
    cases read <;> rfl
  induction written with
  | @nil position =>
      rw [List.nil_append, List.length_nil, Nat.add_zero]
      cases readAt knows position back <;> rfl
  | @text position t rest nodes nonempty plain stops written ih =>
      rw [List.append_assoc, readAt_text plain, ih, List.length_append, Nat.add_assoc]
      exact onward (.text t) nodes _
  | @call position source name rest args nodes directive known written ih =>
      rw [List.append_assoc, Grammar.readAt_directive directive known, ih, List.length_append, Nat.add_assoc]
      exact onward (.call name args position) nodes _

theorem read_behind [CharNames] {front : Text} {nodes : List Node} (found : read knows front = .ok nodes) (back : Text) :
    read knows (front ++ back) =
      ((read knows back).map fun more => nodes.foldr prepend (more.map (shift front.length))).mapError
        (·.shift front.length) := by
  have joined := readAt_append (Grammar.source_of_readAt found) back
  rw [Nat.zero_add, ← Nat.add_zero front.length, readAt_shift] at joined
  refine Eq.trans joined ?_
  have alone : readAt knows 0 back = read knows back := rfl
  rw [alone]
  cases read knows back <;> rfl

end Node

namespace Program

variable {σ : Type} {p : Program σ}

theorem runNodes_prepend (node : Node) (nodes : List Node) (at_ : Reached σ) :
    p.runNodes (node.prepend nodes) at_ = Sequel.andThen (p.runNode node at_) (p.runNodes nodes) := by
  cases node with
  | call name args position => exact runNodes_cons p _ nodes at_
  | text t =>
      simp only [Node.prepend, runNode]
      induction t with
      | nil => rw [List.foldr_nil, Sequel.andThen_nil]
      | cons c t ih =>
          rw [List.foldr_cons, runNodes_consChar, Sequel.andThen_ok, ih, Sequel.andThen_ok, Sequel.andThen_ok]
          cases (p.runNodes nodes at_).1 <;> rfl

theorem runNodes_foldr (nodes more : List Node) (at_ : Reached σ) :
    p.runNodes (nodes.foldr Node.prepend more) at_ = Sequel.andThen (p.runNodes nodes at_) (p.runNodes more) := by
  induction nodes generalizing at_ with
  | nil => simp [runNodes]
  | cons node nodes ih =>
      rw [List.foldr_cons, runNodes_prepend, runNodes_cons, Sequel.andThen_assoc]
      exact congrArg _ (funext ih)

theorem execute_joined (registry : Registry σ) (colors : Bool) (k : Nat) (nodes more : List Node) (at_ : Reached σ) :
    execute ⟨registry, nodes.foldr Node.prepend (more.map (Node.shift k)), colors⟩ at_ =
      Sequel.andThen (execute ⟨registry, nodes, colors⟩ at_) fun between =>
        ((execute ⟨registry, more, colors⟩ between).1.mapError (·.shift k),
          (execute ⟨registry, more, colors⟩ between).2) := by
  have same (all all' nodes : List Node) (at_ : Reached σ) :
      runNodes ⟨registry, all, colors⟩ nodes at_ = runNodes ⟨registry, all', colors⟩ nodes at_ :=
    @runNodes_congr σ ⟨registry, all, colors⟩ ⟨registry, all', colors⟩ rfl rfl nodes at_
  simp only [execute]
  rw [runNodes_foldr, same _ nodes nodes]
  refine congrArg _ (funext fun between => ?_)
  rw [runNodes_shift, same _ more more]

/-- Behind a source that can be read, another source can be read exactly when it can on its own. It is run from where
    the first has ended, and but for its positions it writes the same and fails in the same way. -/
theorem execute_append [CharNames] {extensions : List (Text × Extension σ)} {colors : Bool} {front : Text}
    (found : read extensions colors front = .ok p) (back : Text) :
    (∀ e, read extensions colors back = .error e →
      read extensions colors (front ++ back) = .error (e.shift front.length)) ∧
    ∀ q, read extensions colors back = .ok q →
      ∃ whole, read extensions colors (front ++ back) = .ok whole ∧ ∀ at_ between,
        (∀ t, p.execute at_ = (.ok t, between) →
          whole.execute at_ =
            (((q.execute between).1.map (t ++ ·)).mapError (·.shift front.length), (q.execute between).2)) ∧
        ∀ e, p.execute at_ = (.error e, between) → whole.execute at_ = (.error e, between) := by
  obtain ⟨nodes, first, rfl⟩ := Outcome.map_eq_ok.1 found
  have joined := Node.read_behind first back
  constructor
  · intro e failed
    cases alone : Node.read (Registry.withExtensions extensions).knows back with
    | ok more => simp [read, alone, Except.map] at failed
    | error e' =>
        simp only [read, alone, Except.map, Except.error.injEq] at failed
        simp only [read, joined, alone, failed, Except.map, Outcome.mapError_error]
  · intro q second
    obtain ⟨more, alone, rfl⟩ := Outcome.map_eq_ok.1 second
    rw [alone] at joined
    refine ⟨⟨Registry.withExtensions extensions, nodes.foldr Node.prepend (more.map (Node.shift front.length)), colors⟩,
      ?_, fun at_ between => ⟨fun t ran => ?_, fun e failed => ?_⟩⟩
    · rw [read, joined]
      rfl
    · rw [execute_joined, ran, Sequel.andThen_ok]
      cases (execute ⟨Registry.withExtensions extensions, more, colors⟩ between).1 <;> rfl
    · rw [execute_joined, failed, Sequel.andThen_error]

section

attribute [local instance] CharNames.none

/-- A call with an argument too many fails behind another call as it does alone, six characters further behind. -/
theorem execute_bold_behind_bold :
    read (σ := Unit) [] true "\x7bbold\x7d" = .ok ⟨Registry.builtins, [.call "bold" [] 0], true⟩ ∧
      ∃ whole, read (σ := Unit) [] true ("\x7bbold\x7d" ++ "\x7bbold 1\x7d") = .ok whole ∧
        whole.execute (Style.plain, ()) =
          (.error (.badArgs "bold" 6 (.count "bold" 0 1)), { Style.plain with bold := true }, ()) := by
  have named : Lexeme.IsName "bold" := by decide
  have known : (Registry.builtins (σ := Unit)).knows "bold" = true := by decide
  have first : read (σ := Unit) [] true "\x7bbold\x7d" = .ok ⟨Registry.builtins, [.call "bold" [] 0], true⟩ := by
    have called := Node.readAt_call named known 0 []
    rw [Node.readAt_nil] at called
    exact congrArg (Except.map _) called
  have second : read (σ := Unit) [] true "\x7bbold 1\x7d" =
      .ok ⟨Registry.builtins, [.call "bold" [.number 1] 0], true⟩ := by
    have called := Node.readAt_callNumber named known (n := 1) (by decide +kernel) 0 []
    rw [Node.readAt_nil] at called
    exact congrArg (Except.map _) called
  obtain ⟨whole, found, runs⟩ := (execute_append first "\x7bbold 1\x7d").2 _ second
  exact ⟨first, whole, found, (runs _ _).1 _ rfl⟩

end

end Program

end LogStyle
