import LogStyle.Proofs.Conditional.Growth
import LogStyle.Proofs.Formatter.LineStep
import LogStyle.Proofs.Program.Reading

/-! # Formats that end all styles

The directive that ends all styles is put behind a format before the format is rewritten and read. It is read
as meant unless the format ends in the beginning of a field, which then swallows it.
-/

namespace LogStyle

namespace Segment

/-- A text behind which a directive stays a directive: no field is left open in it, and none is about to
    start. -/
def Closed (t : Text) : Prop :=
  NoneOpen t ∧ t.getLast? ≠ some (.char '$')

instance (t : Text) : Decidable (Closed t) :=
  inferInstanceAs (Decidable (_ ∧ _))

end Segment

namespace Token

theorem scanFrom_reset (position : Nat) :
    scanFrom false position Formatter.reset =
      [⟨position, .brace, "\x7b"⟩, ⟨position + 1, .name, "reset"⟩, ⟨position + 6, .brace, "\x7d"⟩] := by
  have opening : first false '\x7b' "reset\x7d" = ⟨.brace, "\x7b", "reset\x7d"⟩ := rfl
  have name : first true 'r' "eset\x7d" = ⟨.name, "reset", "\x7d"⟩ := by decide
  have closing : first true '\x7d' [] = ⟨.brace, "\x7d", []⟩ := by decide
  refine (scanFrom_of_first opening position).trans (congrArg (List.cons _) ?_)
  refine (scanFrom_of_first name (position + 1)).trans (congrArg (List.cons _) ?_)
  refine (scanFrom_of_first closing (position + 6)).trans (congrArg (List.cons _) ?_)
  exact scanFrom_nil _ _

theorem scanFrom_resetField (position : Nat) :
    scanFrom false position "\x7bfield \"reset\"\x7d" =
      [⟨position, .brace, "\x7b"⟩, ⟨position + 1, .name, "field"⟩, ⟨position + 6, .blank, " "⟩,
        ⟨position + 7, .quoted, "\"reset\""⟩, ⟨position + 14, .brace, "\x7d"⟩] := by
  have opening : first false '\x7b' "field \"reset\"\x7d" = ⟨.brace, "\x7b", "field \"reset\"\x7d"⟩ := rfl
  have name : first true 'f' "ield \"reset\"\x7d" = ⟨.name, "field", " \"reset\"\x7d"⟩ := by decide
  have blank : first true ' ' "\"reset\"\x7d" = ⟨.blank, " ", "\"reset\"\x7d"⟩ := by decide
  have quoted : first true '"' "reset\"\x7d" = ⟨.quoted, "\"reset\"", "\x7d"⟩ := by decide
  have closing : first true '\x7d' [] = ⟨.brace, "\x7d", []⟩ := by decide
  refine (scanFrom_of_first opening position).trans (congrArg (List.cons _) ?_)
  refine (scanFrom_of_first name (position + 1)).trans (congrArg (List.cons _) ?_)
  refine (scanFrom_of_first blank (position + 6)).trans (congrArg (List.cons _) ?_)
  refine (scanFrom_of_first quoted (position + 7)).trans (congrArg (List.cons _) ?_)
  refine (scanFrom_of_first closing (position + 14)).trans (congrArg (List.cons _) ?_)
  exact scanFrom_nil _ _

end Token

namespace Formatter

/-- The sequence that ends all styles; nothing when colours are off. -/
def resetSequence (colors : Bool) : Text :=
  Style.sequence colors "0"

section

variable [CharNames]

theorem readFrom_reset (colors : Bool) (position : Nat) :
    Node.readFrom (registry colors).knows none (Token.scanFrom false position reset) =
      .ok [.call "reset" [] position] := by
  rw [Token.scanFrom_reset]
  cases colors <;> rfl

theorem readFrom_resetField (colors : Bool) (position : Nat) :
    Node.readFrom (registry colors).knows none (Token.scanFrom false position "\x7bfield \"reset\"\x7d") =
      .ok [.call "field" [.text "reset"] position] := by
  have decoded : Literal.decode "reset" = .ok ("reset" : Text) := by
    have encodable : Text.surrogateRun? "reset" = none := by decide
    simp only [Literal.decode, encodable]
    simp [Text.unifyLineEnds, Literal.brokenLine?, Literal.decodeBody]
  have inner : Node.Draft.inner "\"reset\"" = ("reset" : Text) := rfl
  have known : (registry colors).knows "field" = true := by cases colors <;> rfl
  rw [Token.scanFrom_resetField]
  simp only [Node.readFrom, if_true, reduceCtorEq, if_false, Node.Draft.add, Node.Draft.addWord, inner,
    decoded, bind, Except.bind, pure, Except.pure, Node.Draft.addArg, List.nil_append, Node.Draft.close, known]

theorem runNode_reset (colors : Bool) (nodes : List Node) (position : Nat) (at_ : Program.Reached Ledger) :
    (program colors nodes).runNode (.call "reset" [] position) at_ =
      (.ok (resetSequence colors), Style.plain, at_.2) := by
  cases colors <;> rfl

theorem runNode_resetField (colors : Bool) (nodes : List Node) (position : Nat)
    (at_ : Program.Reached Ledger) :
    (program colors nodes).runNode (.call "field" [.text "reset"] position) at_ =
      (.ok (Segment.fieldText "reset"), at_) := by
  cases colors <;> rfl

theorem read_append_reset (colors : Bool) (source : Text) :
    (∃ e e', Node.read (registry colors).knows source = .error e ∧
      Node.read (registry colors).knows (source ++ reset) = .error e' ∧ e.fault.kind = e'.fault.kind) ∨
    ∃ nodes, Node.read (registry colors).knows source = .ok nodes ∧
      Node.read (registry colors).knows (source ++ reset) =
        .ok (nodes ++ [.call "reset" [] source.length]) := by
  have unquoted : Lexeme.Unquoted reset := by constructor <;> decide
  have scanned : Token.scan (source ++ reset) = Token.scan source ++ _ :=
    Token.scanFrom_append Lexeme.seam_brace "reset\x7d" false 0 source (.inr unquoted) (.inl rfl)
  unfold Node.read
  rw [scanned, Node.readFrom_append, Node.readFrom_eq_feed, Nat.zero_add]
  cases fed : Node.feed (registry colors).knows none (Token.scan source) with
  | error e => exact .inl ⟨e, e, rfl, rfl, rfl⟩
  | ok parts =>
      obtain ⟨nodes, d⟩ := parts
      have open_ := Node.isSome_of_feed fed
      change _ = Token.openAfter false (Token.scanFrom false 0 source) at open_
      rw [← open_]
      cases d with
      | none =>
          refine .inr ⟨nodes, rfl, ?_⟩
          change (Node.readFrom (registry colors).knows none
            (Token.scanFrom false source.length reset)).map (nodes ++ ·) = _
          rw [readFrom_reset]
          rfl
      | some d =>
          have stray : Token.first true '\x7b' "reset\x7d" = ⟨.stray, "\x7b", "reset\x7d"⟩ := by decide
          refine .inl ⟨.unclosed d.position, ?_⟩
          simp only [Option.isSome_some, Token.scanFrom_of_first stray, Node.readFrom, reduceCtorEq, if_false,
            Node.Draft.add]
          cases d.name with
          | none => exact ⟨_, trivial, rfl, rfl⟩
          | some name => exact ⟨_, trivial, rfl, rfl⟩

end

theorem fieldsAsDirectives_append_reset {format : Text} (closed : Segment.Closed format) :
    Text.fieldsAsDirectives (format ++ reset) = format.fieldsAsDirectives ++ reset := by
  have plain : Text.fieldsAsDirectives reset = reset := by decide +kernel
  rw [Text.fieldsAsDirectives_append closed.1 fun dollar => absurd dollar closed.2, plain]

section

variable [CharNames]

/-- A format fails with and without the directive behind it, for reasons of one kind. -/
def FailAlike (colors : Bool) (format : Text) : Prop :=
  ∃ fault fault', (compile colors format).outcome.1 = .error fault ∧
    (compileWithReset colors format).outcome.1 = .error fault' ∧ fault.kind = fault'.kind

/-- The directive behind a format has the effect that the sequence is written behind all that the format
    writes. -/
def AppendReset (colors : Bool) (format : Text) : Prop :=
  ∃ f g, (compile colors format).outcome.1 = .ok f ∧ (compileWithReset colors format).outcome.1 = .ok g ∧
    g.template.text = f.template.text ++ resetSequence colors ∧
    ∀ line, g.render line {} =
      Sequel.andThen (f.render line {}) fun r => (.ok (resetSequence colors), r)

theorem runNodes_program (colors : Bool) (all all' nodes : List Node) (at_ : Program.Reached Ledger) :
    (program colors all).runNodes nodes at_ = (program colors all').runNodes nodes at_ :=
  @Program.runNodes_congr _ (program colors all) (program colors all') rfl rfl nodes at_

theorem runNodes_append (colors : Bool) (front back : List Node) :
    runNodes colors (front ++ back) =
      Sequel.andThen (runNodes colors front) ((program colors back).runNodes back) := by
  unfold runNodes
  rw [runNodes_program colors _ front, Program.runNodes_append]
  exact congrArg _ (funext fun at_ => runNodes_program colors front back back at_)

end

theorem render_append (text : Text) (conditionals : List Conditional) {more : Text} (plain : .char '\x7d' ∉ more)
    (line : Line) (r : Restore) :
    (ofTemplate (text ++ more) conditionals).render line r =
      Sequel.andThen ((ofTemplate text conditionals).render line r) fun r => (.ok more, r) := by
  have whole : (ofTemplate (text ++ more) conditionals).template.text = text ++ more := rfl
  have part : (ofTemplate text conditionals).template.text = text := rfl
  unfold render
  rw [Template.render_eq_scattered, Template.render_eq_scattered, whole, part,
    Segment.scattered_append_plain text plain, Template.renderSegments_append, renderSegments_ofTemplate,
    renderSegments_ofTemplate]
  exact congrArg _ (funext fun r => Template.renderSegments_plain _ line more r)

theorem render_append_resetField {text : Text} (conditionals : List Conditional)
    (noneOpen : Segment.NoneOpen text) (line : Line) (r : Restore) :
    (ofTemplate (text ++ Segment.fieldText "reset") conditionals).render line r =
      Sequel.andThen ((ofTemplate text conditionals).render line r) fun r =>
        (.ok (Segment.fieldText "reset"), r) := by
  have whole : (ofTemplate (text ++ Segment.fieldText "reset") conditionals).template.text =
      text ++ Segment.fieldText "reset" := rfl
  have part : (ofTemplate text conditionals).template.text = text := rfl
  have field : Segment.scattered (Segment.fieldText "reset") = [.field "reset"] := by decide +kernel
  unfold render
  rw [Template.render_eq_scattered, Template.render_eq_scattered, whole, part,
    Segment.scattered_append noneOpen (fun _ => by decide), field,
    Template.renderSegments_append, renderSegments_ofTemplate, renderSegments_ofTemplate]
  exact congrArg _ (funext fun r => renderSegments_ofTemplate _ conditionals line [.field "reset"] r)

section

variable [CharNames]

theorem appendReset_of_closed {colors : Bool} {format : Text} (closed : Segment.Closed format) :
    FailAlike colors format ∨ AppendReset colors format := by
  unfold FailAlike AppendReset compileWithReset
  simp only [outcome_compile, nodes, fieldsAsDirectives_append_reset closed]
  rcases read_append_reset colors format.fieldsAsDirectives with ⟨e, e', short, long, kind⟩ | ⟨ns, short, long⟩
  · rw [short, long]
    exact .inl ⟨_, _, rfl, rfl, kind⟩
  · rw [short, long]
    simp only [runNodes_append]
    rcases runNodes colors ns with ⟨e | text, reached⟩
    · exact .inl ⟨_, _, rfl, rfl, rfl⟩
    · refine .inr ⟨ofTemplate text reached.2.conditionals,
        ofTemplate (text ++ resetSequence colors) reached.2.conditionals, rfl, ?_, rfl, fun line => ?_⟩
      · rw [Sequel.andThen_ok, Program.runNodes_cons, runNode_reset]
        simp [ofRun, Program.runNodes, Except.map]
      · refine render_append text _ ?_ line {}
        cases colors <;> decide

theorem noneOpen_of_read {colors : Bool} {format : Text} {parsed : List Node}
    (read : nodes colors format = .ok parsed) : Segment.NoneOpen format := by
  intro u opened
  by_contra unclosed
  obtain ⟨front, split⟩ := Segment.exists_scattered_of_open opened unclosed
  have source : format.fieldsAsDirectives = front.flatMap Segment.directive ++ .char '$' :: .char '\x7b' :: u := by
    rw [Text.fieldsAsDirectives_eq, split, List.flatMap_append, Segment.flatMap_directive_plain]
  have ends : .char '\x7b' :: u <:+ format.fieldsAsDirectives :=
    ⟨front.flatMap Segment.directive ++ [.char '$'], by simp [source]⟩
  have fed := Node.feed_of_readFrom read
  have open_ := Token.openAfter_of_open unclosed ends (Node.not_stray_of_feed rfl fed)
  have closed := Node.isSome_of_feed fed
  exact absurd (closed.trans open_) (by simp)

theorem openAfter_of_read_dollar {knows : Text → Bool} {source : Text} {parsed : List Node}
    (read : Node.read knows (source ++ "$") = .ok parsed) :
    Token.openAfter false (Token.scanFrom false 0 source) = false := by
  by_contra open_
  rw [Bool.not_eq_false] at open_
  have unquoted : Lexeme.Unquoted "$" := by constructor <;> decide
  have stray : Token.first true '$' [] = ⟨.stray, "$", []⟩ := by decide
  have behind : Token.scan (source ++ "$") = Token.scanFrom false 0 source ++ _ :=
    Token.scanFrom_append Lexeme.seam_dollar [] false 0 source (.inr unquoted) (.inr open_)
  rw [open_, Token.scanFrom_of_first stray] at behind
  refine Node.not_stray_of_feed rfl (Node.feed_of_readFrom read) ⟨0 + source.length, .stray, "$"⟩ ?_ rfl
  change _ ∈ Token.scan (source ++ "$")
  rw [behind]
  exact List.mem_append_right _ List.mem_cons_self

theorem read_append_dollar {colors : Bool} {source : Text} {parsed : List Node}
    (read : Node.read (registry colors).knows (source ++ "$") = .ok parsed) :
    ∃ (front : List Node) (last : Text), parsed = front ++ [.text (last ++ "$")] ∧
      Node.read (registry colors).knows (source ++ "\x7bfield \"reset\"\x7d") =
        .ok (front ++ ((if last = [] then [] else [.text last]) ++
          [.call "field" [.text "reset"] source.length])) := by
  have unquoted : Lexeme.Unquoted "$" := by constructor <;> decide
  have notStray : ∀ token ∈ Token.scan (source ++ "$"), token.kind ≠ .stray :=
    Node.not_stray_of_feed rfl (Node.feed_of_readFrom read)
  have closed := openAfter_of_read_dollar read
  obtain ⟨tokens, place, last, short, long⟩ :=
    Token.scanFrom_append_text Lexeme.seam_dollar (by decide) unquoted false 0 source closed
  change Token.scan (source ++ "$") = tokens ++ Token.ofText place (last ++ [.char '$']) at long
  have lastToken : Token.ofText place (last ++ [.char '$']) = [⟨place, .text, last ++ "$"⟩] := by
    simp [Token.ofText]
  unfold Node.read at read
  rw [long, Node.readFrom_append, lastToken] at read
  rcases fed : Node.feed (registry colors).knows none tokens with e | ⟨front, d⟩
  · simp [fed] at read
  have outside : d = none := by
    have open_ := Node.isSome_of_feed fed
    rw [short, Token.openAfter_ofText] at closed
    exact Option.isNone_iff_eq_none.1 (Option.isSome_eq_false_iff.1 (open_.trans closed))
  subst outside
  -- Both sources share the tokens in front of the last text; they differ from there on.
  refine ⟨front, last, ?_, ?_⟩
  · rw [fed] at read
    exact (Except.ok.inj read).symm
  · have settled : ∀ token ∈ Token.scanFrom false 0 source, token.kind ≠ .stray := by
      intro token member
      rw [short] at member
      rcases List.mem_append.1 member with early | late
      · exact notStray token (long ▸ List.mem_append_left _ early)
      · unfold Token.ofText at late
        split at late
        · simp at late
        · rw [List.mem_singleton.1 late]
          simp
    have behind : Token.scan (source ++ "\x7bfield \"reset\"\x7d") = Token.scanFrom false 0 source ++ _ :=
      Token.scanFrom_append Lexeme.seam_brace "field \"reset\"\x7d" false 0 source (.inl settled) (.inl rfl)
    rw [closed, short, Nat.zero_add, List.append_assoc] at behind
    unfold Node.read
    rw [behind, Node.readFrom_append, fed]
    change (Node.readFrom _ none (Token.ofText place last ++
      Token.scanFrom false source.length "\x7bfield \"reset\"\x7d")).map (front ++ ·) = _
    unfold Token.ofText
    split
    · rw [List.nil_append, readFrom_resetField]
      rfl
    · rw [List.singleton_append, Node.readFrom, if_neg (by simp), readFrom_resetField]
      rfl

end

theorem runNodes_text (p : Program Ledger) (t : Text) (rest : List Node) (at_ : Program.Reached Ledger) :
    p.runNodes (.text t :: rest) at_ = Sequel.andThen (.ok t, at_) (p.runNodes rest) :=
  Program.runNodes_cons p (.text t) rest at_

/-- A format that compiles without being closed ends in a dollar sign, and the directive behind it makes up a
    field with that. -/
theorem compile_of_not_closed [CharNames] {colors : Bool} {format : Text} {f : Formatter}
    (open_ : ¬ Segment.Closed format) (compiled : (compile colors format).outcome.1 = .ok f) :
    ∃ (text : Text) (conditionals : List Conditional), f = ofTemplate (text ++ "$") conditionals ∧
      (compileWithReset colors format).outcome.1 =
        .ok (ofTemplate (text ++ Segment.fieldText "reset") conditionals) := by
  obtain ⟨parsed, text, reached, read, ran, rfl⟩ := outcome_compile_eq_ok.1 compiled
  have noneOpen := noneOpen_of_read read
  have dollar : format.getLast? = some (.char '$') := by
    by_contra other
    exact open_ ⟨noneOpen, other⟩
  obtain ⟨front, rfl⟩ := List.getLast?_eq_some_iff.1 dollar
  have noneOpenFront : Segment.NoneOpen front := by
    intro u opened
    have longer : .char '$' :: .char '\x7b' :: (u ++ [.char '$']) <:+ front ++ [.char '$'] := by
      obtain ⟨before, whole⟩ := opened
      exact ⟨before, by simp [← whole]⟩
    simpa using noneOpen _ longer
  have source : Text.fieldsAsDirectives (front ++ [.char '$']) =
      Text.fieldsAsDirectives front ++ "$" := by
    have alone : Text.fieldsAsDirectives [.char '$'] = ("$" : Text) := by decide +kernel
    rw [Text.fieldsAsDirectives_append noneOpenFront (by simp), alone]
  have sourceWithReset : Text.fieldsAsDirectives (front ++ [.char '$'] ++ reset) =
      Text.fieldsAsDirectives front ++ "\x7bfield \"reset\"\x7d" := by
    have alone : Text.fieldsAsDirectives ([.char '$'] ++ reset) = ("\x7bfield \"reset\"\x7d" : Text) := by
      decide +kernel
    rw [List.append_assoc, Text.fieldsAsDirectives_append noneOpenFront (by simp), alone]
  unfold nodes at read
  rw [source] at read
  obtain ⟨earlier, last, rfl, readWithReset⟩ := read_append_dollar read
  rw [runNodes_append] at ran
  obtain ⟨t, v, at_, ranEarlier, ranLast, rfl⟩ := Sequel.andThen_eq_ok.1 ran
  obtain ⟨rfl, rfl⟩ : at_ = reached ∧ last ++ "$" = v := by
    rw [runNodes_text] at ranLast
    simpa [Program.runNodes, eq_comm, and_comm] using ranLast
  refine ⟨t ++ last, at_.2.conditionals, by rw [List.append_assoc], ?_⟩
  unfold compileWithReset
  rw [outcome_compile, nodes, sourceWithReset, readWithReset]
  have ranRest : (program colors ((if last = [] then [] else [.text last]) ++
      [.call "field" [.text "reset"] (Text.fieldsAsDirectives front).length])).runNodes
        ((if last = [] then [] else [.text last]) ++
          [.call "field" [.text "reset"] (Text.fieldsAsDirectives front).length]) at_ =
      (.ok (last ++ Segment.fieldText "reset"), at_) := by
    have field (p : List Node) (position : Nat) : (program colors p).runNodes
        [.call "field" [.text "reset"] position] at_ = (.ok (Segment.fieldText "reset"), at_) := by
      rw [Program.runNodes_cons, runNode_resetField]
      simp [Program.runNodes]
    split
    · next empty => rw [List.nil_append, field, empty, List.nil_append]
    · rw [List.singleton_append, runNodes_text, Sequel.andThen_ok, field]
      rfl
  simp only [runNodes_append, ranEarlier, Sequel.andThen_ok, ranRest, Except.map, ofRun, List.append_assoc]

/-- The directive behind a format ends the styles of every line, or the format fails with and without it,
    exactly when the format is closed or fails so. A format that leaves a field open does not compile. One
    that compiles without being closed ends in a dollar sign, and with the directive shows a field in place of
    that: it writes no sequence behind its lines. -/
theorem append_reset_iff_closed [CharNames] (colors : Bool) (format : Text) :
    (AppendReset colors format ∨ FailAlike colors format ↔
      Segment.Closed format ∨ FailAlike colors format) ∧
    (¬ Segment.NoneOpen format → ∃ fault, (compile colors format).outcome.1 = .error fault) ∧
    (¬ Segment.Closed format → ∀ f, (compile colors format).outcome.1 = .ok f →
      ∃ (text : Text) (conditionals : List Conditional), f = ofTemplate (text ++ "$") conditionals ∧
        (compileWithReset colors format).outcome.1 =
          .ok (ofTemplate (text ++ Segment.fieldText "reset") conditionals) ∧
        (Segment.NoneOpen text → ∀ line shown, (f.render line {}).1 = .ok shown →
          ((ofTemplate (text ++ Segment.fieldText "reset") conditionals).render line {}).1 ≠
            .ok (shown ++ resetSequence colors))) := by
  refine ⟨⟨?_, ?_⟩, fun left => ?_, fun open_ f compiled => ?_⟩
  · rintro (⟨f, g, plain, ended, template, -⟩ | alike)
    · by_contra neither
      obtain ⟨text, conditionals, rfl, swallowed⟩ := compile_of_not_closed (not_or.1 neither).1 plain
      rw [swallowed, Except.ok.injEq] at ended
      have same : text ++ Segment.fieldText "reset" = text ++ "$" ++ resetSequence colors := by
        rw [← ended] at template
        exact template
      rw [List.append_assoc, List.append_right_inj] at same
      cases colors <;> simp [Segment.fieldText, resetSequence, Style.sequence] at same
    · exact .inr alike
  · rintro (closed | alike)
    · exact (appendReset_of_closed closed).symm
    · exact .inr alike
  · cases compiled : (compile colors format).outcome.1 with
    | error fault => exact ⟨fault, rfl⟩
    | ok f =>
        obtain ⟨parsed, text, reached, read, -⟩ := outcome_compile_eq_ok.1 compiled
        exact absurd (noneOpen_of_read read) left
  · obtain ⟨text, conditionals, rfl, swallowed⟩ := compile_of_not_closed open_ compiled
    refine ⟨text, conditionals, rfl, swallowed, fun noneOpen line shown rendered same => ?_⟩
    rw [render_append text conditionals (by decide)] at rendered
    rw [render_append_resetField conditionals noneOpen] at same
    rcases alone : (ofTemplate text conditionals).render line {} with ⟨fault | before, r⟩
    · simp [alone] at rendered
    · simp only [alone, Sequel.andThen_ok, Except.map, Except.ok.injEq] at rendered same
      rw [← rendered, List.append_assoc, List.append_right_inj] at same
      cases colors <;> simp [Segment.fieldText, resetSequence, Style.sequence] at same

section

attribute [local instance] CharNames.none

/-- A format that ends in text is closed, and the sequence stands behind its lines. -/
theorem append_reset_to_bold :
    Segment.Closed "$\x7btime\x7d \x7bbold\x7dx" ∧ AppendReset true "$\x7btime\x7d \x7bbold\x7dx" := by
  have closed : Segment.Closed "$\x7btime\x7d \x7bbold\x7dx" := by decide
  have either := (append_reset_iff_closed true "$\x7btime\x7d \x7bbold\x7dx").1.2 (.inl closed)
  obtain ⟨f, compiled, -⟩ := exists_of_any (compile true "$\x7btime\x7d \x7bbold\x7dx").outcome.1
    (fun _ => true) (by decide +kernel)
  refine ⟨closed, either.resolve_right ?_⟩
  rintro ⟨fault, -, failed, -⟩
  rw [compiled] at failed
  cases failed

end

section

attribute [local instance] CharNames.none

/-- A dollar sign at the end of a format swallows the directive behind it, and a field that is left open is
    closed by it. -/
theorem reset_swallowed_by_field :
    (∃ f g, (compile true "x$").outcome.1 = .ok f ∧ (compileWithReset true "x$").outcome.1 = .ok g ∧
      (g.render (Line.plain .info) {}).1 ≠
        (f.render (Line.plain .info) {}).1.map (· ++ resetSequence true)) ∧
    (∃ fault, (compile true "$\x7bx").outcome.1 = .error fault) ∧
      ∃ g, (compileWithReset true "$\x7bx").outcome.1 = .ok g := by
  obtain ⟨f, plain, shown⟩ := exists_of_any (compile true "x$").outcome.1
    (fun f => (f.render (Line.plain .info) {}).1.toOption = some ("x$" : Text)) (by decide +kernel)
  obtain ⟨g, ended, shown'⟩ := exists_of_any (compileWithReset true "x$").outcome.1
    (fun g => (g.render (Line.plain .info) {}).1.toOption = some ("x$\x7breset\x7d" : Text))
    (by decide +kernel)
  obtain ⟨g', closed, -⟩ := exists_of_any (compileWithReset true "$\x7bx").outcome.1 (fun _ => true)
    (by decide +kernel)
  refine ⟨⟨f, g, plain, ended, fun same => ?_⟩,
    exists_of_isNone _ (by decide +kernel), g', closed⟩
  have whole := of_decide_eq_true shown'
  rw [same] at whole
  have part := of_decide_eq_true shown
  cases alone : (f.render (Line.plain .info) {}).1 with
  | error fault => simp [alone, Except.toOption] at part
  | ok text =>
      simp only [alone, Except.map, Except.toOption, Option.some.injEq] at part whole
      rw [part] at whole
      exact absurd whole (by decide)

end

end Formatter

end LogStyle
