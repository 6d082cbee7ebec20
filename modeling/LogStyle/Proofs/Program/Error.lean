import LogStyle.Proofs.Conditional.Growth
import LogStyle.Proofs.Program.Reading
import LogStyle.Proofs.Template.Pieces
import LogStyle.Proofs.Text.Numeral

/-! # What errors quote

The message of an error quotes the program it is about: a name, a literal, a stray character. Each is a token
of the program or a part of the registry, so a program in which no field starts has no error whose message
starts one.
-/

namespace LogStyle

/-- A character of the fixed words of messages, of names and of numbers: a basic one that can start neither a field
    nor an escape sequence nor a slot. -/
def isWording (c : CodePoint) : Bool :=
  0x20 ≤ c.toNat && c.toNat < 0x7F && c ≠ '$' && c ≠ '\x7b' && c ≠ '%'

theorem isWording_of_isBasicDigit {c : CodePoint} (digit : isBasicDigit c = true) : isWording c = true := by
  have other (d : CodePoint) (notDigit : isBasicDigit d = false) : c ≠ d := by
    rintro rfl
    rw [notDigit] at digit
    cases digit
  have dollar := other '$' (by decide)
  have brace := other '\x7b' (by decide)
  have percent := other '%' (by decide)
  simp only [isBasicDigit, Bool.and_eq_true, decide_eq_true_eq] at digit
  have lower : 0x30 ≤ c.toNat := digit.1
  have upper : c.toNat ≤ 0x39 := digit.2
  simp only [isWording, dollar, brace, percent, Bool.and_eq_true, decide_eq_true_eq, ne_eq, not_false_eq_true, and_true]
  omega

namespace Text

def Worded (t : Text) : Prop :=
  ∀ c ∈ t, isWording c = true

-- By way of the list, for there are too many characters to try them all.
instance : DecidablePred Worded :=
  fun _ => decidable_of_iff _ List.all_eq_true

theorem Worded.append {t u : Text} (here : Worded t) (later : Worded u) : Worded (t ++ u) := by
  intro c member
  rcases List.mem_append.1 member with left | right
  · exact here c left
  · exact later c right

theorem Worded.not_mem {t : Text} (worded : Worded t) {c : CodePoint} (foreign : isWording c = false) : c ∉ t := by
  intro member
  rw [worded c member] at foreign
  cases foreign

theorem worded_ofNat (n : Nat) : Worded (ofNat n) :=
  fun _ member => isWording_of_isBasicDigit (isBasicDigit_of_mem_ofNat member)

theorem worded_ofInt (n : Int) : Worded (ofInt n) := by
  cases n with
  | ofNat n => exact worded_ofNat n
  | negSucc n =>
      intro c member
      rcases List.mem_cons.1 member with rfl | digit
      · decide
      · exact worded_ofNat _ c digit

theorem worded_hexCode (width n : Nat) : Worded (hexCode width n) := by
  have digit (m : Nat) : isWording (Nat.digitChar m) = true := by
    by_cases small : m < 16
    · have all : ∀ m < 16, isWording (Nat.digitChar m) = true := by decide
      exact all m small
    · have star : Nat.digitChar m = '*' := by
        unfold Nat.digitChar
        repeat rw [if_neg (by omega)]
      rw [star]
      decide
  have digits : ∀ c ∈ Nat.toDigits 16 n, isWording c = true := by
    induction n using Nat.strongRecOn with
    | _ n ih =>
        intro c member
        rw [Nat.toDigits_eq_if (show 1 < 16 by decide)] at member
        split at member
        · rw [List.mem_singleton.1 member]
          exact digit n
        · rcases List.mem_append.1 member with early | late
          · exact ih _ (by omega) c early
          · rw [List.mem_singleton.1 late]
            exact digit _
  intro c member
  rcases List.mem_append.1 member with zero | inside
  · rw [List.eq_of_mem_replicate zero]
    decide
  · obtain ⟨digit, written, rfl⟩ := List.mem_map.1 inside
    exact digits digit written

theorem worded_of_mem_quoted {c x : CodePoint} (member : x ∈ quoted [c]) : x = c ∨ isWording x = true := by
  have marked : isWording (quoteMark [c]) = true := by
    unfold quoteMark
    split <;> decide
  have inner (mark : CodePoint) (inside : x ∈ quotedChar mark c) : x = c ∨ isWording x = true := by
    have code {letter : CodePoint} {width : Nat} (word : isWording letter = true)
        (inside : x ∈ .char '\\' :: letter :: hexCode width c.toNat) : isWording x = true := by
      rcases List.mem_cons.1 inside with rfl | inside
      · decide
      · rcases List.mem_cons.1 inside with rfl | inside
        · exact word
        · exact worded_hexCode _ _ x inside
    have pair {letter : CodePoint} (word : isWording letter = true) (inside : x ∈ [.char '\\', letter]) :
        isWording x = true := by
      simp only [List.mem_cons, List.not_mem_nil, or_false] at inside
      rcases inside with rfl | rfl
      · decide
      · exact word
    unfold quotedChar at inside
    split at inside
    · simp only [List.mem_cons, List.not_mem_nil, or_false] at inside
      rcases inside with rfl | rfl
      · exact .inr (by decide)
      · exact .inl rfl
    · split at inside
      · exact .inr (pair (by decide) inside)
      · split at inside
        · exact .inr (pair (by decide) inside)
        · split at inside
          · exact .inr (pair (by decide) inside)
          · split at inside
            · exact .inl (List.mem_singleton.1 inside)
            · split at inside
              · exact .inr (code (by decide) inside)
              · split at inside
                · exact .inr (code (by decide) inside)
                · exact .inr (code (by decide) inside)
  simp only [quoted, List.flatMap_cons, List.flatMap_nil, List.append_nil, List.cons_append, List.mem_cons,
    List.mem_append, List.not_mem_nil, or_false] at member
  rcases member with rfl | inside | rfl
  · exact .inr marked
  · exact inner _ inside
  · exact .inr marked

theorem fieldless_quoted (c : CodePoint) : Segment.Fieldless (quoted [c]) := by
  by_cases dollar : c = '$'
  · subst dollar
    exact Segment.fieldless_of_brace (by decide)
  · apply Segment.fieldless_of_dollar
    intro member
    rcases worded_of_mem_quoted member with same | word
    · exact dollar same.symm
    · exact absurd word (by decide)

theorem escape_not_mem_quoted (c : CodePoint) : .char '\x1b' ∉ quoted [c] := by
  by_cases escape : c = '\x1b'
  · subst escape
    decide
  · intro member
    rcases worded_of_mem_quoted member with same | word
    · exact escape same.symm
    · exact absurd word (by decide)

end Text

namespace Literal

theorem worded_escape (why : EscapeFault) : Text.Worded why.message := by
  cases why <;> decide

theorem worded_surrogateRun (run : SurrogateRun) : Text.Worded run.message := by
  have number (n : Nat) := Text.worded_ofNat n
  unfold SurrogateRun.message
  split
  · refine .append (.append ?_ (.append (.append (.append ?_ (Text.worded_hexCode _ _)) ?_) (number _))) ?_
    all_goals decide
  · refine .append (.append ?_ (.append (.append (.append ?_ (number _)) ?_) (number _))) ?_
    all_goals decide

theorem worded_message (why : Literal.Fault) : Text.Worded why.message := by
  have number (n : Nat) := Text.worded_ofNat n
  cases why with
  | unencodable run => exact worded_surrogateRun run
  | containsNull => decide
  | unterminated line =>
      refine .append (.append ?_ (number line)) ?_
      · decide
      · decide
  | badEscape first last why line =>
      refine .append (.append (.append (.append (.append (.append (.append (.append
        ?_ (number first)) ?_) (number last)) ?_) (worded_escape why)) ?_) (number line)) ?_
      all_goals decide

end Literal

/-- A token that can be quoted in a message: its text has a property, which a single character needs not have. -/
def Token.Quotable (P : Text → Prop) (token : Token) : Prop :=
  P token.text ∧ (token.kind = .stray → ∃ c, token.text = [c])

theorem Token.quotable_of_mem_scan {P : Text → Prop} {source : Text} (inherits : ∀ t, t <:+: source → P t) :
    ∀ token ∈ Token.scan source, token.Quotable P :=
  fun _ member => ⟨inherits _ (infix_of_mem_scanFrom member), single_of_stray member⟩

namespace CompileError

/-- An error whose quotations have a property. -/
def Quotable (P : Text → Prop) : CompileError → Prop
  | undefined name _ => P name
  | expectedName found _ | unexpected found _ => ∃ c, found = [c]
  | badText literal _ _ => P literal
  | emptyDirective _ | unclosed _ | longNumber _ => True

/-- What is said of an error: words in front of a quotation and behind it, or words only. A blank or a quotation mark
    follows the quotation. -/
theorem exists_quotation {P : Text → Prop} (single : ∀ c, P (Text.quoted [c])) {e : CompileError}
    (quotable : e.Quotable P) :
    e.fault.message.Worded ∨ ∃ front quotation back : Text, e.fault.message = front ++ quotation ++ back ∧
      front.Worded ∧ P quotation ∧ back.Worded ∧ (back.head? = some (.char ' ') ∨ back.head? = some (.char '"')) := by
  have number (n : Nat) := Text.worded_ofNat n
  cases e with
  | emptyDirective position =>
      refine .inl (.append ?_ (number position))
      decide
  | unclosed position =>
      refine .inl (.append ?_ (number position))
      decide
  | longNumber digits =>
      refine .inl (.append (.append (.append (.append ?_ (number _)) ?_) (.append (.append ?_ (number digits)) ?_)) ?_)
      all_goals decide
  | undefined name position =>
      refine .inr ⟨"function \"", name, "\" not defined (directive at position " ++ Text.ofNat position ++ ")",
        ?_, ?_, quotable, .append (.append ?_ (number position)) ?_, .inr rfl⟩
      · simp only [fault, List.append_assoc]
      all_goals decide
  | expectedName found position =>
      obtain ⟨c, rfl⟩ := quotable
      refine .inr ⟨"unexpected ", Text.quoted [c],
        " in directive at position " ++ Text.ofNat position ++ ", expected function name",
        ?_, ?_, single c, .append (.append ?_ (number position)) ?_, .inl rfl⟩
      · simp only [fault, List.append_assoc]
      all_goals decide
  | unexpected found position =>
      obtain ⟨c, rfl⟩ := quotable
      refine .inr ⟨"unexpected ", Text.quoted [c], " in directive at position " ++ Text.ofNat position,
        ?_, ?_, single c, .append ?_ (number position), .inl rfl⟩
      · simp only [fault, List.append_assoc]
      all_goals decide
  | badText literal position why =>
      refine .inr ⟨"bad string ", literal, " at position " ++ Text.ofNat position ++ ": " ++ why.message,
        ?_, ?_, quotable, .append (.append (.append ?_ (number position)) ?_) (Literal.worded_message why),
        .inl rfl⟩
      · simp only [fault, List.append_assoc]
      all_goals decide

theorem fieldless_message {e : CompileError} (quotable : e.Quotable Segment.Fieldless) :
    Segment.Fieldless e.fault.message := by
  rcases exists_quotation Text.fieldless_quoted quotable with worded |
    ⟨front, quotation, back, message, before, fieldless, behind, -⟩
  · exact Segment.fieldless_of_dollar (worded.not_mem (by decide))
  · rw [message]
    exact fieldless.between (before.not_mem (by decide)) (behind.not_mem (by decide))

theorem escape_not_mem_message {e : CompileError} (quotable : e.Quotable fun t => .char '\x1b' ∉ t) :
    .char '\x1b' ∉ e.fault.message := by
  rcases exists_quotation Text.escape_not_mem_quoted quotable with worded |
    ⟨front, quotation, back, message, before, absent, behind, -⟩
  · exact worded.not_mem (by decide)
  · rw [message]
    exact List.not_mem_append (List.not_mem_append (before.not_mem (by decide)) absent) (behind.not_mem (by decide))

end CompileError

namespace Node

variable {P : Text → Prop}

theorem quotable_of_close {knows : Text → Bool} {d : Draft} {e : CompileError}
    (named : ∀ name ∈ d.name, P name) (failed : d.close knows = .error e) : e.Quotable P := by
  unfold Draft.close at failed
  split at failed
  · cases failed
    trivial
  · next name known =>
      split at failed
      · cases failed
      · cases failed
        exact named name known

section

variable [CharNames]

theorem quotable_of_add {d : Draft} {token : Token} {e : CompileError} (quotable : token.Quotable P)
    (failed : d.add token = .error e) : e.Quotable P := by
  unfold Draft.add at failed
  cases kind : token.kind with
  | brace | text | blank | name | raw => simp [kind] at failed
  | integer =>
      simp only [kind, Draft.number] at failed
      cases read : Numeral.readInt token.text with
      | ok n => simp [read, Except.map] at failed
      | error fault =>
          cases fault with
          | tooLong digits =>
              simp only [read, Except.map, Except.error.injEq] at failed
              exact failed ▸ trivial
          | notNumeral base t => simp [read, Except.map] at failed
  | quoted =>
      simp only [kind] at failed
      cases decoded : Literal.decode (Draft.inner token.text) with
      | ok t => simp [decoded] at failed
      | error why =>
          simp only [decoded, Except.error.injEq] at failed
          exact failed ▸ quotable.1
  | stray =>
      simp only [kind] at failed
      cases name : d.name with
      | none =>
          simp only [name, Except.error.injEq] at failed
          exact failed ▸ quotable.2 kind
      | some name' =>
          simp only [name, Except.error.injEq] at failed
          exact failed ▸ quotable.2 kind

theorem named_of_add {d longer : Draft} {token : Token} (quotable : token.Quotable P)
    (named : ∀ name ∈ d.name, P name) (added : d.add token = .ok longer) :
    ∀ name ∈ longer.name, P name := by
  unfold Draft.add at added
  cases kind : token.kind with
  | brace | text | blank =>
      simp only [kind, Except.ok.injEq] at added
      exact added ▸ named
  | name =>
      simp only [kind, Except.ok.injEq] at added
      rw [← added]
      unfold Draft.addWord
      split
      · intro name same
        cases same
        exact quotable.1
      · exact named
  | integer =>
      simp only [kind] at added
      obtain ⟨n, -, rfl⟩ := Outcome.map_eq_ok.1 added
      exact named
  | raw =>
      simp only [kind, Except.ok.injEq] at added
      exact added ▸ named
  | quoted =>
      simp only [kind] at added
      cases decoded : Literal.decode (Draft.inner token.text) with
      | ok t =>
          simp only [decoded, Except.ok.injEq] at added
          exact added ▸ named
      | error why => simp [decoded] at added
  | stray =>
      simp only [kind] at added
      cases name : d.name <;> simp [name] at added

theorem quotable_of_readFrom {knows : Text → Bool} {d : Option Draft} {tokens : List Token} {e : CompileError}
    (quotable : ∀ token ∈ tokens, token.Quotable P)
    (named : ∀ draft ∈ d, ∀ name ∈ draft.name, P name)
    (failed : readFrom knows d tokens = .error e) : e.Quotable P := by
  induction tokens generalizing d with
  | nil =>
      cases d with
      | none => cases failed
      | some d =>
          cases failed
          trivial
  | cons token rest ih =>
      have here := quotable token List.mem_cons_self
      have onward {d : Option Draft} (named : ∀ draft ∈ d, ∀ name ∈ draft.name, P name)
          (failed : readFrom knows d rest = .error e) : e.Quotable P :=
        ih (fun other member => quotable other (List.mem_cons_of_mem _ member)) named failed
      cases d with
      | none =>
          simp only [readFrom] at failed
          split at failed
          · refine onward ?_ failed
            rintro _ ⟨⟩ _ ⟨⟩
          · refine onward (d := none) (by simp) ?_
            cases later : readFrom knows none rest with
            | ok nodes => simp [later, Except.map] at failed
            | error e' =>
                simp only [later, Except.map, Except.error.injEq] at failed
                rw [failed]
      | some d =>
          have namedHere := named d rfl
          simp only [readFrom] at failed
          split at failed
          · cases closed : d.close knows with
            | error e' =>
                simp only [closed, bind, Except.bind, Except.error.injEq] at failed
                exact failed ▸ quotable_of_close namedHere closed
            | ok node =>
                refine onward (d := none) (by simp) ?_
                cases later : readFrom knows none rest with
                | ok nodes => simp [closed, later, bind, Except.bind, pure, Except.pure] at failed
                | error e' =>
                    simp only [closed, later, bind, Except.bind, Except.error.injEq] at failed
                    rw [failed]
          · cases added : d.add token with
            | error e' =>
                simp only [added, bind, Except.bind, Except.error.injEq] at failed
                exact failed ▸ quotable_of_add here added
            | ok longer =>
                simp only [added, bind, Except.bind] at failed
                refine onward ?_ failed
                rintro _ ⟨⟩
                exact named_of_add here namedHere added

theorem quotable_of_read {knows : Text → Bool} {source : Text} {e : CompileError} (inherits : ∀ t, t <:+: source → P t)
    (failed : read knows source = .error e) : e.Quotable P :=
  quotable_of_readFrom (Token.quotable_of_mem_scan inherits) (by simp) failed

end

end Node

theorem Scalar.worded_typeName (s : Scalar) : s.typeName.Worded := by
  have plain : Text.Worded "NoneType" ∧ Text.Worded "bool" ∧ Text.Worded "int" ∧ Text.Worded "float" ∧
      Text.Worded "str" ∧ Text.Worded "datetime.date" ∧ Text.Worded "datetime.datetime" ∧
      Text.Worded "bytes" := by decide
  obtain ⟨null, bool, int, real, text, date, moment, bytes⟩ := plain
  cases s with
  | null => exact null
  | bool => exact bool
  | int => exact int
  | real => exact real
  | text => exact text
  | date => exact date
  | moment => exact moment
  | bytes => exact bytes

theorem Value.worded_typeName (v : Value) : v.typeName.Worded := by
  have plain : Text.Worded "list" ∧ Text.Worded "dict" := by decide
  cases v with
  | scalar s => exact s.worded_typeName
  | list => exact plain.1
  | dict => exact plain.2

namespace Directive

theorem worded_name (d : Directive) : d.name.Worded := by
  cases d <;> decide

theorem worded_problem {d : Directive} {args : List Arg} {problem : ArgProblem}
    (failed : d.effect args = .error problem) : problem.message.Worded := by
  have counted (got : Nat) : (ArgProblem.count d.name d.params.length got).message.Worded := by
    refine .append (.append (.append (.append (.append ?_ d.worded_name) ?_) (Text.worded_ofNat _)) ?_)
      (Text.worded_ofNat _)
    all_goals decide
  unfold effect at failed
  split at failed
  · cases failed
  · simp only [Except.error.injEq] at failed
    rw [← failed]
    cases found : d.problem? (args.map Arg.toValue) with
    | none => exact counted _
    | some problem =>
        rw [Option.getD_some]
        unfold problem? argProblem? at found
        split at found
        · obtain ⟨⟨param, arg⟩, -, typed⟩ := List.exists_of_findSome?_eq_some found
          simp only at typed
          split at typed
          · cases typed
          · cases typed
            refine .append (.append (.append ?_ ?_) ?_) arg.worded_typeName
            · decide
            · cases param <;> decide
            · decide
        · cases found
          exact counted _

end Directive

namespace Program

/-- A program of built-in directives whose calls are all known. -/
structure Builtin (p : PureProgram) : Prop where
  registry : p.registry = Registry.builtins
  known : ∀ name args position, .call name args position ∈ p.nodes → p.registry.knows name = true

theorem builtin_of_read [CharNames] {colors : Bool} {source : Text} {p : PureProgram}
    (found : read [] colors source = .ok p) : Builtin p := by
  obtain ⟨nodes, read, rfl⟩ := Outcome.map_eq_ok.1 found
  exact ⟨rfl, fun _ _ _ member => Node.known_of_readFrom read member⟩

theorem quotable_of_read [CharNames] {P : Text → Prop} {extensions : List (Text × Extension Unit)} {colors : Bool}
    {source : Text}
    {e : CompileError} (inherits : ∀ t, t <:+: source → P t) (failed : read extensions colors source = .error e) :
    e.Quotable P := by
  unfold read at failed
  cases nodes : Node.read (Registry.withExtensions extensions).knows source with
  | ok found => simp [nodes, Except.map] at failed
  | error e' =>
      simp only [nodes, Except.map, Except.error.injEq] at failed
      exact failed ▸ Node.quotable_of_read inherits nodes

section
variable {extensions : List (Text × Extension Unit)} {colors : Bool} {source : Text} {e : CompileError}

theorem fieldless_of_read [CharNames] (fieldless : Segment.Fieldless source)
    (failed : read extensions colors source = .error e) :
    Segment.Fieldless e.fault.message :=
  CompileError.fieldless_message (quotable_of_read (fun _ inside => fieldless.of_infix inside) failed)

theorem escape_not_mem_of_read [CharNames] (absent : .char '\x1b' ∉ source)
    (failed : read extensions colors source = .error e) :
    .char '\x1b' ∉ e.fault.message :=
  CompileError.escape_not_mem_message (quotable_of_read (fun _ inside member => absent (inside.subset member)) failed)

end

theorem worded_of_refusal? {name : Text} (named : name.Worded) {position : Nat} {effect : Effect} {s : Style}
    {e : ExecuteError} (refused : refusal? name position effect s = some e) : e.fault.message.Worded := by
  rcases of_refusal?_eq_some refused with ⟨color, -, -, rfl⟩ | rfl
  · refine .append (.append ?_ (Text.worded_ofInt color)) ?_
    all_goals decide
  · refine .append (.append (.append (.append (.append ?_ named) ?_) (Text.worded_ofNat position)) ?_) ?_
    all_goals decide

theorem worded_of_runNode {p : PureProgram} (builtin : Builtin p) {node : Node} (member : node ∈ p.nodes)
    {at_ reached : Reached Unit} {e : ExecuteError} (failed : p.runNode node at_ = (.error e, reached)) :
    e.fault.message.Worded := by
  cases node with
  | text t => simp [runNode] at failed
  | call name args position =>
      have known := builtin.known name args position member
      simp only [runNode, runCall] at failed
      have meaning : p.registry.find? name = (Directive.all.find? (·.name = name)).map .builtin := by
        rw [builtin.registry, Registry.find?_builtins]
      cases found : Directive.all.find? (·.name = name) with
      | none => simp [Registry.knows, meaning, found] at known
      | some d =>
          have same : d.name = name := by simpa using List.find?_some found
          simp only [meaning, found, Option.map_some] at failed
          cases effect : d.effect args with
          | error problem =>
              simp only [effect, Prod.mk.injEq, Except.error.injEq] at failed
              rw [← failed.1]
              refine .append (.append (.append (.append (.append ?_ (same ▸ d.worded_name)) ?_)
                (Text.worded_ofNat position)) ?_) (Directive.worded_problem effect)
              all_goals decide
          | ok change =>
              simp only [effect, runEffect] at failed
              split at failed
              · next refused =>
                  simp only [Prod.mk.injEq, Except.error.injEq] at failed
                  exact failed.1 ▸ worded_of_refusal? (same ▸ d.worded_name) refused
              · simp at failed

theorem worded_of_runNodes {p : PureProgram} (builtin : Builtin p) {nodes : List Node}
    (members : ∀ node ∈ nodes, node ∈ p.nodes) {at_ reached : Reached Unit} {e : ExecuteError}
    (failed : p.runNodes nodes at_ = (.error e, reached)) : e.fault.message.Worded := by
  induction nodes generalizing at_ with
  | nil => simp [runNodes] at failed
  | cons node rest ih =>
      rw [runNodes_cons] at failed
      rcases Sequel.andThen_eq_error.1 failed with here | ⟨t, between, -, later⟩
      · exact worded_of_runNode builtin (members node List.mem_cons_self) here
      · exact ih (fun other member => members other (List.mem_cons_of_mem _ member)) later

theorem worded_of_execute {p : PureProgram} (builtin : Builtin p) {s : Style} {e : ExecuteError}
    (failed : (PureProgram.execute p s).1 = .error e) : e.fault.message.Worded := by
  rcases ran : p.runNodes p.nodes (s, ()) with ⟨e' | t, reached⟩
  · have same : e' = e := by
      simpa [PureProgram.execute, Program.execute, ran] using failed
    exact same ▸ worded_of_runNodes builtin (fun _ member => member) ran
  · simp [PureProgram.execute, Program.execute, ran] at failed

theorem fieldless_of_execute {p : PureProgram} (builtin : Builtin p) {s : Style} {e : ExecuteError}
    (failed : (PureProgram.execute p s).1 = .error e) : Segment.Fieldless e.fault.message :=
  Segment.fieldless_of_dollar ((worded_of_execute builtin failed).not_mem (by decide))

end Program

end LogStyle
