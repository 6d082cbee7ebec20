import LogStyle.Proofs.Formatter.Direct
import LogStyle.Proofs.Program.Call

/-! # How programs fail

What is wrong with a program is told by a failure to read it or to run it, with one exception. A number with more
digits than can be read is a fault of the value, and nobody on the way turns it into a failure of the program.
-/

namespace LogStyle

/-- A failure of a kind that is not among those that callers are told to expect. -/
def Escapes {α : Type} (outcome : Except Fault α) (kinds : List FaultKind) : Prop :=
  ∃ fault, outcome = .error fault ∧ fault.kind ∉ kinds

namespace Lexeme

theorem exists_digits_of_integer {c : CodePoint} {rest : Text} (integer : (inside c rest).kind = .integer) :
    ∃ digits, (∀ d ∈ digits, isDecimal d = true) ∧
      ((inside c rest).text = digits ∨ (inside c rest).text = .char '-' :: digits) := by
  have inner := inner_inside c rest
  generalize inside c rest = token at inner integer ⊢
  cases inner with
  | integer starts =>
      rcases starts with decimal | ⟨rfl, -⟩
      · refine ⟨c :: rest.takeWhile isDecimal, fun d member => ?_, .inl rfl⟩
        rcases List.mem_cons.1 member with rfl | kept
        · exact decimal
        · exact List.mem_takeWhile_imp kept
      · exact ⟨rest.takeWhile isDecimal, fun d => List.mem_takeWhile_imp, .inr rfl⟩
  | blank | quoted | raw | name | close | stray => cases integer

end Lexeme

namespace Token

theorem exists_digits_of_mem_scanFrom {open_ : Bool} {position : Nat} {t : Text} {token : Token}
    (member : token ∈ scanFrom open_ position t) (integer : token.kind = .integer) :
    ∃ digits, (∀ d ∈ digits, isDecimal d = true) ∧ (token.text = digits ∨ token.text = .char '-' :: digits) := by
  induction open_, position, t using scanFrom.induct with
  | case1 open_ position => simp at member
  | case2 open_ position c rest lexeme ih =>
      rw [scanFrom_cons] at member
      rcases List.mem_cons.1 member with rfl | later
      · cases open_ with
        | false =>
            simp only [first, Lexeme.outside, Bool.false_eq_true, if_false] at integer
            split at integer <;> simp [Lexeme.run] at integer
        | true => exact Lexeme.exists_digits_of_integer integer
      · exact ih later

end Token

namespace Numeral

theorem readNat_eq_tooLong {digits : Text} (decimal : ∀ d ∈ digits, isDecimal d = true) {n : Nat} :
    readNat digits = .error (.tooLong n) ↔ digitLimit < digits.length ∧ n = digits.length := by
  have whole : digits.takeWhile isDecimal = digits := List.takeWhile_eq_self_iff.2 decimal
  simp only [readNat, whole]
  split
  · next long => simp [long, eq_comm]
  · next short =>
      split <;> simp [short]

theorem exists_readInt_eq_tooLong {digits text : Text} (decimal : ∀ d ∈ digits, isDecimal d = true)
    (written : text = digits ∨ text = .char '-' :: digits) :
    (∃ n, readInt text = .error (.tooLong n)) ↔ digitLimit < text.countP isDecimal := by
  have minus : isDecimal '-' = false := by decide
  have all : digits.countP isDecimal = digits.length := List.countP_eq_length.2 decimal
  have outcome {β : Type} (f : Nat → β) :
      (∃ n, (readNat digits).map f = .error (.tooLong n)) ↔ digitLimit < digits.length := by
    constructor
    · rintro ⟨n, failed⟩
      cases read : readNat digits with
      | ok m => simp [read, Except.map] at failed
      | error fault =>
          simp only [read, Except.map, Except.error.injEq] at failed
          rw [failed] at read
          exact ((readNat_eq_tooLong decimal).1 read).1
    · intro long
      exact ⟨digits.length, by rw [(readNat_eq_tooLong decimal).2 ⟨long, rfl⟩]; rfl⟩
  rcases written with rfl | rfl
  · rw [all]
    have plain : readInt text = (readNat text).map Int.ofNat := by
      unfold readInt
      split
      · have first := decimal '-' List.mem_cons_self
        rw [minus] at first
        cases first
      · rfl
    rw [plain]
    exact outcome Int.ofNat
  · have negative : readInt (.char '-' :: digits) = (readNat digits).map fun n : Nat => -(n : Int) := by
      rw [readInt]
      cases readNat digits <;> rfl
    rw [List.countP_cons_of_neg (by simp [minus]), all, negative]
    exact outcome _

end Numeral

namespace Node

/-- A source that is read without a failure up to a number with more digits than can be read. -/
def LongIn [CharNames] (knows : Text → Bool) (source : Text) : Prop :=
  ∃ front token back nodes d, Token.scan source = front ++ token :: back ∧
    feed knows none front = .ok (nodes, some d) ∧ token.kind = .integer ∧
    Numeral.digitLimit < token.text.countP isDecimal

variable {knows : Text → Bool} {n : Nat}

theorem Draft.add_eq_longNumber [CharNames] {d : Draft} {token : Token} :
    d.add token = .error (.longNumber n) ↔
      token.kind = .integer ∧ Numeral.readInt token.text = .error (.tooLong n) := by
  unfold add
  cases kind : token.kind with
  | brace | text | blank | name | raw => simp
  | quoted => cases Literal.decode (inner token.text) <;> simp
  | stray => cases d.name <;> simp
  | integer =>
      simp only [number, true_and]
      rcases Numeral.readInt token.text with (_ | _) | _ <;> simp [Except.map]

theorem Draft.close_ne_longNumber {d : Draft} : d.close knows ≠ .error (.longNumber n) := by
  unfold close
  split
  · simp
  · split <;> simp

section

variable [CharNames]

theorem feed_eq_longNumber {d : Option Draft} {token : Token} :
    feed knows d [token] = .error (.longNumber n) ↔
      d.isSome = true ∧ token.kind = .integer ∧ Numeral.readInt token.text = .error (.tooLong n) := by
  cases d with
  | none =>
      simp only [feed]
      split <;> simp [Except.map]
  | some d =>
      simp only [feed, Option.isSome_some, true_and]
      split
      · next brace =>
          cases closed : d.close knows with
          | error e =>
              have other : e ≠ .longNumber n := fun same => Draft.close_ne_longNumber (same ▸ closed)
              simp [bind, Except.bind, other, brace]
          | ok node => simp [bind, Except.bind, Except.map, brace]
      · rw [← Draft.add_eq_longNumber (d := d)]
        cases d.add token <;> simp [bind, Except.bind]

theorem readFrom_eq_longNumber {d : Option Draft} {tokens : List Token} :
    readFrom knows d tokens = .error (.longNumber n) ↔
      ∃ front token back nodes between, tokens = front ++ token :: back ∧
        feed knows d front = .ok (nodes, some between) ∧ token.kind = .integer ∧
        Numeral.readInt token.text = .error (.tooLong n) := by
  constructor
  · intro failed
    -- One token at a time: either it is the number, or it is fed and the number stands behind it.
    induction tokens generalizing d with
    | nil => cases d <;> simp [readFrom] at failed
    | cons token rest ih =>
        rw [← List.singleton_append, readFrom_append] at failed
        rcases fed : feed knows d [token] with e | ⟨nodes, between⟩
        · simp only [fed, Except.error.injEq] at failed
          obtain ⟨isOpen, integer, long⟩ := feed_eq_longNumber.1 (failed ▸ fed)
          obtain ⟨d, rfl⟩ := Option.isSome_iff_exists.1 isOpen
          exact ⟨[], token, rest, [], d, rfl, rfl, integer, long⟩
        · have later : readFrom knows between rest = .error (.longNumber n) := by
            cases read : readFrom knows between rest with
            | ok nodes => simp [fed, read, Except.map] at failed
            | error e => simpa [fed, read, Except.map] using failed
          obtain ⟨front, token', back, more, d', rfl, fed', integer, long⟩ := ih later
          refine ⟨[token] ++ front, token', back, nodes ++ more, d', rfl, ?_, integer, long⟩
          rw [feed_append, fed]
          simp only [fed', Except.map]
  · rintro ⟨front, token, back, nodes, between, rfl, fed, integer, long⟩
    have added := Draft.add_eq_longNumber (d := between).2 ⟨integer, long⟩
    rw [readFrom_append, fed]
    simp only [readFrom, integer, reduceCtorEq, if_false, added, bind, Except.bind, Except.map]

theorem exists_read_eq_longNumber {source : Text} :
    (∃ n, read knows source = .error (.longNumber n)) ↔ LongIn knows source := by
  have long {token : Token} (member : token ∈ Token.scan source) (integer : token.kind = .integer) :
      (∃ n, Numeral.readInt token.text = .error (.tooLong n)) ↔
        Numeral.digitLimit < token.text.countP isDecimal := by
    obtain ⟨digits, decimal, written⟩ := Token.exists_digits_of_mem_scanFrom member integer
    exact Numeral.exists_readInt_eq_tooLong decimal written
  constructor
  · rintro ⟨n, failed⟩
    obtain ⟨front, token, back, nodes, d, scanned, fed, integer, tooLong⟩ := readFrom_eq_longNumber.1 failed
    have member : token ∈ Token.scan source := by simp [scanned]
    exact ⟨front, token, back, nodes, d, scanned, fed, integer, (long member integer).1 ⟨n, tooLong⟩⟩
  · rintro ⟨front, token, back, nodes, d, scanned, fed, integer, many⟩
    have member : token ∈ Token.scan source := by simp [scanned]
    obtain ⟨n, tooLong⟩ := (long member integer).2 many
    exact ⟨n, readFrom_eq_longNumber.2 ⟨front, token, back, nodes, d, scanned, fed, integer, tooLong⟩⟩

theorem read_append {front : Text} {nodes : List Node} (found : read knows front = .ok nodes) (rest : Text) :
    read knows (front ++ .char '\x7b' :: rest) = (readAt knows front.length (.char '\x7b' :: rest)).map (nodes ++ ·) := by
  have fed : feed knows none (Token.scanFrom false 0 front) = .ok (nodes, none) := feed_of_readFrom found
  have closed : Token.openAfter false (Token.scanFrom false 0 front) = false := (isSome_of_feed fed).symm
  have scanned : Token.scan (front ++ .char '\x7b' :: rest) = _ :=
    Token.scanFrom_append Lexeme.seam_brace rest false 0 front (.inl (not_stray_of_feed rfl fed)) (.inl rfl)
  rw [closed, Nat.zero_add] at scanned
  unfold read
  rw [scanned, readFrom_append, fed]
  rfl

theorem readAt_longNumber {name : Text} (named : Lexeme.IsName name) {digits : Text}
    (basic : ∀ c ∈ digits, isBasicDigit c = true) (many : Numeral.digitLimit < digits.length) (position : Nat)
    (rest : Text) :
    readAt knows position (.char '\x7b' :: (name ++ .char ' ' :: (digits ++ .char '\x7d' :: rest))) =
      .error (.longNumber digits.length) := by
  rw [readAt_open named (by decide)]
  cases digits with
  | nil => simp at many
  | cons c more =>
      have ends : isDecimal '\x7d' = false := by decide
      have blank := (Lexeme.only_digit_of_isBasicDigit (basic c List.mem_cons_self)).1
      have tooLong : Numeral.readInt (c :: more) = .error (.tooLong (c :: more).length) := by
        have failed : Numeral.readNat (c :: more) = .error (.tooLong (c :: more).length) :=
          (Numeral.readNat_eq_tooLong fun d member => isDecimal_of_isBasicDigit (basic d member)).2 ⟨many, rfl⟩
        rw [Numeral.readInt, failed]
        · rfl
        · intro t minus
          have digit := basic c List.mem_cons_self
          rw [(List.cons.inj minus).1] at digit
          exact absurd digit (by decide)
      rw [List.cons_append, readInside_space blank,
        readInside_of_inside (Lexeme.inside_digits basic ends rest) (by simp)]
      simp only [Draft.add, Draft.number, tooLong]
      rfl

theorem longIn_of_call {front : Text} {nodes : List Node} (found : read knows front = .ok nodes) {name : Text}
    (named : Lexeme.IsName name) {digits : Text} (basic : ∀ c ∈ digits, isBasicDigit c = true)
    (many : Numeral.digitLimit < digits.length) (rest : Text) :
    LongIn knows (front ++ .char '\x7b' :: (name ++ .char ' ' :: (digits ++ .char '\x7d' :: rest))) := by
  refine exists_read_eq_longNumber.1 ⟨digits.length, ?_⟩
  rw [read_append found, readAt_longNumber named basic many]
  rfl

end

end Node

theorem CompileError.kind_fault (e : CompileError) :
    (e.fault.kind = .compile ∧ ∀ n, e ≠ .longNumber n) ∨ (e.fault.kind = .value ∧ ∃ n, e = .longNumber n) := by
  cases e with
  | longNumber n => exact .inr ⟨rfl, n, rfl⟩
  | _ => exact .inl ⟨rfl, fun n same => nomatch same⟩

theorem Node.exists_read_unexpected [CharNames] {knows : Text → Bool} {source : Text} (kinds : List FaultKind)
    (compile : .compile ∈ kinds) (value : .value ∉ kinds) :
    (∃ e, read knows source = .error e ∧ e.fault.kind ∉ kinds) ↔ LongIn knows source := by
  rw [← exists_read_eq_longNumber]
  constructor
  · rintro ⟨e, failed, other⟩
    rcases e.kind_fault with ⟨kind, -⟩ | ⟨-, n, rfl⟩
    · exact absurd (kind ▸ compile) other
    · exact ⟨n, failed⟩
  · rintro ⟨n, failed⟩
    exact ⟨_, failed, value⟩

namespace Program

variable {σ : Type}

theorem kind_of_runNode {p : Program σ} {node : Node} {at_ reached : Reached σ} {e : ExecuteError}
    (failed : p.runNode node at_ = (.error e, reached)) :
    e.fault.kind = .execute ∨
      e.fault.kind.isStyle = true ∧ ∃ name extension, p.registry.find? name = some (.extension extension) := by
  cases node with
  | text t => cases failed
  | call name args position =>
      simp only [runNode, runCall] at failed
      split at failed
      · cases failed
        exact .inl rfl
      · split at failed
        · simp only [runEffect] at failed
          split at failed
          · next refused =>
              cases failed
              rcases of_refusal?_eq_some refused with ⟨color, -, -, rfl⟩ | rfl <;> exact .inl rfl
          · cases failed
        · cases failed
          exact .inl rfl
      · next extension known =>
          split at failed
          · cases failed
          · next fault _ _ =>
              cases failed
              rw [ExecuteError.ofExtension]
              by_cases style : fault.kind.isStyle = true
              · rw [if_pos style]
                exact .inr ⟨style, name, extension, known⟩
              · rw [if_neg style]
                exact .inl rfl

theorem kind_of_runNodes {p : Program σ} {nodes : List Node} {at_ reached : Reached σ} {e : ExecuteError}
    (failed : p.runNodes nodes at_ = (.error e, reached)) :
    e.fault.kind = .execute ∨
      e.fault.kind.isStyle = true ∧ ∃ name extension, p.registry.find? name = some (.extension extension) := by
  induction nodes generalizing at_ with
  | nil => cases failed
  | cons node rest ih =>
      rw [runNodes_cons] at failed
      rcases Sequel.andThen_eq_error.1 failed with here | ⟨t, between, -, later⟩
      · exact kind_of_runNode here
      · exact ih later

theorem isStyle_of_runNodes {p : Program σ} {nodes : List Node} {at_ reached : Reached σ} {e : ExecuteError}
    (failed : p.runNodes nodes at_ = (.error e, reached)) : e.fault.kind.isStyle = true := by
  rcases kind_of_runNodes failed with kind | ⟨style, -⟩
  · rw [kind]
    rfl
  · exact style

theorem outcome_compile [CharNames] (extensions : List (Text × Extension σ)) (colors : Bool) (source : Text) :
    (compile extensions colors source).outcome.1 = (read extensions colors source).mapError CompileError.fault := by
  unfold compile
  cases read extensions colors source <;> rfl

theorem escapes_compile [CharNames] (extensions : List (Text × Extension σ)) (colors : Bool) (source : Text) :
    Escapes (compile extensions colors source).outcome.1 [.compile] ↔
      Node.LongIn (Registry.withExtensions extensions).knows source := by
  rw [outcome_compile, ← Node.exists_read_unexpected [.compile] (by decide) (by decide)]
  unfold read Escapes
  cases found : Node.read (Registry.withExtensions extensions).knows source <;>
    simp [found, Except.map, Outcome.mapError_error, Outcome.mapError_ok]

end Program

theorem FaultKind.isStyle_iff {kind : FaultKind} : kind.isStyle = true ↔ kind ∈ [.compile, .execute] := by
  cases kind <;> decide

section

variable [CharNames]

theorem PureProgram.escapes_compileAndExecute (colors : Bool) (fragment : Text) (s : Style) :
    Escapes (PureProgram.compileAndExecute [] colors fragment s).outcome.1 [.compile, .execute] ↔
      Node.LongIn (Registry.builtins (σ := Unit)).knows fragment := by
  rw [Walk.outcome_compileAndExecute, ← Node.exists_read_unexpected [.compile, .execute] (by decide) (by decide)]
  have found : Program.read (σ := Unit) [] colors fragment =
      (Node.read (Registry.builtins (σ := Unit)).knows fragment).map fun nodes => ⟨Registry.builtins, nodes, colors⟩ :=
    rfl
  rw [found]
  cases Node.read (Registry.builtins (σ := Unit)).knows fragment with
  | error e => simp [Escapes, Except.map]
  | ok nodes =>
      simp only [Except.map, reduceCtorEq, false_and, exists_false, iff_false]
      rintro ⟨fault, failed, other⟩
      rcases ran : Program.execute (⟨Registry.builtins, nodes, colors⟩ : PureProgram) (s, ()) with ⟨e | t, reached⟩
      · simp only [PureProgram.execute, ran, Except.error.injEq] at failed
        exact other (failed ▸ FaultKind.isStyle_iff.1 (Program.isStyle_of_runNodes ran))
      · simp [PureProgram.execute, ran] at failed

theorem Formatter.isStyle_of_ofRun {colors : Bool} {nodes : List Node} {fault : Fault}
    (failed : ofRun (runNodes colors nodes) = .error fault) : fault.kind.isStyle = true := by
  rcases ran : runNodes colors nodes with ⟨e | t, reached⟩
  · simp only [ran, ofRun, Except.error.injEq] at failed
    exact failed ▸ Program.isStyle_of_runNodes ran
  · simp [ran, ofRun] at failed

theorem Formatter.kind_of_compile {colors : Bool} {format : Text} {fault : Fault}
    (failed : (compile colors format).outcome.1 = .error fault) :
    fault.kind.isStyle = true ∨ fault.kind = .value := by
  rw [outcome_compile] at failed
  cases read : nodes colors format with
  | error e =>
      simp only [read, Except.error.injEq] at failed
      rcases e.kind_fault with ⟨kind, -⟩ | ⟨kind, -⟩
      · rw [← failed, kind]
        exact .inl rfl
      · exact .inr (failed ▸ kind)
  | ok parsed =>
      simp only [read] at failed
      exact .inl (isStyle_of_ofRun failed)

/-- A number in a format is too long, and all is well in front of it. -/
def Formatter.LongIn (colors : Bool) (format : Text) : Prop :=
  Node.LongIn (registry colors).knows format.fieldsAsDirectives

theorem Formatter.escapes_compile (colors : Bool) (format : Text) :
    Escapes (compile colors format).outcome.1 [.compile, .execute] ↔ LongIn colors format := by
  rw [outcome_compile, LongIn, ← Node.exists_read_unexpected [.compile, .execute] (by decide) (by decide)]
  unfold nodes
  cases Node.read (registry colors).knows format.fieldsAsDirectives with
  | error e => simp [Escapes]
  | ok parsed =>
      simp only [reduceCtorEq, false_and, exists_false, iff_false]
      rintro ⟨fault, failed, other⟩
      exact other (FaultKind.isStyle_iff.1 (isStyle_of_ofRun failed))

end

end LogStyle
