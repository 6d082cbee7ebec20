import LogStyle.Proofs.Program.Reading
import LogStyle.Proofs.Text.Literal
import LogStyle.Proofs.Text.Numeral
import LogStyle.Proofs.Text.Sequel

/-! # Programs from front to back

What a source writes can be told from its front: a character outside of braces stands for itself, a call
that is written out is run, and the rest goes on from there. `Program.Writes` says that a source can be read
and run, and what it writes; its laws take a source apart piece by piece, so that nobody else looks at
tokens.
-/

namespace LogStyle

namespace Lexeme

/-- A name that stands in a directive as one token. -/
def IsName : Text → Prop
  | [] => False
  | c :: rest => isNameStart c = true ∧ ∀ d ∈ rest, isWord d = true

-- The characters of a name are checked one by one; deciding for all characters that there are would not end.
instance : DecidablePred IsName
  | [] => .isFalse id
  | _ :: rest => @instDecidableAnd _ _ _ (List.decidableBAll (isWord · = true) rest)

theorem code_of_isNameStart {c : CodePoint} (h : isNameStart c = true) : c.toNat < 128 := by
  simp only [isNameStart, Bool.or_eq_true, Bool.and_eq_true, decide_eq_true_eq] at h
  rcases h with (⟨-, h⟩ | ⟨-, h⟩) | rfl
  · exact Nat.lt_of_le_of_lt (show c.toNat ≤ _ from h) (by decide)
  · exact Nat.lt_of_le_of_lt (show c.toNat ≤ _ from h) (by decide)
  · decide

theorem only_name_of_isNameStart {c : CodePoint} (h : isNameStart c = true) :
    isBlank c = false ∧ c ≠ '"' ∧ c ≠ '\x60' ∧ isDecimal c = false ∧ c ≠ '-' := by
  have all : ∀ n < 128, isNameStart (CodePoint.ofNat n) = true →
      isBlank (CodePoint.ofNat n) = false ∧ CodePoint.ofNat n ≠ '"' ∧ CodePoint.ofNat n ≠ '\x60' ∧
        isDecimal (CodePoint.ofNat n) = false ∧ CodePoint.ofNat n ≠ '-' := by decide
  have here := all c.toNat (code_of_isNameStart h)
  rw [CodePoint.ofNat_toNat] at here
  exact here h

theorem run_of_ends (kind : TokenClass) {keeps : CodePoint → Bool} (c : CodePoint) {rest : Text} {d : CodePoint}
    (h : ∀ e ∈ rest, keeps e = true) (ends : keeps d = false) (u : Text) :
    run kind keeps c (rest ++ d :: u) = ⟨kind, c :: rest, d :: u⟩ := by
  rw [run_append kind ends]
  simp only [run, before, List.takeWhile_eq_self_iff.2 h, List.dropWhile_eq_nil_iff.2 h, List.nil_append]

theorem inside_name {c : CodePoint} {rest : Text} (h : IsName (c :: rest)) {d : CodePoint} (ends : isWord d = false)
    (u : Text) : inside c (rest ++ d :: u) = ⟨.name, c :: rest, d :: u⟩ := by
  obtain ⟨start, words⟩ := h
  obtain ⟨blank, quote, tick, decimal, minus⟩ := only_name_of_isNameStart start
  simp only [inside, blank, quote, tick, decimal, minus, start, Bool.false_eq_true, if_false, decide_false,
    Bool.false_and, Bool.or_self, if_true]
  exact run_of_ends .name c words ends u

theorem inside_literal (t u : Text) :
    inside '"' (Literal.encodeBody t ++ .char '"' :: u) = ⟨.quoted, Literal.encode t, u⟩ := by
  have blank : isBlank '"' = false := by decide
  simp only [inside, blank, Bool.false_eq_true, if_false, if_true, Literal.quotedBody?_encodeBody,
    Literal.encode_eq]

theorem only_digit_of_isBasicDigit {c : CodePoint} (digit : isBasicDigit c = true) :
    isBlank c = false ∧ c ≠ '"' ∧ c ≠ '\x60' :=
  of_isBasicDigit (fun c => isBlank c = false ∧ c ≠ '"' ∧ c ≠ '\x60') (by decide) digit

theorem inside_digits {c : CodePoint} {rest : Text} (h : ∀ d ∈ c :: rest, isBasicDigit d = true) {d : CodePoint}
    (ends : isDecimal d = false) (u : Text) : inside c (rest ++ d :: u) = ⟨.integer, c :: rest, d :: u⟩ := by
  have digit := h c List.mem_cons_self
  obtain ⟨blank, quote, tick⟩ := only_digit_of_isBasicDigit digit
  simp only [inside, blank, quote, tick, isDecimal_of_isBasicDigit digit, Bool.false_eq_true, if_false, Bool.true_or,
    if_true]
  exact run_of_ends .integer c (fun e member => isDecimal_of_isBasicDigit (h e (List.mem_cons_of_mem _ member))) ends u

end Lexeme

namespace Node

section
variable (knows : Text → Bool)

/-- The nodes of a source that starts at a position, outside of braces. -/
def readAt [CharNames] (position : Nat) (source : Text) : Except CompileError (List Node) :=
  readFrom knows none (Token.scanFrom false position source)

/-- The nodes of a source that starts at a position, inside of a call. -/
def readInside [CharNames] (d : Draft) (position : Nat) (source : Text) : Except CompileError (List Node) :=
  readFrom knows (some d) (Token.scanFrom true position source)

def consChar (c : CodePoint) : List Node → List Node
  | .text t :: rest => .text (c :: t) :: rest
  | nodes => .text [c] :: nodes

@[simp] theorem readAt_nil [CharNames] (position : Nat) : readAt knows position [] = .ok [] := by
  simp [readAt, readFrom]

variable {knows}

section

variable [CharNames]

theorem Draft.grows_of_add {d longer : Draft} {token : Token} (added : d.add token = .ok longer) :
    ∃ grown, longer.args = d.args ++ grown ∧ longer.position = d.position ∧
      ∀ name ∈ d.name, longer.name = some name ∧
        (token.kind ∈ [.quoted, .raw, .integer, .name] → grown ≠ []) := by
  unfold add at added
  cases kind : token.kind with
  | brace | text | blank =>
      simp only [kind, Except.ok.injEq] at added
      exact ⟨[], by simp [← added], by rw [added], fun name named => ⟨added ▸ named, by simp⟩⟩
  | name =>
      simp only [kind, Except.ok.injEq] at added
      subst added
      cases named : d.name with
      | none => exact ⟨[], by simp [addWord, named], by simp [addWord, named], by simp⟩
      | some name =>
          exact ⟨[.text token.text], by simp [addWord, named, addArg], by simp [addWord, named, addArg],
            by simp [addWord, named, addArg]⟩
  | integer =>
      simp only [kind] at added
      obtain ⟨n, -, rfl⟩ := Outcome.map_eq_ok.1 added
      exact ⟨[.number n], rfl, rfl, fun name named => ⟨named, by simp⟩⟩
  | raw =>
      simp only [kind, Except.ok.injEq] at added
      subst added
      exact ⟨[.text (inner token.text)], rfl, rfl, fun name named => ⟨named, by simp⟩⟩
  | quoted =>
      simp only [kind] at added
      cases decoded : Literal.decode (inner token.text) with
      | ok t =>
          simp only [decoded, Except.ok.injEq] at added
          subst added
          exact ⟨[.text t], rfl, rfl, fun name named => ⟨named, by simp⟩⟩
      | error why => simp [decoded] at added
  | stray =>
      simp only [kind] at added
      cases named : d.name <;> simp [named] at added

theorem exists_call_of_readFrom {d : Draft} {tokens : List Token} {nodes : List Node}
    (read : readFrom knows (some d) tokens = .ok nodes) :
    ∃ name args more, nodes = .call name (d.args ++ args) d.position :: more ∧
      ∀ known ∈ d.name, name = known := by
  induction tokens generalizing d with
  | nil => cases read
  | cons token rest ih =>
      simp only [readFrom] at read
      split at read
      · obtain ⟨node, closed, behind⟩ := Outcome.bind_eq_ok.1 read
        obtain ⟨more, -, whole⟩ := Outcome.bind_eq_ok.1 behind
        cases whole
        unfold Draft.close at closed
        cases named : d.name with
        | none => simp [named] at closed
        | some name =>
            simp only [named] at closed
            split at closed
            · cases closed
              exact ⟨name, [], more, by simp, by simp⟩
            · cases closed
      · obtain ⟨longer, added, later⟩ := Outcome.bind_eq_ok.1 read
        obtain ⟨name, args, more, rfl, kept⟩ := ih later
        obtain ⟨grown, same, position, named⟩ := Draft.grows_of_add added
        exact ⟨name, grown ++ args, more, by rw [same, position, List.append_assoc],
          fun known isName => kept known (named known isName).1⟩

theorem readAt_char {c : CodePoint} (plain : c ≠ '\x7b') (position : Nat) (rest : Text) :
    readAt knows position (c :: rest) = (readAt knows (position + 1) rest).map (consChar c) := by
  have outside (e : CodePoint) (other : e ≠ '\x7b') (u : Text) : Token.first false e u =
      ⟨.text, e :: u.takeWhile (· ≠ .char '\x7b'), u.dropWhile (· ≠ .char '\x7b')⟩ := by
    rw [Token.first, if_neg (by simp), Lexeme.outside, if_neg other]
    rfl
  unfold readAt
  rw [Token.scanFrom_of_first (outside c plain rest), readFrom, if_neg (by simp)]
  cases rest with
  | nil => simp [Token.opens, readFrom, Except.map, consChar]
  | cons e u =>
      by_cases brace : e = '\x7b'
      · -- What follows starts with a call, so the character is a text of its own.
        subst brace
        have opening : Token.first false '\x7b' u = ⟨.brace, [.char '\x7b'], u⟩ := rfl
        simp only [Token.opens, ne_eq, decide_not, decide_true, Bool.not_true,
          Bool.false_eq_true, not_false_eq_true, List.takeWhile_cons_of_neg, List.dropWhile_cons_of_neg,
          List.length_singleton, reduceCtorEq, if_false, Token.scanFrom_of_first opening, readFrom, if_true]
        cases read : readFrom knows (some { position := position + 1 }) (Token.scanFrom true (position + 1 + 1) u) with
        | error e => simp [read, Except.map]
        | ok nodes =>
            obtain ⟨name, args, more, rfl, -⟩ := exists_call_of_readFrom read
            simp [read, Except.map, consChar]
      · have keeps : decide (e ≠ '\x7b') = true := by simp [brace]
        rw [Token.scanFrom_of_first (outside e brace u), readFrom, if_neg (by simp),
          List.takeWhile_cons_of_pos (by simp [brace]), List.dropWhile_cons_of_pos (by simp [brace])]
        simp only [Token.opens, reduceCtorEq, if_false, List.length_cons]
        have places : position + ((u.takeWhile (· ≠ .char '\x7b')).length + 1 + 1) =
          position + 1 + ((u.takeWhile (· ≠ .char '\x7b')).length + 1) := by omega
        rw [places]
        cases readFrom knows none _ <;> rfl

theorem readAt_text {front : Text} (plain : .char '\x7b' ∉ front) (position : Nat) (rest : Text) :
    readAt knows position (front ++ rest) =
      (readAt knows (position + front.length) rest).map (front.foldr consChar) := by
  induction front generalizing position with
  | nil => cases h : readAt knows position rest <;> simp [h, Except.map]
  | cons c front ih =>
      simp only [List.mem_cons, not_or] at plain
      have places : position + 1 + front.length = position + (c :: front).length := by
        rw [List.length_cons]
        omega
      rw [List.cons_append, readAt_char (Ne.symm plain.1), ih plain.2, places]
      cases readAt knows (position + (c :: front).length) rest <;> rfl

theorem readInside_of_inside {c : CodePoint} {rest text after : Text} {kind : TokenClass}
    (found : Lexeme.inside c rest = ⟨kind, text, after⟩) (inner : kind ≠ .brace) (d : Draft) (position : Nat) :
    readInside knows d position (c :: rest) =
      d.add ⟨position, kind, text⟩ >>= fun d => readInside knows d (position + text.length) after := by
  have first : Token.first true c rest = ⟨kind, text, after⟩ := found
  unfold readInside
  rw [Token.scanFrom_of_first first, readFrom, if_neg inner, Token.opens, if_neg inner]

theorem readAt_open {name : Text} (named : Lexeme.IsName name) {d : CodePoint} (ends : isWord d = false)
    (position : Nat) (rest : Text) :
    readAt knows position (.char '\x7b' :: (name ++ d :: rest)) =
      readInside knows ⟨some name, [], position⟩ (position + 1 + name.length) (d :: rest) := by
  cases name with
  | nil => exact named.elim
  | cons c word =>
      have opening : Token.first false '\x7b' (c :: word ++ d :: rest) = ⟨.brace, [.char '\x7b'], c :: word ++ d :: rest⟩ :=
        rfl
      unfold readAt
      rw [Token.scanFrom_of_first opening, readFrom, if_pos rfl]
      exact readInside_of_inside (Lexeme.inside_name named ends rest) (by simp) { position } (position + 1)

theorem readInside_blanks (d : Draft) (position : Nat) (source : Text) :
    readInside knows d position source =
      readInside knows d (position + (source.takeWhile isBlank).length) (source.dropWhile isBlank) := by
  cases source with
  | nil => rfl
  | cons c rest =>
      by_cases blank : isBlank c = true
      · have run : Lexeme.inside c rest = Lexeme.run .blank isBlank c rest := if_pos blank
        rw [readInside_of_inside run (by simp), List.takeWhile_cons_of_pos blank, List.dropWhile_cons_of_pos blank]
        rfl
      · rw [List.takeWhile_cons_of_neg blank, List.dropWhile_cons_of_neg blank]
        rfl

theorem readInside_space {c : CodePoint} (word : isBlank c = false) (d : Draft) (position : Nat) (rest : Text) :
    readInside knows d position (.char ' ' :: c :: rest) = readInside knows d (position + 1) (c :: rest) := by
  have blank : isBlank ' ' = true := by decide
  have ends : ¬ isBlank c = true := by simp [word]
  rw [readInside_blanks, List.takeWhile_cons_of_pos blank, List.dropWhile_cons_of_pos blank,
    List.takeWhile_cons_of_neg ends, List.dropWhile_cons_of_neg ends]
  rfl

theorem readInside_literal (d : Draft) (position : Nat) (t rest : Text) :
    (Literal.Writable t → readInside knows d position (Literal.encode t ++ rest) =
        readInside knows (d.addArg (.text t)) (position + (Literal.encode t).length) rest) ∧
      (¬ Literal.Writable t → ∃ why,
        readInside knows d position (Literal.encode t ++ rest) =
          .error (.badText (Literal.encode t) position why)) := by
  have inner : Draft.inner (Literal.encode t) = Literal.encodeBody t := by
    simp [Draft.inner, Literal.encode_eq]
  have source : Literal.encode t ++ rest = .char '"' :: (Literal.encodeBody t ++ .char '"' :: rest) := by
    simp [Literal.encode_eq]
  rw [source, readInside_of_inside (Lexeme.inside_literal t rest) (by simp)]
  simp only [Draft.add, inner]
  constructor
  · intro writable
    rw [Literal.decode_encodeBody writable]
    rfl
  · intro broken
    obtain ⟨why, failed⟩ := Literal.exists_decode_eq_error broken
    exact ⟨why, by rw [failed]; rfl⟩

theorem readInside_number (d : Draft) (position : Nat) {n : Nat} (short : Numeral.isLong n = false) (rest : Text) :
    readInside knows d position (Text.ofNat n ++ .char '\x7d' :: rest) =
      readInside knows (d.addArg (.number n)) (position + (Text.ofNat n).length) (.char '\x7d' :: rest) := by
  have digits : ∀ c ∈ Text.ofNat n, isBasicDigit c = true := fun _ => Text.isBasicDigit_of_mem_ofNat
  have readable := Numeral.readNat_of_not_unreadable (Numeral.not_unreadable_ofNat short) (Text.ofNat_ne_nil n)
  rw [Numeral.value_ofNat] at readable
  cases written : Text.ofNat n with
  | nil => exact absurd written (Text.ofNat_ne_nil n)
  | cons c more =>
      rw [written] at digits readable
      have number : Numeral.readInt (c :: more) = .ok (n : Int) := by
        rw [Numeral.readInt, readable]
        · rfl
        · intro t minus
          have digit := digits c List.mem_cons_self
          rw [(List.cons.inj minus).1] at digit
          exact absurd digit (by decide)
      have ends : isDecimal '\x7d' = false := by decide
      rw [List.cons_append, readInside_of_inside (Lexeme.inside_digits digits ends rest) (by simp)]
      simp only [Draft.add, Draft.number, number]
      rfl

end

theorem first_close (rest : Text) : Token.first true '\x7d' rest = ⟨.brace, [.char '\x7d'], rest⟩ := by
  have other : isBlank '\x7d' = false ∧ isDecimal '\x7d' = false ∧ isNameStart '\x7d' = false := by decide
  simp [Token.first, Lexeme.inside, other]

section

variable [CharNames]

theorem readInside_close {d : Draft} {name : Text} (named : d.name = some name) (known : knows name = true)
    (position : Nat) (rest : Text) :
    readInside knows d position (.char '\x7d' :: rest) =
      (readAt knows (position + 1) rest).map (.call name d.args d.position :: ·) := by
  have closing := first_close rest
  unfold readInside readAt
  rw [Token.scanFrom_of_first closing, readFrom, if_pos rfl, Draft.close]
  simp only [named, known, if_true, Token.opens, Bool.not_true, List.length_singleton, bind, Except.bind, pure,
    Except.pure]
  cases readFrom knows none _ <;> rfl

theorem readAt_empty (position : Nat) (rest : Text) :
    readAt knows position (.char '\x7b' :: .char '\x7d' :: rest) = .error (.emptyDirective position) := by
  have opening : Token.first false '\x7b' (.char '\x7d' :: rest) = ⟨.brace, [.char '\x7b'], .char '\x7d' :: rest⟩ := rfl
  have closing : Token.first true '\x7d' rest = ⟨.brace, [.char '\x7d'], rest⟩ := first_close rest
  unfold readAt
  rw [Token.scanFrom_of_first opening, readFrom, if_pos rfl, Token.opens, if_pos rfl, Bool.not_false,
    Token.scanFrom_of_first closing, readFrom, if_pos rfl]
  rfl

theorem readAt_call {name : Text} (named : Lexeme.IsName name) (known : knows name = true) (position : Nat)
    (rest : Text) : readAt knows position (.char '\x7b' :: (name ++ .char '\x7d' :: rest)) =
      (readAt knows (position + 1 + name.length + 1) rest).map (.call name [] position :: ·) := by
  rw [readAt_open named (by decide), readInside_close rfl known]

theorem readAt_callWith {name : Text} (named : Lexeme.IsName name) (known : knows name = true) (position : Nat)
    (t rest : Text) :
    (Literal.Writable t → readAt knows position
        (.char '\x7b' :: (name ++ .char ' ' :: (Literal.encode t ++ .char '\x7d' :: rest))) =
      (readAt knows (position + 1 + name.length + 1 + (Literal.encode t).length + 1) rest).map
        (.call name [.text t] position :: ·)) ∧
    (¬ Literal.Writable t → ∃ why,
      readAt knows position (.char '\x7b' :: (name ++ .char ' ' :: (Literal.encode t ++ .char '\x7d' :: rest))) =
        .error (.badText (Literal.encode t) (position + 1 + name.length + 1) why)) := by
  have blank : isBlank '"' = false := by decide
  have source : Literal.encode t ++ .char '\x7d' :: rest = .char '"' :: (Literal.encodeBody t ++ .char '"' :: .char '\x7d' :: rest) := by
    simp [Literal.encode_eq]
  rw [readAt_open named (by decide), source, readInside_space blank, ← source]
  obtain ⟨reads, fails⟩ := @readInside_literal knows _ ⟨some name, [], position⟩ (position + 1 + name.length + 1) t
    (.char '\x7d' :: rest)
  exact ⟨fun writable => by rw [reads writable, readInside_close rfl known]; rfl, fails⟩

theorem readAt_callNumber {name : Text} (named : Lexeme.IsName name) (known : knows name = true) {n : Nat}
    (short : Numeral.isLong n = false) (position : Nat) (rest : Text) :
    readAt knows position (.char '\x7b' :: (name ++ .char ' ' :: (Text.ofNat n ++ .char '\x7d' :: rest))) =
      (readAt knows (position + 1 + name.length + 1 + (Text.ofNat n).length + 1) rest).map
        (.call name [.number n] position :: ·) := by
  have onward := @readInside_number knows _ ⟨some name, [], position⟩ (position + 1 + name.length + 1) n short rest
  rw [readInside_close rfl known] at onward
  refine (readAt_open named (by decide) _ _).trans (Eq.trans ?_ onward)
  cases written : Text.ofNat n with
  | nil => exact absurd written (Text.ofNat_ne_nil n)
  | cons c more =>
      have member : c ∈ Text.ofNat n := written ▸ List.mem_cons_self
      have digit := Text.isBasicDigit_of_mem_ofNat member
      exact readInside_space (Lexeme.only_digit_of_isBasicDigit digit).1 _ _ _

theorem exists_arg_of_readInside {d : Draft} {name : Text} (named : d.name = some name) {c : CodePoint}
    (word : isBlank c = false) (inner : c ≠ '\x7d') {position : Nat} {rest : Text} {nodes : List Node}
    (read : readInside knows d position (c :: rest) = .ok nodes) :
    ∃ arg args more, nodes = .call name (d.args ++ arg :: args) d.position :: more := by
  have kind : (Lexeme.inside c rest).kind ≠ .brace := fun brace => inner (Token.inside_brace brace).1
  have class_ : (Lexeme.inside c rest).kind ∈ [.quoted, .raw, .integer, .name, .stray] := by
    unfold Lexeme.inside
    simp only [word, inner, Bool.false_eq_true, if_false]
    repeat' split
    all_goals simp [Lexeme.run]
  have lexeme : Lexeme.inside c rest = ⟨(Lexeme.inside c rest).kind, _, _⟩ := rfl
  rw [readInside_of_inside lexeme kind] at read
  obtain ⟨longer, added, later⟩ := Outcome.bind_eq_ok.1 read
  obtain ⟨grown, args, position', kept⟩ := Draft.grows_of_add added
  obtain ⟨name', args', more, rfl, same⟩ := exists_call_of_readFrom later
  obtain ⟨named', grows⟩ := kept name named
  obtain rfl := same name named'
  have some : grown ≠ [] := by
    refine grows ?_
    simp only [List.mem_cons, List.not_mem_nil, or_false] at class_ ⊢
    rcases class_ with quoted | raw | integer | name | stray
    · exact .inl quoted
    · exact .inr (.inl raw)
    · exact .inr (.inr (.inl integer))
    · exact .inr (.inr (.inr name))
    · simp [Draft.add, stray, named] at added
  obtain ⟨arg, grown, rfl⟩ := List.exists_cons_of_ne_nil some
  exact ⟨arg, grown ++ args', more, by rw [args, position', List.append_assoc, List.cons_append]⟩

end

end

end Node

namespace Program

variable {σ : Type} (p : Program σ)

/-- A source that starts at a position can be read and run, and writes a text. -/
def Writes [CharNames] (position : Nat) (source : Text) (at_ : Reached σ) (t : Text) (reached : Reached σ) : Prop :=
  ∃ nodes, Node.readAt p.registry.knows position source = .ok nodes ∧ p.runNodes nodes at_ = (.ok t, reached)

variable {position : Nat} {rest : Text} {at_ reached : Reached σ} {t : Text}

theorem writes_nil [CharNames] : p.Writes position [] at_ t reached ↔ t = [] ∧ reached = at_ := by
  simp [Writes, runNodes, eq_comm]

theorem runNodes_consChar (c : CodePoint) (nodes : List Node) :
    p.runNodes (Node.consChar c nodes) at_ = Sequel.andThen (.ok [c], at_) (p.runNodes nodes) := by
  unfold Node.consChar
  split
  · next u nodes =>
      rw [runNodes_cons, runNode, Sequel.andThen_ok, Sequel.andThen_ok, runNodes_cons, runNode, Sequel.andThen_ok]
      cases (p.runNodes nodes at_).1 <;> rfl
  · rw [runNodes_cons, runNode]

theorem writes_char [CharNames] {c : CodePoint} (plain : c ≠ '\x7b') :
    p.Writes position (c :: rest) at_ t reached ↔
      ∃ u, p.Writes (position + 1) rest at_ u reached ∧ t = c :: u := by
  constructor
  · rintro ⟨nodes, read, ran⟩
    rw [Node.readAt_char plain] at read
    obtain ⟨later, found, rfl⟩ := Outcome.map_eq_ok.1 read
    rw [runNodes_consChar] at ran
    obtain ⟨front, u, between, here, runs, rfl⟩ := Sequel.andThen_eq_ok.1 ran
    cases here
    exact ⟨u, ⟨later, found, runs⟩, rfl⟩
  · rintro ⟨u, ⟨nodes, read, ran⟩, rfl⟩
    refine ⟨Node.consChar c nodes, ?_, ?_⟩
    · rw [Node.readAt_char plain, read]
      rfl
    · rw [runNodes_consChar, Sequel.andThen_ok, ran]
      rfl

theorem writes_text [CharNames] {front : Text} (plain : .char '\x7b' ∉ front) :
    p.Writes position (front ++ rest) at_ t reached ↔
      ∃ u, p.Writes (position + front.length) rest at_ u reached ∧ t = front ++ u := by
  induction front generalizing position t with
  | nil => simp
  | cons c front ih =>
      simp only [List.mem_cons, not_or] at plain
      have places : position + 1 + front.length = position + (c :: front).length := by
        rw [List.length_cons]
        omega
      rw [List.cons_append, writes_char p (Ne.symm plain.1)]
      simp only [ih plain.2, places]
      constructor
      · rintro ⟨-, ⟨u, writes, rfl⟩, rfl⟩
        exact ⟨u, writes, rfl⟩
      · rintro ⟨u, writes, rfl⟩
        exact ⟨front ++ u, ⟨u, writes, rfl⟩, rfl⟩

theorem writes_node [CharNames] {source : Text} {position' : Nat} {node : Node}
    (read : Node.readAt p.registry.knows position source =
      (Node.readAt p.registry.knows position' rest).map (node :: ·)) :
    p.Writes position source at_ t reached ↔
      ∃ u between v, p.runNode node at_ = (.ok u, between) ∧ p.Writes position' rest between v reached ∧
        t = u ++ v := by
  constructor
  · rintro ⟨nodes, whole, ran⟩
    rw [read] at whole
    obtain ⟨later, found, rfl⟩ := Outcome.map_eq_ok.1 whole
    rw [runNodes_cons] at ran
    obtain ⟨u, v, between, here, runs, rfl⟩ := Sequel.andThen_eq_ok.1 ran
    exact ⟨u, between, v, here, ⟨later, found, runs⟩, rfl⟩
  · rintro ⟨u, between, v, here, ⟨nodes, found, ran⟩, rfl⟩
    refine ⟨node :: nodes, ?_, ?_⟩
    · rw [read, found]
      rfl
    · rw [runNodes_cons, here, Sequel.andThen_ok, ran]
      rfl

section
variable {name : Text} (named : Lexeme.IsName name) (known : p.registry.knows name = true)
include named known

theorem writes_call [CharNames] :
    p.Writes position (.char '\x7b' :: (name ++ .char '\x7d' :: rest)) at_ t reached ↔
      ∃ u between v, p.runCall name [] position at_ = (.ok u, between) ∧
        p.Writes (position + 1 + name.length + 1) rest between v reached ∧ t = u ++ v :=
  writes_node p (Node.readAt_call named known position rest)

theorem writes_callWith [CharNames] (arg : Text) :
    p.Writes position (.char '\x7b' :: (name ++ .char ' ' :: (Literal.encode arg ++ .char '\x7d' :: rest))) at_ t reached ↔
      Literal.Writable arg ∧ ∃ u between v, p.runCall name [.text arg] position at_ = (.ok u, between) ∧
        p.Writes (position + 1 + name.length + 1 + (Literal.encode arg).length + 1) rest between v reached ∧
        t = u ++ v := by
  obtain ⟨reads, fails⟩ := Node.readAt_callWith named known position arg rest
  by_cases writable : Literal.Writable arg
  · exact (writes_node p (reads writable)).trans (by simp [writable, runNode])
  · obtain ⟨why, failed⟩ := fails writable
    simp [Writes, failed, writable]

theorem writes_callNumber [CharNames] {n : Nat} (short : Numeral.isLong n = false) :
    p.Writes position (.char '\x7b' :: (name ++ .char ' ' :: (Text.ofNat n ++ .char '\x7d' :: rest))) at_ t reached ↔
      ∃ u between v, p.runCall name [.number n] position at_ = (.ok u, between) ∧
        p.Writes (position + 1 + name.length + 1 + (Text.ofNat n).length + 1) rest between v reached ∧
        t = u ++ v :=
  writes_node p (Node.readAt_callNumber named known short position rest)

end

end Program

end LogStyle
