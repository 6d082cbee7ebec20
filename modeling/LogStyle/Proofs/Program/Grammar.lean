import LogStyle.Proofs.Program.Call
import LogStyle.Proofs.Program.Failure
import LogStyle.Proofs.Text.Neighbours

/-! # The language of directives

Which sources can be read, told without tokens: a source is a row of texts and directives, a directive a row of
pieces with blanks between them, and a piece is as long as can be. The first bare word between the braces is the
name of the call, wherever it stands; all other pieces are its arguments, those in front of the name as well.
-/

namespace LogStyle

namespace Numeral

/-- A number as it is written: decimal digits, and no more of them than are read, with or without a minus sign. -/
inductive Spells : Text → Int → Prop
  | plain {digits : Text} : digits ≠ [] → ¬ Unreadable digits → Spells digits (value digits)
  | minus {digits : Text} : digits ≠ [] → ¬ Unreadable digits → Spells (.char '-' :: digits) (-(value digits : Int))

theorem isDecimal_of_not_unreadable {digits : Text} (readable : ¬ Unreadable digits) :
    ∀ d ∈ digits, isDecimal d = true := by
  intro d member
  by_contra other
  exact readable (.inl ⟨d, member, Bool.not_eq_true _ ▸ other⟩)

theorem isDecimal_minus : isDecimal '-' = false := by decide

theorem readInt_of_spells {t : Text} {n : Int} (spelled : Spells t n) : readInt t = .ok n := by
  cases spelled with
  | @plain digits nonempty readable =>
      have unsigned : readInt t = (readNat t).map Int.ofNat := by
        unfold readInt
        split
        · have decimal := isDecimal_of_not_unreadable readable '-' List.mem_cons_self
          rw [isDecimal_minus] at decimal
          cases decimal
        · rfl
      rw [unsigned, readNat_of_not_unreadable readable nonempty]
      rfl
  | @minus digits nonempty readable =>
      rw [readInt, readNat_of_not_unreadable readable nonempty]
      · rfl

end Numeral

namespace Lexeme

/-- What may stand between double quotes: a backslash takes the next character with it, which is no line feed, and
    there are no other quotes. -/
inductive Quotable : Text → Prop
  | nil : Quotable []
  | plain {c : CodePoint} {t : Text} : c ≠ '"' → c ≠ '\\' → Quotable t → Quotable (c :: t)
  | escape {c : CodePoint} {t : Text} : c ≠ '\n' → Quotable t → Quotable (.char '\\' :: c :: t)

theorem quotedBody?_of_quotable {body : Text} (quotable : Quotable body) (after : Text) :
    quotedBody? (body ++ .char '"' :: after) = some (body ++ [.char '"'], after) := by
  induction quotable with
  | nil => simp [quotedBody?]
  | plain notQuote notEscape _ ih => rw [List.cons_append, quotedBody?_cons notQuote notEscape, ih]; rfl
  | escape notFeed _ ih => simp [quotedBody?, notFeed, ih]

theorem quotable_of_quotedBody? {t body after : Text} (found : quotedBody? t = some (body, after)) :
    ∃ inner, Quotable inner ∧ body = inner ++ [.char '"'] := by
  induction t using quotedBody?.induct generalizing body after with
  | case1 => simp [quotedBody?] at found
  | case2 rest =>
      simp only [quotedBody?, Option.some.injEq, Prod.mk.injEq] at found
      exact ⟨[], .nil, found.1.symm⟩
  | case3 => simp [quotedBody?] at found
  | case4 rest => simp [quotedBody?] at found
  | case5 c rest other ih =>
      simp only [quotedBody?, if_neg other] at found
      obtain ⟨⟨b, a⟩, inside, parts⟩ := Option.map_eq_some_iff.1 found
      simp only [Prod.mk.injEq] at parts
      obtain ⟨inner, quotable, rfl⟩ := ih inside
      exact ⟨.char '\\' :: c :: inner, .escape other quotable, parts.1.symm⟩
  | case6 c rest notQuote notLast notEscape ih =>
      have plain : c ≠ '\\' := by
        rintro rfl
        cases rest with
        | nil => exact notLast rfl rfl
        | cons d rest => exact notEscape d rest rfl rfl
      rw [quotedBody?_cons notQuote plain] at found
      obtain ⟨⟨b, a⟩, inside, parts⟩ := Option.map_eq_some_iff.1 found
      simp only [Prod.mk.injEq] at parts
      obtain ⟨inner, quotable, rfl⟩ := ih inside
      exact ⟨c :: inner, .plain notQuote plain quotable, parts.1.symm⟩

end Lexeme

theorem Lexeme.run_of_stops (kind : TokenClass) {keeps : CodePoint → Bool} (c : CodePoint) {t rest : Text}
    (kept : ∀ d ∈ t, keeps d = true) (stops : Text.Stops keeps rest) :
    run kind keeps c (t ++ rest) = ⟨kind, c :: t, rest⟩ := by
  cases rest with
  | nil => simp only [List.append_nil, run, List.takeWhile_eq_self_iff.2 kept, List.dropWhile_eq_nil_iff.2 kept]
  | cons d rest => exact run_of_ends kind c kept (stops d rfl) rest

namespace Grammar

/-- A piece of a directive: a bare word, or an argument of another kind. -/
inductive Piece where
  | word (t : Text)
  | value (arg : Arg)
  deriving Repr, DecidableEq

namespace Piece

/-- A piece as an argument; a bare word stands for itself. -/
def arg : Piece → Arg
  | word t => .text t
  | value a => a

/-- How a piece is written. -/
inductive Spells [CharNames] : Text → Piece → Prop
  | word {t : Text} : Lexeme.IsName t → Spells t (word t)
  | quoted {body t : Text} : Lexeme.Quotable body → Literal.decode body = .ok t →
      Spells (.char '"' :: (body ++ [.char '"'])) (value (.text t))
  | raw {t : Text} : .char '\x60' ∉ t → Spells (.char '\x60' :: (t ++ [.char '\x60'])) (value (.text t))
  | number {t : Text} {n : Int} : Numeral.Spells t n → Spells t (value (.number n))

/-- No longer piece of its kind is written when a text stands behind a piece. -/
def Ends : Piece → Text → Prop
  | word _, rest => rest.Stops isWord
  | value (.number _), rest => rest.Stops isDecimal
  | value (.text _), _ => True

end Piece

/-- What is written between the braces of a directive: pieces, and blanks around them. -/
inductive Row [CharNames] : Text → List Piece → Prop
  | nil : Row [] []
  | blank {c : CodePoint} {t : Text} {pieces : List Piece} : isBlank c = true → Row t pieces → Row (c :: t) pieces
  | piece {source t : Text} {piece : Piece} {pieces : List Piece} :
      piece.Spells source → piece.Ends t → Row t pieces → Row (source ++ t) (piece :: pieces)

/-- Pieces without a bare word. -/
def Wordless (pieces : List Piece) : Prop :=
  ∀ t, Piece.word t ∉ pieces

/-- A directive as it is written, with its name and arguments. What may stand in front of the name is left open. -/
def Directive [CharNames] (may : List Piece → Prop) (source name : Text) (args : List Arg) : Prop :=
  ∃ inner front back, source = .char '\x7b' :: (inner ++ [.char '\x7d']) ∧ Row inner (front ++ .word name :: back) ∧
    may front ∧ args = (front ++ back).map Piece.arg

/-- A source from a position on, and its nodes: texts without opening braces, none next to another, and directives
    with names that are known. -/
inductive Source [CharNames] (may : List Piece → Prop) (knows : Text → Bool) : Nat → Text → List Node → Prop
  | nil {position : Nat} : Source may knows position [] []
  | text {position : Nat} {t rest : Text} {nodes : List Node} :
      t ≠ [] → .char '\x7b' ∉ t → rest.Stops (· ≠ .char '\x7b') → Source may knows (position + t.length) rest nodes →
      Source may knows position (t ++ rest) (.text t :: nodes)
  | call {position : Nat} {source name rest : Text} {args : List Arg} {nodes : List Node} :
      Directive may source name args → knows name = true →
      Source may knows (position + source.length) rest nodes →
      Source may knows position (source ++ rest) (.call name args position :: nodes)

/-! ## What is read from a piece -/

section
variable {piece : Piece} {source rest : Text}

theorem only_decimal_of_isDecimal {c : CodePoint} (decimal : isDecimal c = true) :
    isBlank c = false ∧ c ≠ '"' ∧ c ≠ '\x60' := by
  have all : ∀ first ∈ zeroCodes, ∀ k < 10,
      blankRanges.has (first + k) = false ∧ first + k ≠ '"'.toNat ∧ first + k ≠ '\x60'.toNat := by decide
  obtain ⟨n, value⟩ := Option.isSome_iff_exists.1 decimal
  obtain ⟨first, found, -⟩ := Option.map_eq_some_iff.1 value
  have member := List.mem_of_find?_eq_some found
  have bounds := List.find?_some found
  simp only [Bool.and_eq_true, decide_eq_true_eq] at bounds
  obtain ⟨blank, quote, tick⟩ := all first member (c.toNat - first) (by omega)
  rw [Nat.add_sub_cancel' bounds.1] at blank quote tick
  exact ⟨blank, fun same => quote (same ▸ rfl), fun same => tick (same ▸ rfl)⟩

theorem inside_digits {c : CodePoint} {more : Text} (decimal : ∀ d ∈ c :: more, isDecimal d = true)
    (stops : rest.Stops isDecimal) : Lexeme.inside c (more ++ rest) = ⟨.integer, c :: more, rest⟩ := by
  have here := decimal c List.mem_cons_self
  obtain ⟨blank, quote, tick⟩ := only_decimal_of_isDecimal here
  simp only [Lexeme.inside, blank, quote, tick, here, Bool.false_eq_true, if_false, Bool.true_or, if_true]
  exact Lexeme.run_of_stops .integer c (fun d member => decimal d (List.mem_cons_of_mem _ member)) stops

theorem inside_minus {c : CodePoint} {more : Text} (decimal : ∀ d ∈ c :: more, isDecimal d = true)
    (stops : rest.Stops isDecimal) :
    Lexeme.inside '-' (c :: more ++ rest) = ⟨.integer, .char '-' :: c :: more, rest⟩ := by
  have blank : isBlank '-' = false := by decide
  have starts : Lexeme.startsDecimal (c :: more ++ rest) = true := decimal c List.mem_cons_self
  simp only [Lexeme.inside, blank, starts, Bool.false_eq_true, if_false, decide_true, Bool.and_self, Bool.or_true,
    if_true]
  exact Lexeme.run_of_stops .integer '-' decimal stops

/-- An open call with one more piece. -/
def Piece.addTo (d : Node.Draft) : Piece → Node.Draft
  | word t => d.addWord t
  | value a => d.addArg a

theorem Piece.inside_of_spells [CharNames] (spelled : piece.Spells source) (ends : piece.Ends rest) :
    ∃ c more kind, source = c :: more ∧ Lexeme.inside c (more ++ rest) = ⟨kind, source, rest⟩ ∧ kind ≠ .brace ∧
      ∀ (d : Node.Draft) position, d.add ⟨position, kind, source⟩ = .ok (piece.addTo d) := by
  cases spelled with
  | word named =>
      cases source with
      | nil => exact named.elim
      | cons c more =>
          obtain ⟨start, words⟩ := named
          obtain ⟨blank, quote, tick, decimal, minus⟩ := Lexeme.only_name_of_isNameStart start
          refine ⟨c, more, .name, rfl, ?_, by simp, fun d position => rfl⟩
          simp only [Lexeme.inside, blank, quote, tick, decimal, minus, start, Bool.false_eq_true, if_false,
            decide_false, Bool.false_and, Bool.or_self, if_true]
          exact Lexeme.run_of_stops .name c words ends
  | @quoted body t quotable decoded =>
      have blank : isBlank '"' = false := by decide
      have inner : Node.Draft.inner (.char '"' :: (body ++ [.char '"'])) = body := by simp [Node.Draft.inner]
      refine ⟨'"', body ++ [.char '"'], .quoted, rfl, ?_, by simp, fun d position => ?_⟩
      · simp only [Lexeme.inside, blank, Bool.false_eq_true, if_false, if_true, List.append_assoc,
          List.singleton_append, Lexeme.quotedBody?_of_quotable quotable]
      · simp only [Node.Draft.add, inner, decoded]
        rfl
  | @raw t absent =>
      have other : isBlank '\x60' = false := by decide
      have inner : Node.Draft.inner (.char '\x60' :: (t ++ [.char '\x60'])) = t := by simp [Node.Draft.inner]
      refine ⟨'\x60', t ++ [.char '\x60'], .raw, rfl, ?_, by simp, fun d position => ?_⟩
      · simp only [Lexeme.inside, other, Bool.false_eq_true, if_false, if_true, List.append_assoc,
          CodePoint.char.injEq, Char.reduceEq,
          Text.cut?_of_not_mem absent, List.cons_append, List.nil_append]
      · simp only [Node.Draft.add, inner]
        rfl
  | @number _ n written =>
      have read := Numeral.readInt_of_spells written
      have added (d : Node.Draft) (position : Nat) :
          d.add ⟨position, .integer, source⟩ = .ok ((value (.number n)).addTo d) := by
        simp only [Node.Draft.add, Node.Draft.number, read]
        rfl
      cases written with
      | plain nonempty readable =>
          obtain ⟨c, more, rfl⟩ := List.exists_cons_of_ne_nil nonempty
          have decimal := Numeral.isDecimal_of_not_unreadable readable
          exact ⟨c, more, .integer, rfl, inside_digits decimal ends, by simp, added⟩
      | minus nonempty readable =>
          obtain ⟨c, more, rfl⟩ := List.exists_cons_of_ne_nil nonempty
          have decimal := Numeral.isDecimal_of_not_unreadable readable
          exact ⟨'-', c :: more, .integer, rfl, inside_minus decimal ends, by simp, added⟩

end

/-! ## Sources that can be read -/

theorem Piece.Ends.imp {piece : Piece} {t u : Text} (ends : piece.Ends t)
    (still : ∀ keeps : CodePoint → Bool, keeps '\x7d' = false → t.Stops keeps → u.Stops keeps) : piece.Ends u := by
  cases piece with
  | word _ => exact still isWord (by decide) ends
  | value a =>
      cases a with
      | text _ => trivial
      | number _ => exact still isDecimal (by decide) ends

theorem Piece.Ends.close {piece : Piece} {t : Text} (ends : piece.Ends t) (rest : Text) :
    piece.Ends (t ++ .char '\x7d' :: rest) := by
  apply ends.imp
  intro keeps brace stops
  cases t with
  | nil =>
      rintro d ⟨⟩
      exact brace
  | cons c t => exact stops

theorem Piece.Ends.of_append {piece : Piece} {t u : Text} (ends : piece.Ends (t ++ u)) : piece.Ends t := by
  apply ends.imp
  intro keeps _ stops
  cases t with
  | nil =>
      intro d first
      cases first
  | cons c t => exact stops

section
variable {may : List Piece → Prop} {knows : Text → Bool}

theorem readInside_row [CharNames] {inner : Text} {pieces : List Piece} (row : Row inner pieces) (d : Node.Draft)
    (position : Nat) (rest : Text) :
    Node.readInside knows d position (inner ++ .char '\x7d' :: rest) =
      Node.readInside knows (pieces.foldl Piece.addTo d) (position + inner.length) (.char '\x7d' :: rest) := by
  induction row generalizing d position with
  | nil => rfl
  | @blank c t pieces blank row ih =>
      have skipped : Node.readInside knows d position (c :: (t ++ .char '\x7d' :: rest)) =
          Node.readInside knows d (position + 1) (t ++ .char '\x7d' :: rest) := by
        rw [Node.readInside_blanks, Node.readInside_blanks d (position + 1), List.takeWhile_cons_of_pos blank,
          List.dropWhile_cons_of_pos blank, List.length_cons]
        congr 1
        omega
      rw [List.cons_append, skipped, ih, List.length_cons]
      congr 1
      omega
  | @piece source t piece pieces spelled ends row ih =>
      obtain ⟨c, more, kind, rfl, token, inner, added⟩ := piece.inside_of_spells spelled (ends.close rest)
      rw [List.append_assoc, List.cons_append, Node.readInside_of_inside token inner, added]
      simp only [bind, Except.bind]
      rw [ih, List.foldl_cons, List.length_append]
      congr 1
      omega

theorem foldl_addTo_of_wordless {pieces : List Piece} (wordless : Wordless pieces) (d : Node.Draft) :
    pieces.foldl Piece.addTo d = { d with args := d.args ++ pieces.map Piece.arg } := by
  induction pieces generalizing d with
  | nil => simp
  | cons piece pieces ih =>
      cases piece with
      | word t => exact absurd List.mem_cons_self (wordless t)
      | value a =>
          rw [List.foldl_cons, ih fun t member => wordless t (List.mem_cons_of_mem _ member)]
          simp [Piece.addTo, Node.Draft.addArg, Piece.arg]

theorem foldl_addTo_of_named {d : Node.Draft} {name : Text} (named : d.name = some name) (pieces : List Piece) :
    pieces.foldl Piece.addTo d = { d with args := d.args ++ pieces.map Piece.arg } := by
  induction pieces generalizing d with
  | nil => simp
  | cons piece pieces ih =>
      have one : piece.addTo d = d.addArg piece.arg := by
        cases piece with
        | word t => simp [Piece.addTo, Node.Draft.addWord, named, Piece.arg]
        | value a => rfl
      rw [List.foldl_cons, one, ih (d := d.addArg piece.arg) named]
      simp [Node.Draft.addArg]

theorem foldl_addTo {front : List Piece} (wordless : Wordless front) (name : Text) (back : List Piece)
    (position : Nat) :
    (front ++ .word name :: back).foldl Piece.addTo { position } =
      ⟨some name, (front ++ back).map Piece.arg, position⟩ := by
  rw [List.foldl_append, foldl_addTo_of_wordless wordless, List.foldl_cons, Piece.addTo, Node.Draft.addWord]
  simp only
  rw [foldl_addTo_of_named rfl]
  simp

section

variable [CharNames]

theorem readAt_brace (position : Nat) (rest : Text) :
    Node.readAt knows position (.char '\x7b' :: rest) = Node.readInside knows { position } (position + 1) rest := by
  have opening : Token.first false '\x7b' rest = ⟨.brace, [.char '\x7b'], rest⟩ := rfl
  unfold Node.readAt
  rw [Token.scanFrom_of_first opening, Node.readFrom, if_pos rfl]
  rfl

theorem readAt_directive {source name : Text} {args : List Arg} (directive : Directive Wordless source name args)
    (known : knows name = true) (position : Nat) (rest : Text) :
    Node.readAt knows position (source ++ rest) =
      (Node.readAt knows (position + source.length) rest).map (.call name args position :: ·) := by
  obtain ⟨inner, front, back, rfl, row, wordless, rfl⟩ := directive
  have whole : .char '\x7b' :: (inner ++ [.char '\x7d']) ++ rest = .char '\x7b' :: (inner ++ .char '\x7d' :: rest) :=
    by simp
  rw [whole, readAt_brace, readInside_row row, foldl_addTo wordless, Node.readInside_close rfl known]
  simp only [List.length_cons, List.length_append, List.length_nil]
  congr 2
  omega

theorem readAt_chunk {t rest : Text} (nonempty : t ≠ []) (plain : .char '\x7b' ∉ t)
    (stops : rest.Stops (· ≠ .char '\x7b'))
    (position : Nat) :
    Node.readAt knows position (t ++ rest) =
      (Node.readAt knows (position + t.length) rest).map (.text t :: ·) := by
  obtain ⟨c, more, rfl⟩ := List.exists_cons_of_ne_nil nonempty
  simp only [List.mem_cons, not_or] at plain
  have kept : ∀ d ∈ more, decide (d ≠ '\x7b') = true := by
    intro d member
    simp only [ne_eq, decide_not, Bool.not_eq_true', decide_eq_false_iff_not]
    rintro rfl
    exact plain.2 member
  have token : Token.first false c (more ++ rest) = ⟨.text, c :: more, rest⟩ := by
    rw [Token.first, if_neg (by simp), Lexeme.outside, if_neg (Ne.symm plain.1)]
    exact Lexeme.run_of_stops .text c kept stops
  unfold Node.readAt
  rw [List.cons_append, Token.scanFrom_of_first token, Node.readFrom, if_neg (by simp)]
  rfl

theorem readAt_of_source {position : Nat} {source : Text} {nodes : List Node}
    (written : Source Wordless knows position source nodes) : Node.readAt knows position source = .ok nodes := by
  induction written with
  | nil => exact Node.readAt_nil knows _
  | text nonempty plain stops _ ih => rw [readAt_chunk nonempty plain stops, ih]; rfl
  | call directive known _ ih => rw [readAt_directive directive known, ih]; rfl

end

/-! ## What has been read -/

theorem spells_of_number {digits t : Text} (nonempty : digits ≠ []) (decimal : ∀ d ∈ digits, isDecimal d = true)
    (written : t = digits ∨ t = .char '-' :: digits) {n : Int} (read : Node.Draft.number t = .ok n) :
    Numeral.Spells t n := by
  by_cases long : Numeral.digitLimit < digits.length
  · have many : Numeral.digitLimit < t.countP isDecimal := by
      have all : digits.countP isDecimal = digits.length := List.countP_eq_length.2 decimal
      rcases written with rfl | rfl
      · rwa [all]
      · rwa [List.countP_cons_of_neg (by simp [Numeral.isDecimal_minus]), all]
    obtain ⟨m, tooLong⟩ := (Numeral.exists_readInt_eq_tooLong decimal written).2 many
    simp [Node.Draft.number, tooLong] at read
  · have readable : ¬ Numeral.Unreadable digits := by
      rintro (⟨d, member, other⟩ | tooLong)
      · rw [decimal d member] at other
        cases other
      · exact long tooLong
    have spelled : ∃ m, Numeral.Spells t m := by
      rcases written with rfl | rfl
      · exact ⟨_, .plain nonempty readable⟩
      · exact ⟨_, .minus nonempty readable⟩
    obtain ⟨m, spelled⟩ := spelled
    simp only [Node.Draft.number, Numeral.readInt_of_spells spelled, Except.ok.injEq] at read
    exact read ▸ spelled

theorem piece_of_add [CharNames] {c : CodePoint} {rest text after : Text} {kind : TokenClass} {d longer : Node.Draft}
    {position : Nat} (token : Lexeme.inside c rest = ⟨kind, text, after⟩) (inner : kind ≠ .brace)
    (added : d.add ⟨position, kind, text⟩ = .ok longer) :
    (∀ e ∈ text, isBlank e = true) ∧ longer = d ∨
      ∃ piece : Piece, piece.Spells text ∧ piece.Ends after ∧ longer = piece.addTo d := by
  have kept {keeps : CodePoint → Bool} {e : CodePoint} (first : keeps c = true) (member : e ∈ c :: rest.takeWhile keeps) :
      keeps e = true := by
    rcases List.mem_cons.1 member with rfl | later
    · exact first
    · exact List.mem_takeWhile_imp later
  have shape := Lexeme.inner_inside c rest
  rw [token] at shape
  cases shape with
  | blank blank => exact .inl ⟨fun e => kept blank, (Except.ok.inj added).symm⟩
  | quoted quote found =>
      subst quote
      obtain ⟨t, quotable, rfl⟩ := Lexeme.quotable_of_quotedBody? found
      have between : Node.Draft.inner (.char '"' :: (t ++ [.char '"'])) = t := by simp [Node.Draft.inner]
      simp only [Node.Draft.add, between] at added
      cases decoded : Literal.decode t with
      | error why => simp [decoded] at added
      | ok value =>
          simp only [decoded, Except.ok.injEq] at added
          exact .inr ⟨.value (.text value), .quoted quotable decoded, trivial, added.symm⟩
  | @raw t _ tick found =>
      subst tick
      have between : Node.Draft.inner (.char '\x60' :: (t ++ [.char '\x60'])) = t := by simp [Node.Draft.inner]
      simp only [Node.Draft.add, List.cons_append, between, Except.ok.injEq] at added
      exact .inr ⟨.value (.text t), .raw (Text.not_mem_of_cut? found), trivial, added.symm⟩
  | integer starts =>
      obtain ⟨n, read, rfl⟩ := Outcome.map_eq_ok.1 added
      have written : ∃ digits, digits ≠ [] ∧ (∀ d ∈ digits, isDecimal d = true) ∧
          (c :: rest.takeWhile isDecimal = digits ∨ c :: rest.takeWhile isDecimal = .char '-' :: digits) := by
        rcases starts with decimal | ⟨rfl, starts⟩
        · exact ⟨_, List.cons_ne_nil _ _, fun d => kept decimal, .inl rfl⟩
        · refine ⟨rest.takeWhile isDecimal, ?_, fun d => List.mem_takeWhile_imp, .inr rfl⟩
          cases rest with
          | nil => cases starts
          | cons d rest =>
              have decimal : isDecimal d = true := starts
              rw [List.takeWhile_cons_of_pos decimal]
              exact List.cons_ne_nil _ _
      obtain ⟨digits, nonempty, decimal, same⟩ := written
      exact .inr ⟨.value (.number n), .number (spells_of_number nonempty decimal same read),
        Text.stops_dropWhile isDecimal rest, rfl⟩
  | name start =>
      exact .inr ⟨.word (c :: rest.takeWhile isWord), .word ⟨start, fun e => List.mem_takeWhile_imp⟩,
        Text.stops_dropWhile isWord rest, (Except.ok.inj added).symm⟩
  | close => exact absurd rfl inner
  | stray => exact absurd rfl (Node.Draft.not_stray_of_add added)

theorem Row.blanks [CharNames] {blanks t : Text} {pieces : List Piece} (all : ∀ e ∈ blanks, isBlank e = true)
    (row : Row t pieces) :
    Row (blanks ++ t) pieces := by
  induction blanks with
  | nil => exact row
  | cons e blanks ih =>
      exact .blank (all e List.mem_cons_self) (ih fun d member => all d (List.mem_cons_of_mem _ member))

theorem exists_row_of_readInside [CharNames] {d : Node.Draft} {position : Nat} {source : Text} {nodes : List Node}
    (read : Node.readInside knows d position source = .ok nodes) :
    ∃ inner pieces rest node more, source = inner ++ .char '\x7d' :: rest ∧ Row inner pieces ∧
      (pieces.foldl Piece.addTo d).close knows = .ok node ∧
      Node.readAt knows (position + inner.length + 1) rest = .ok more ∧ nodes = node :: more := by
  generalize size : source.length = bound
  induction bound using Nat.strong_induction_on generalizing d position source with
  | _ bound ih =>
  cases source with
  | nil => simp [Node.readInside, Node.readFrom] at read
  | cons c source =>
      have splits := Lexeme.inside_splits c source
      have shorter := Lexeme.rest_lt_of_splits splits
      rcases token : Lexeme.inside c source with ⟨kind, text, after⟩
      simp only [token] at splits shorter
      by_cases brace : kind = .brace
      · have closes : (Lexeme.inside c source).kind = .brace := token ▸ brace
        obtain ⟨rfl, -⟩ := Token.inside_brace closes
        have closing := Node.first_close source
        unfold Node.readInside at read
        rw [Token.scanFrom_of_first closing, Node.readFrom, if_pos rfl] at read
        obtain ⟨node, closed, behind⟩ := Outcome.bind_eq_ok.1 read
        obtain ⟨more, later, whole⟩ := Outcome.bind_eq_ok.1 behind
        exact ⟨[], [], source, node, more, rfl, .nil, closed, later, (Except.ok.inj whole).symm⟩
      · rw [Node.readInside_of_inside token brace] at read
        obtain ⟨longer, added, later⟩ := Outcome.bind_eq_ok.1 read
        obtain ⟨inner, pieces, rest, node, more, rfl, row, closed, behind, rfl⟩ := ih _ (size ▸ shorter) later rfl
        have whole : c :: source = text ++ inner ++ .char '\x7d' :: rest := by
          rw [List.append_assoc]
          exact splits.1.symm
        have places : position + text.length + inner.length + 1 = position + (text ++ inner).length + 1 := by
          rw [List.length_append]
          omega
        rw [places] at behind
        rcases piece_of_add token brace added with ⟨blanks, rfl⟩ | ⟨piece, spelled, ends, rfl⟩
        · exact ⟨_, pieces, rest, node, more, whole, row.blanks blanks, closed, behind, rfl⟩
        · exact ⟨_, piece :: pieces, rest, node, more, whole, .piece spelled ends.of_append row, closed, behind, rfl⟩

theorem exists_first_word (pieces : List Piece) :
    Wordless pieces ∨ ∃ front name back, pieces = front ++ .word name :: back ∧ Wordless front := by
  induction pieces with
  | nil => exact .inl fun t => List.not_mem_nil
  | cons piece pieces ih =>
      cases piece with
      | word name => exact .inr ⟨[], name, pieces, rfl, fun t => List.not_mem_nil⟩
      | value a =>
          have wordless {front : List Piece} (rest : Wordless front) : Wordless (.value a :: front) := by
            intro t member
            rcases List.mem_cons.1 member with same | later
            · cases same
            · exact rest t later
          rcases ih with none | ⟨front, name, back, rfl, first⟩
          · exact .inl (wordless none)
          · exact .inr ⟨.value a :: front, name, back, rfl, wordless first⟩

theorem exists_directive_of_readInside [CharNames] {position : Nat} {source : Text} {nodes : List Node}
    (read : Node.readInside knows { position } (position + 1) source = .ok nodes) :
    ∃ written name args rest more, .char '\x7b' :: source = written ++ rest ∧ written ≠ [] ∧
      Directive Wordless written name args ∧ knows name = true ∧
      Node.readAt knows (position + written.length) rest = .ok more ∧ nodes = .call name args position :: more := by
  obtain ⟨inner, pieces, rest, node, more, rfl, row, closed, behind, rfl⟩ := exists_row_of_readInside read
  rcases exists_first_word pieces with wordless | ⟨front, name, back, rfl, wordless⟩
  · rw [foldl_addTo_of_wordless wordless] at closed
    cases closed
  · rw [foldl_addTo wordless] at closed
    unfold Node.Draft.close at closed
    simp only at closed
    split at closed
    case isFalse => cases closed
    next known =>
    cases closed
    have places : position + 1 + inner.length + 1 = position + (.char '\x7b' :: (inner ++ [.char '\x7d'])).length := by
      simp only [List.length_cons, List.length_append, List.length_nil]
      omega
    rw [places] at behind
    exact ⟨_, name, _, rest, more, by simp, List.cons_ne_nil _ _, ⟨inner, front, back, rfl, row, wordless, rfl⟩, known,
      behind, rfl⟩

theorem exists_chunk {c : CodePoint} (plain : c ≠ '\x7b') (source : Text) :
    ∃ t rest : Text, c :: source = t ++ rest ∧ t ≠ [] ∧ .char '\x7b' ∉ t ∧ rest.Stops (· ≠ .char '\x7b') := by
  have parts : source.takeWhile (· ≠ .char '\x7b') ++ source.dropWhile (· ≠ .char '\x7b') = source :=
    List.takeWhile_append_dropWhile
  refine ⟨c :: source.takeWhile (· ≠ .char '\x7b'), source.dropWhile (· ≠ .char '\x7b'), ?_, List.cons_ne_nil _ _, ?_,
    Text.stops_dropWhile _ source⟩
  · rw [List.cons_append, parts]
  · intro member
    rcases List.mem_cons.1 member with here | kept
    · exact plain here.symm
    · simpa using List.mem_takeWhile_imp kept

section

variable [CharNames]

theorem source_of_readAt {position : Nat} {source : Text} {nodes : List Node}
    (read : Node.readAt knows position source = .ok nodes) : Source Wordless knows position source nodes := by
  generalize size : source.length = bound
  induction bound using Nat.strong_induction_on generalizing position source nodes with
  | _ bound ih =>
  have shorter {front rest : Text} (whole : source = front ++ rest) (nonempty : front ≠ []) : rest.length < bound := by
    have some_ := List.length_pos_iff.2 nonempty
    rw [← size, whole, List.length_append]
    omega
  cases source with
  | nil =>
      rw [Node.readAt_nil] at read
      cases read
      exact .nil
  | cons c source =>
      by_cases brace : c = '\x7b'
      · subst brace
        rw [readAt_brace] at read
        obtain ⟨written, name, args, rest, more, whole, nonempty, directive, known, behind, rfl⟩ :=
          exists_directive_of_readInside read
        rw [whole]
        exact .call directive known (ih _ (shorter whole nonempty) behind rfl)
      · obtain ⟨t, rest, whole, nonempty, plain, stops⟩ := exists_chunk brace source
        rw [whole, readAt_chunk nonempty plain stops] at read
        obtain ⟨more, later, rfl⟩ := Outcome.map_eq_ok.1 read
        rw [whole]
        exact .text nonempty plain stops (ih _ (shorter whole nonempty) later rfl)

theorem Source.texts_apart {may : List Piece → Prop} {position : Nat} {source : Text} {nodes : List Node}
    (written : Source may knows position source nodes) :
    .text [] ∉ nodes ∧ ∀ t u, ¬ [.text t, .text u] <:+: nodes := by
  induction written with
  | nil => simp
  | @text position t rest nodes nonempty plain stops behind ih =>
      refine ⟨by simp [nonempty, ih.1], fun t' u inside => ?_⟩
      rcases List.infix_cons_iff.1 inside with ⟨more, same⟩ | later
      · obtain ⟨-, rfl⟩ := List.cons.inj same
        -- The text behind would start with the brace that the first one stops at.
        cases behind with
        | @text _ _ after _ nonempty' plain' =>
            obtain ⟨c, u, rfl⟩ := List.exists_cons_of_ne_nil nonempty'
            obtain rfl : c = '\x7b' := by simpa using stops c rfl
            exact plain' List.mem_cons_self
      · exact ih.2 t' u later
  | call directive known behind ih =>
      refine ⟨by simp [ih.1], fun t u inside => ?_⟩
      rcases List.infix_cons_iff.1 inside with ⟨more, same⟩ | later
      · cases (List.cons.inj same).1
      · exact ih.2 t u later

/-- A source is read as its texts and directives, and no other source can be read. The first bare word of a
    directive is its name, and its arguments are all other pieces in their order, also those in front of the name. -/
theorem read_eq_ok_iff (knows : Text → Bool) (source : Text) (nodes : List Node) :
    Node.read knows source = .ok nodes ↔ Source Wordless knows 0 source nodes :=
  ⟨source_of_readAt, readAt_of_source⟩

theorem Row.exists_name {inner name : Text} {back : List Piece} (row : Row inner (.word name :: back)) :
    ∃ blanks c more, inner = blanks ++ c :: more ∧ (∀ e ∈ blanks, isBlank e = true) ∧ isNameStart c = true := by
  generalize shape : Piece.word name :: back = pieces at row
  induction row with
  | nil => cases shape
  | @blank e t pieces blank row ih =>
      obtain ⟨blanks, c, more, rfl, all, start⟩ := ih shape
      refine ⟨e :: blanks, c, more, rfl, fun d member => ?_, start⟩
      rcases List.mem_cons.1 member with rfl | later
      · exact blank
      · exact all d later
  | @piece source t piece pieces spelled ends row ih =>
      cases shape
      cases spelled with
      | word named =>
          cases name with
          | nil => exact named.elim
          | cons c more =>
              refine ⟨[], c, more ++ t, rfl, ?_, named.1⟩
              intro e member
              cases member

end

section

attribute [local instance] CharNames.none

/-- A directive with its argument in front of its name is read, though its name does not come first. -/
theorem read_argument_before_name :
    (∃ nodes, Node.read (Registry.builtins (σ := Unit)).knows "\x7b5 fg\x7d" = .ok nodes) ∧
      ∀ nodes, ¬ Source (· = []) (Registry.builtins (σ := Unit)).knows 0 "\x7b5 fg\x7d" nodes := by
  constructor
  · have number : Piece.Spells "5" (.value (.number 5)) := .number (.plain (by decide) (by decide))
    have name : Piece.Spells "fg" (.word "fg") := .word (by decide)
    have row : Row "5 fg" [.value (.number 5), .word "fg"] := by
      refine .piece number ?_ (.blank (by decide) (.piece name ?_ .nil))
      · rintro d ⟨⟩
        decide
      · rintro d ⟨⟩
    have directive : Directive Wordless "\x7b5 fg\x7d" "fg" [.number 5] :=
      ⟨"5 fg", [.value (.number 5)], [], rfl, row, by simp [Wordless], rfl⟩
    exact ⟨_, readAt_of_source (.call directive rfl .nil)⟩
  · intro nodes written
    have whole : ([.char '\x7b', .char '5', .char ' ', .char 'f', .char 'g', .char '\x7d'] : Text) = ("\x7b5 fg\x7d" : Text) := rfl
    rw [← whole] at written
    generalize whole : ([.char '\x7b', .char '5', .char ' ', .char 'f', .char 'g', .char '\x7d'] : Text) = source at written
    cases written with
    | nil => cases whole
    | @text _ t rest _ nonempty plain =>
        obtain ⟨c, more, rfl⟩ := List.exists_cons_of_ne_nil nonempty
        have brace : .char '\x7b' = c := (List.cons.inj whole).1
        rw [← brace] at plain
        exact plain List.mem_cons_self
    | call directive =>
        obtain ⟨inner, front, back, rfl, row, rfl, -⟩ := directive
        obtain ⟨blanks, c, more, rfl, all, start⟩ := row.exists_name
        have inside := (List.cons.inj whole).2
        cases blanks with
        | nil =>
            have digit : .char '5' = c := (List.cons.inj inside).1
            rw [← digit] at start
            exact absurd start (by decide)
        | cons e blanks =>
            have digit : .char '5' = e := (List.cons.inj inside).1
            exact absurd (all e List.mem_cons_self) (digit ▸ by decide)

end

end

end Grammar

end LogStyle
