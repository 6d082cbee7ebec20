import LogStyle.Program.Token
import LogStyle.Proofs.Template.Split
import Mathlib.Data.List.TakeWhile

/-! # Texts behind texts

Tokens are read with a look ahead, so what stands behind a text may change its last tokens. It does not where
the two meet at a character that belongs to no longer token and what stands behind brings no quotes that
could end a quoted argument. Then the tokens are those of the one text followed by those of the other.
-/

namespace LogStyle

namespace Lexeme

/-- A token with more text behind it. -/
def before (l : Lexeme) (u : Text) : Lexeme :=
  { l with rest := l.rest ++ u }

/-- A character that continues no token inside braces. -/
structure Seam (d : CodePoint) : Prop where
  blank : isBlank d = false
  decimal : isDecimal d = false
  word : isWord d = false

theorem seam_brace : Seam '\x7b' := ⟨by decide, by decide, by decide⟩

theorem seam_dollar : Seam '$' := ⟨by decide, by decide, by decide⟩

/-- A text that ends no quoted argument. -/
def Unquoted (u : Text) : Prop :=
  .char '"' ∉ u ∧ .char '\x60' ∉ u

theorem quotedBody?_cons {c : CodePoint} (notQuote : c ≠ '"') (notEscape : c ≠ '\\') (rest : Text) :
    quotedBody? (c :: rest) = (quotedBody? rest).map fun (body, after) => (c :: body, after) := by
  rw [quotedBody?]
  · intro quote
    exact notQuote quote
  · intro escape
    exact absurd escape notEscape
  · intro d after escape
    exact absurd escape notEscape

theorem quotedBody?_append {t body after : Text} (found : quotedBody? t = some (body, after)) (u : Text) :
    quotedBody? (t ++ u) = some (body, after ++ u) := by
  induction t using quotedBody?.induct generalizing body after with
  | case1 => simp [quotedBody?] at found
  | case2 rest =>
      simp only [quotedBody?, Option.some.injEq, Prod.mk.injEq] at found
      simp [quotedBody?, ← found.1, ← found.2]
  | case3 => simp [quotedBody?] at found
  | case4 rest => simp [quotedBody?] at found
  | case5 c rest other ih =>
      simp only [quotedBody?, if_neg other] at found
      obtain ⟨⟨b, a⟩, inner, parts⟩ := Option.map_eq_some_iff.1 found
      simp only [Prod.mk.injEq] at parts
      simp [quotedBody?, other, ih inner, ← parts.1, ← parts.2]
  | case6 c rest notQuote notLast notEscape ih =>
      have plain : c ≠ '\\' := by
        rintro rfl
        cases rest with
        | nil => exact notLast rfl rfl
        | cons d rest => exact notEscape d rest rfl rfl
      rw [quotedBody?_cons notQuote plain] at found
      obtain ⟨⟨b, a⟩, inner, parts⟩ := Option.map_eq_some_iff.1 found
      simp only [Prod.mk.injEq] at parts
      rw [List.cons_append, quotedBody?_cons notQuote plain, ih inner]
      simp [← parts.1, ← parts.2]

theorem quotedBody?_of_not_mem {t : Text} (absent : .char '"' ∉ t) : quotedBody? t = none := by
  induction t using quotedBody?.induct with
  | case1 => simp [quotedBody?]
  | case2 rest => simp at absent
  | case3 => simp [quotedBody?]
  | case4 rest => simp [quotedBody?]
  | case5 c rest other ih =>
      simp only [List.mem_cons, not_or] at absent
      simp [quotedBody?, other, ih absent.2.2]
  | case6 c rest notQuote notLast notEscape ih =>
      simp only [List.mem_cons, not_or] at absent
      by_cases escape : c = '\\'
      · subst escape
        cases rest with
        | nil => simp [quotedBody?]
        | cons d rest => exact absurd rfl (notEscape d rest rfl)
      · rw [quotedBody?_cons notQuote escape, ih absent.2]
        rfl

theorem quotedBody?_append_of_none {t u : Text} (missing : quotedBody? t = none) (absent : .char '"' ∉ u) :
    quotedBody? (t ++ u) = none := by
  induction t using quotedBody?.induct with
  | case1 => exact quotedBody?_of_not_mem absent
  | case2 rest => simp [quotedBody?] at missing
  | case3 =>
      cases u with
      | nil => simp [quotedBody?]
      | cons d u =>
          simp only [List.mem_cons, not_or] at absent
          simp [quotedBody?, quotedBody?_of_not_mem absent.2]
  | case4 rest => simp [quotedBody?]
  | case5 c rest other ih =>
      simp only [quotedBody?, if_neg other, Option.map_eq_none_iff] at missing
      simp [quotedBody?, other, ih missing]
  | case6 c rest notQuote notLast notEscape ih =>
      have plain : c ≠ '\\' := by
        rintro rfl
        cases rest with
        | nil => exact notLast rfl rfl
        | cons d rest => exact notEscape d rest rfl rfl
      rw [quotedBody?_cons notQuote plain, Option.map_eq_none_iff] at missing
      rw [List.cons_append, quotedBody?_cons notQuote plain, ih missing]
      rfl

theorem run_append (kind : TokenClass) {keeps : CodePoint → Bool} {d : CodePoint} (ends : keeps d = false) (c : CodePoint)
    (rest u : Text) : run kind keeps c (rest ++ d :: u) = (run kind keeps c rest).before (d :: u) := by
  have taken : (rest ++ d :: u).takeWhile keeps = rest.takeWhile keeps := by
    rw [List.takeWhile_append]
    split
    · next whole => rw [List.takeWhile_cons_of_neg (by simp [ends]), List.append_nil,
        (List.takeWhile_prefix keeps).eq_of_length whole]
    · rfl
  have dropped : (rest ++ d :: u).dropWhile keeps = rest.dropWhile keeps ++ d :: u := by
    rw [List.dropWhile_append]
    split
    · next empty => rw [List.dropWhile_cons_of_neg (by simp [ends]), List.isEmpty_iff.1 empty, List.nil_append]
    · rfl
  simp only [run, before, taken, dropped]

theorem run_append_of_rest (kind : TokenClass) {keeps : CodePoint → Bool} {c : CodePoint} {rest : Text}
    (ends : (run kind keeps c rest).rest ≠ []) (u : Text) :
    run kind keeps c (rest ++ u) = (run kind keeps c rest).before u := by
  have stops : rest.dropWhile keeps ≠ [] := ends
  have taken : (rest ++ u).takeWhile keeps = rest.takeWhile keeps := by
    rw [List.takeWhile_append, if_neg]
    intro whole
    have parts := congrArg List.length (List.takeWhile_append_dropWhile (p := keeps) (l := rest))
    rw [List.length_append, whole] at parts
    exact stops (List.length_eq_zero_iff.1 (by omega))
  have dropped : (rest ++ u).dropWhile keeps = rest.dropWhile keeps ++ u := by
    rw [List.dropWhile_append, if_neg]
    simpa using stops
  simp only [run, before, taken, dropped]

/-- The first token of `c :: rest` inside braces, by the way it starts. -/
inductive Inner (c : CodePoint) (rest : Text) : Lexeme → Prop
  | blank : isBlank c = true → Inner c rest (run .blank isBlank c rest)
  | quoted {body after : Text} : c = '"' → quotedBody? rest = some (body, after) →
      Inner c rest ⟨.quoted, c :: body, after⟩
  | raw {body after : Text} : c = '\x60' → Text.cut? '\x60' rest = some (body, after) →
      Inner c rest ⟨.raw, c :: body ++ [.char '\x60'], after⟩
  | integer : isDecimal c = true ∨ c = '-' ∧ startsDecimal rest = true →
      Inner c rest (run .integer isDecimal c rest)
  | name : isNameStart c = true → Inner c rest (run .name isWord c rest)
  | close : c = '\x7d' → Inner c rest ⟨.brace, [c], rest⟩
  | stray : Inner c rest ⟨.stray, [c], rest⟩

theorem inner_inside (c : CodePoint) (rest : Text) : Inner c rest (inside c rest) := by
  unfold inside
  simp only
  split
  · next blank => exact .blank blank
  split
  · next quote =>
      split
      · next body after found => exact .quoted quote found
      · exact .stray
  split
  · next tick =>
      split
      · next body after found => exact .raw tick found
      · exact .stray
  split
  · next number => exact .integer (by simpa using number)
  split
  · next start => exact .name start
  split
  · next here => exact .close here
  · exact .stray

/-- A token inside braces stays what it is when more stands behind, unless it is a lone quote that finds its
    partner there. -/
theorem inside_append {d : CodePoint} (seam : Seam d) (c : CodePoint) (rest u : Text)
    (settled : (inside c rest).kind ≠ .stray ∨ Unquoted (d :: u)) :
    inside c (rest ++ d :: u) = (inside c rest).before (d :: u) := by
  have starts : startsDecimal (rest ++ d :: u) = startsDecimal rest := by
    cases rest with
    | nil => exact seam.decimal
    | cons e rest => rfl
  unfold inside at settled ⊢
  simp only [starts] at settled ⊢
  split
  · exact run_append .blank seam.blank c rest u
  next notBlank =>
  rw [if_neg notBlank] at settled
  split
  · next quote =>
      rw [if_pos quote] at settled
      cases found : quotedBody? rest with
      | some parts => rw [quotedBody?_append found]; rfl
      | none =>
          have alone : .char '"' ∉ d :: u := by
            rcases settled with known | unquoted
            · simp [found] at known
            · exact unquoted.1
          rw [quotedBody?_append_of_none found alone]
          rfl
  next notQuote =>
  rw [if_neg notQuote] at settled
  split
  · next backtick =>
      rw [if_pos backtick] at settled
      cases found : Text.cut? '\x60' rest with
      | some parts => rw [Text.cut?_append found]; rfl
      | none =>
          have alone : .char '\x60' ∉ d :: u := by
            rcases settled with known | unquoted
            · simp [found] at known
            · exact unquoted.2
          have missing : Text.cut? '\x60' (rest ++ d :: u) = none := by
            rw [Text.cut?_eq_none] at found ⊢
            simp only [List.mem_append, not_or]
            exact ⟨found, alone⟩
          rw [missing]
          rfl
  split
  · exact run_append .integer seam.decimal c rest u
  split
  · exact run_append .name seam.word c rest u
  split
  · rfl
  · rfl

end Lexeme

namespace Token

/-- Whether a directive is open behind some tokens. -/
def openAfter (open_ : Bool) (tokens : List Token) : Bool :=
  tokens.foldl (fun open_ token => opens open_ token.kind) open_

theorem scanFrom_cons (open_ : Bool) (position : Nat) (c : CodePoint) (rest : Text) :
    scanFrom open_ position (c :: rest) =
      ⟨position, (first open_ c rest).kind, (first open_ c rest).text⟩ ::
        scanFrom (opens open_ (first open_ c rest).kind) (position + (first open_ c rest).text.length)
          (first open_ c rest).rest := by
  rw [scanFrom]

theorem scanFrom_of_first {open_ : Bool} {c : CodePoint} {rest after text : Text} {kind : TokenClass}
    (found : first open_ c rest = ⟨kind, text, after⟩) (position : Nat) :
    scanFrom open_ position (c :: rest) =
      ⟨position, kind, text⟩ :: scanFrom (opens open_ kind) (position + text.length) after := by
  rw [scanFrom_cons, found]

@[simp] theorem scanFrom_nil (open_ : Bool) (position : Nat) : scanFrom open_ position [] = [] := by
  rw [scanFrom]

/-- The tokens of a text stay what they are when more stands behind, provided the two meet at an opening
    brace or inside braces. -/
theorem scanFrom_append {d : CodePoint} (seam : Lexeme.Seam d) (u : Text) (open_ : Bool) (position : Nat)
    (t : Text)
    (settled : (∀ token ∈ scanFrom open_ position t, token.kind ≠ .stray) ∨ Lexeme.Unquoted (d :: u))
    (joint : d = '\x7b' ∨ openAfter open_ (scanFrom open_ position t) = true) :
    scanFrom open_ position (t ++ d :: u) =
      scanFrom open_ position t ++
        scanFrom (openAfter open_ (scanFrom open_ position t)) (position + t.length) (d :: u) := by
  induction open_, position, t using scanFrom.induct with
  | case1 open_ position => simp [openAfter]
  | case2 open_ position c rest lexeme ih =>
      have scanned := scanFrom_cons open_ position c rest
      have whole := first_splits open_ c rest
      have same : first open_ c (rest ++ d :: u) = (first open_ c rest).before (d :: u) := by
        cases open_ with
        | true =>
            refine Lexeme.inside_append seam c rest u (settled.imp_left fun known => ?_)
            exact known _ (scanned ▸ List.mem_cons_self)
        | false =>
            simp only [first, Lexeme.outside, Bool.false_eq_true, if_false]
            split
            · rfl
            · next plain =>
              by_cases ends : (Lexeme.run .text (· ≠ .char '\x7b') c rest).rest = []
              · have brace : d = '\x7b' := by
                  refine joint.resolve_right ?_
                  rw [scanned, first, if_neg (by simp), Lexeme.outside, if_neg plain, ends]
                  simp [openAfter, opens, Lexeme.run]
                exact Lexeme.run_append .text (by simp [brace]) c rest u
              · exact Lexeme.run_append_of_rest .text ends _
      rw [scanned] at settled joint
      have onward := ih
        (settled.imp_left fun known token member => known token (List.mem_cons_of_mem _ member)) joint
      have length : (first open_ c rest).text.length + (first open_ c rest).rest.length = rest.length + 1 := by
        rw [← List.length_append, whole.1, List.length_cons]
      rw [List.cons_append, scanFrom_cons, same, scanned]
      simp only [Lexeme.before, List.cons_append]
      have places : position + (first open_ c rest).text.length + (first open_ c rest).rest.length =
          position + (c :: rest).length := by
        rw [List.length_cons]
        omega
      rw [onward, places]
      rfl

/-- The tokens of a text without braces outside of braces: itself, unless it is empty. -/
def ofText (position : Nat) (t : Text) : List Token :=
  if t = [] then [] else [⟨position, .text, t⟩]

theorem openAfter_ofText (open_ : Bool) (tokens : List Token) (position : Nat) (t : Text) :
    openAfter open_ (tokens ++ ofText position t) = openAfter open_ tokens := by
  unfold ofText openAfter
  split
  · rw [List.append_nil]
  · rw [List.foldl_append]
    simp [opens]

theorem scanFrom_text {t : Text} (noBrace : .char '\x7b' ∉ t) (position : Nat) :
    scanFrom false position t = ofText position t := by
  cases t with
  | nil => simp [ofText]
  | cons c rest =>
      simp only [List.mem_cons, not_or] at noBrace
      have all : ∀ d ∈ rest, decide (d ≠ '\x7b') = true := by
        intro d member
        simp only [ne_eq, decide_not, Bool.not_eq_true', decide_eq_false_iff_not]
        rintro rfl
        exact noBrace.2 member
      have one : first false c rest = ⟨.text, c :: rest, []⟩ := by
        rw [first, if_neg (by simp), Lexeme.outside, if_neg (Ne.symm noBrace.1), Lexeme.run,
          List.takeWhile_eq_self_iff.2 all, List.dropWhile_eq_nil_iff.2 all]
      rw [scanFrom_cons, one]
      simp [ofText]

theorem scanFrom_append_text {d : CodePoint} (seam : Lexeme.Seam d) {u : Text} (noBrace : .char '\x7b' ∉ d :: u)
    (unquoted : Lexeme.Unquoted (d :: u)) (open_ : Bool) (position : Nat) (t : Text)
    (closed : openAfter open_ (scanFrom open_ position t) = false) :
    ∃ front place last, scanFrom open_ position t = front ++ ofText place last ∧
      scanFrom open_ position (t ++ d :: u) = front ++ ofText place (last ++ d :: u) := by
  induction open_, position, t using scanFrom.induct with
  | case1 open_ position =>
      have outside : open_ = false := by simpa [openAfter] using closed
      subst outside
      exact ⟨[], position, [], by simp [ofText], by simp [scanFrom_text noBrace]⟩
  | case2 open_ position c rest lexeme ih =>
      have scanned := scanFrom_cons open_ position c rest
      have onward (same : first open_ c (rest ++ d :: u) = (first open_ c rest).before (d :: u)) :
          ∃ front place last, scanFrom open_ position (c :: rest) = front ++ ofText place last ∧
            scanFrom open_ position (c :: rest ++ d :: u) = front ++ ofText place (last ++ d :: u) := by
        rw [scanned] at closed
        obtain ⟨front, place, last, short, long⟩ := ih closed
        refine ⟨_ :: front, place, last, by rw [scanned, short, List.cons_append], ?_⟩
        rw [List.cons_append, scanFrom_cons, same]
        simp only [Lexeme.before]
        rw [long, List.cons_append]
      cases open_ with
      | true => exact onward (Lexeme.inside_append seam c rest u (.inr unquoted))
      | false =>
          by_cases brace : c = '\x7b'
          · refine onward ?_
            rw [first, if_neg (by simp), Lexeme.outside, if_pos brace, first, if_neg (by simp),
              Lexeme.outside, if_pos brace]
            rfl
          · by_cases ends : (Lexeme.run .text (· ≠ .char '\x7b') c rest).rest = []
            · have plain : .char '\x7b' ∉ c :: rest := by
                have kept := List.dropWhile_eq_nil_iff.1 ends
                simp only [List.mem_cons, not_or]
                exact ⟨Ne.symm brace, fun member => by simpa using kept _ member⟩
              refine ⟨[], position, c :: rest, by rw [scanFrom_text plain, List.nil_append], ?_⟩
              rw [List.nil_append, scanFrom_text]
              simp only [List.mem_append, not_or]
              exact ⟨plain, noBrace⟩
            · refine onward ?_
              rw [first, if_neg (by simp), Lexeme.outside, if_neg brace, first, if_neg (by simp),
                Lexeme.outside, if_neg brace]
              exact Lexeme.run_append_of_rest .text ends _

theorem inside_brace {c : CodePoint} {rest : Text} (brace : (Lexeme.inside c rest).kind = .brace) :
    c = '\x7d' ∧ (Lexeme.inside c rest).rest = rest := by
  have inner := Lexeme.inner_inside c rest
  generalize Lexeme.inside c rest = token at inner brace ⊢
  cases inner with
  | close here => exact ⟨here, rfl⟩
  | blank | quoted | raw | integer | name | stray => cases brace

theorem openAfter_of_not_mem {t : Text} (noBrace : .char '\x7d' ∉ t) (position : Nat) :
    openAfter true (scanFrom true position t) = true := by
  generalize inside : true = open_
  induction open_, position, t using scanFrom.induct with
  | case1 open_ position => simp [openAfter]
  | case2 open_ position c rest lexeme ih =>
      subst inside
      have whole := Lexeme.inside_splits c rest
      have stays : opens true (Lexeme.inside c rest).kind = true := by
        rw [opens, if_neg]
        intro brace
        exact noBrace ((inside_brace brace).1 ▸ List.mem_cons_self)
      have later : .char '\x7d' ∉ (Lexeme.inside c rest).rest := by
        intro later
        exact noBrace (whole.1 ▸ List.mem_append_right _ later)
      rw [scanFrom_cons]
      exact (ih later stays.symm).trans stays

theorem openAfter_of_open {u : Text} (noBrace : .char '\x7d' ∉ u) {open_ : Bool} {position : Nat} {t : Text}
    (opened : .char '\x7b' :: u <:+ t) (settled : ∀ token ∈ scanFrom open_ position t, token.kind ≠ .stray) :
    openAfter open_ (scanFrom open_ position t) = true := by
  induction open_, position, t using scanFrom.induct with
  | case1 open_ position => exact absurd (List.suffix_nil.1 opened) (by simp)
  | case2 open_ position c rest lexeme ih =>
      rw [scanFrom_cons] at settled ⊢
      have onward (behind : .char '\x7b' :: u <:+ (first open_ c rest).rest) :=
        ih behind fun token member => settled token (List.mem_cons_of_mem _ member)
      rcases List.suffix_cons_iff.1 opened with same | inner
      · obtain ⟨rfl, rfl⟩ := List.cons.inj same
        cases open_ with
        | false => exact openAfter_of_not_mem noBrace _
        | true =>
            have stray : (Lexeme.inside '\x7b' u).kind = .stray := rfl
            exact absurd stray (settled _ List.mem_cons_self)
      · cases open_ with
        | false =>
            refine onward ?_
            obtain ⟨front, whole⟩ := inner
            rw [← whole, first, if_neg (by simp), Lexeme.outside]
            split
            · exact ⟨front, rfl⟩
            · rw [Lexeme.run_append .text (by simp)]
              exact ⟨_, rfl⟩
        | true =>
            by_cases behind : .char '\x7b' :: u <:+ (Lexeme.inside c rest).rest
            · exact onward behind
            · have stays : opens true (Lexeme.inside c rest).kind = true := by
                rw [opens, if_neg]
                intro brace
                rw [(inside_brace brace).2] at behind
                exact behind inner
              have ends : (Lexeme.inside c rest).rest <:+ c :: rest :=
                ⟨_, (Lexeme.inside_splits c rest).1⟩
              have short : (Lexeme.inside c rest).rest <:+ u := by
                rcases List.suffix_or_suffix_of_suffix opened ends with longer | shorter
                · exact absurd longer behind
                · rcases List.suffix_cons_iff.1 shorter with same | short
                  · exact absurd (same ▸ List.suffix_rfl) behind
                  · exact short
              change openAfter (opens true (Lexeme.inside c rest).kind)
                (scanFrom (opens true (Lexeme.inside c rest).kind) _ (Lexeme.inside c rest).rest) = true
              rw [stays]
              exact openAfter_of_not_mem (fun later => noBrace (short.subset later)) _

end Token

end LogStyle
