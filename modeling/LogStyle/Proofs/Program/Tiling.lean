import LogStyle.Proofs.Program.Reading
import Mathlib.Data.List.Induction

/-! # Tokens tile their source

Scanning loses nothing and stops nowhere: whatever a source is, its tokens put together give it back, and each one
stands where those in front of it end. What is scanned behind some tokens depends on nothing but the text that is
left there and on whether these tokens leave a directive open; all that is said of a single token follows from
this.
-/

namespace LogStyle

namespace Token

/-- Whether a token is a brace that opens or closes a directive. -/
def isBrace (token : Token) : Bool :=
  token.kind = .brace

/-- How a row of tokens tiles a source. -/
structure Tiles (source : Text) (tokens : List Token) : Prop where
  bounded : tokens.length ≤ source.length
  nonempty : ∀ token ∈ tokens, token.text ≠ []
  whole : tokens.flatMap Token.text = source
  placed : ∀ front token back, tokens = front ++ token :: back →
    token.position = (front.flatMap Token.text).length
  /-- What starts no token is one character between an opening brace and its closing brace, or the end. -/
  stray : ∀ front token back, tokens = front ++ token :: back → token.kind = .stray →
    (∃ c, token.text = [c]) ∧
      (∃ before opening inner, front = before ++ opening :: inner ∧ opening.isBrace ∧ opening.text = [.char '\x7b'] ∧
        ∀ between ∈ inner, ¬ between.isBrace) ∧
      ∀ closing ∈ back.find? isBrace, closing.text = [.char '\x7d']
  /-- Braces open and close in turn, and the first one opens. -/
  braces : ∀ front token back, tokens = front ++ token :: back → token.isBrace →
    token.text = if front.countP isBrace % 2 = 0 then [.char '\x7b'] else [.char '\x7d']

section
variable {open_ : Bool} {position : Nat} {t : Text} {front back : List Token} {token : Token}

theorem openAfter_cons (open_ : Bool) (token : Token) (tokens : List Token) :
    openAfter open_ (token :: tokens) = openAfter (opens open_ token.kind) tokens :=
  rfl

theorem openAfter_append (open_ : Bool) (front back : List Token) :
    openAfter open_ (front ++ back) = openAfter (openAfter open_ front) back :=
  List.foldl_append

theorem openAfter_of_no_brace {tokens : List Token} (none_ : ∀ token ∈ tokens, ¬ token.isBrace) (open_ : Bool) :
    openAfter open_ tokens = open_ := by
  induction tokens with
  | nil => rfl
  | cons token tokens ih =>
      have other : token.kind ≠ .brace := by simpa [isBrace] using none_ token List.mem_cons_self
      rw [openAfter_cons, opens, if_neg other]
      exact ih fun later member => none_ later (List.mem_cons_of_mem _ member)

theorem openAfter_eq_decide (open_ : Bool) (tokens : List Token) :
    openAfter open_ tokens = (open_ ^^ decide (tokens.countP isBrace % 2 = 1)) := by
  induction tokens generalizing open_ with
  | nil => simp [openAfter]
  | cons token tokens ih =>
      rw [openAfter_cons, ih]
      by_cases brace : token.kind = .brace
      · have flipped : decide ((tokens.countP isBrace + 1) % 2 = 1) = !decide (tokens.countP isBrace % 2 = 1) := by
          rw [← decide_not, decide_eq_decide]
          omega
        rw [opens, if_pos brace, List.countP_cons_of_pos (by simp [isBrace, brace]), flipped]
        cases open_ <;> simp
      · rw [opens, if_neg brace, List.countP_cons_of_neg (by simp [isBrace, brace])]

theorem exists_opening {tokens : List Token} (opened : openAfter false tokens = true) :
    ∃ before opening inner, tokens = before ++ opening :: inner ∧ opening.isBrace ∧
      openAfter false before = false ∧ ∀ between ∈ inner, ¬ between.isBrace := by
  induction tokens using List.reverseRecOn with
  | nil => cases opened
  | append_singleton tokens last ih =>
      rw [openAfter_append, openAfter_cons, opens] at opened
      by_cases brace : last.kind = .brace
      · rw [if_pos brace] at opened
        exact ⟨tokens, last, [], rfl, by simp [isBrace, brace], by simpa [openAfter] using opened, by simp⟩
      · rw [if_neg brace] at opened
        obtain ⟨before, opening, inner, rfl, isOpening, closed, inside⟩ := ih opened
        refine ⟨before, opening, inner ++ [last], by simp, isOpening, closed, fun between member => ?_⟩
        rcases List.mem_append.1 member with inner | here
        · exact inside between inner
        · rw [List.mem_singleton.1 here]
          simp [isBrace, brace]

theorem text_of_outside_brace {c : CodePoint} {rest : Text} (brace : (Lexeme.outside c rest).kind = .brace) :
    (Lexeme.outside c rest).text = [.char '\x7b'] := by
  unfold Lexeme.outside at brace ⊢
  split at brace
  · next here =>
      rw [if_pos here, here]
  · cases brace

theorem text_of_inside_brace {c : CodePoint} {rest : Text} (brace : (Lexeme.inside c rest).kind = .brace) :
    (Lexeme.inside c rest).text = [.char '\x7d'] := by
  have inner := Lexeme.inner_inside c rest
  generalize Lexeme.inside c rest = token at inner brace ⊢
  cases inner with
  | close here => rw [here]
  | blank | quoted | raw | integer | name | stray => cases brace

theorem text_of_first_brace {c : CodePoint} {rest : Text} (brace : (first open_ c rest).kind = .brace) :
    (first open_ c rest).text = if open_ then [.char '\x7d'] else [.char '\x7b'] := by
  cases open_ with
  | true => exact text_of_inside_brace brace
  | false => exact text_of_outside_brace brace

theorem open_of_stray {c : CodePoint} {rest : Text} (stray : (first open_ c rest).kind = .stray) : open_ = true := by
  cases open_ with
  | true => rfl
  | false =>
      simp only [first, Lexeme.outside, Bool.false_eq_true, if_false] at stray
      split at stray <;> cases stray

theorem exists_rest_of_split (split : scanFrom open_ position t = front ++ back) :
    ∃ rest, t = front.flatMap Token.text ++ rest ∧
      back = scanFrom (openAfter open_ front) (position + (front.flatMap Token.text).length) rest := by
  induction front generalizing open_ position t with
  | nil => exact ⟨t, rfl, split.symm⟩
  | cons token front ih =>
      cases t with
      | nil => simp at split
      | cons c t =>
          rw [scanFrom_cons, List.cons_append] at split
          obtain ⟨here, later⟩ := List.cons.inj split
          obtain ⟨rest, same, behind⟩ := ih later
          have whole := (first_splits open_ c t).1
          subst here
          refine ⟨rest, ?_, ?_⟩
          · rw [List.flatMap_cons, List.append_assoc, ← same, whole]
          · rw [behind, openAfter_cons, List.flatMap_cons, List.length_append, Nat.add_assoc]

theorem exists_first_of_split (split : scanFrom open_ position t = front ++ token :: back) :
    ∃ c rest, t = front.flatMap Token.text ++ c :: rest ∧
      token.position = position + (front.flatMap Token.text).length ∧
      token.kind = (first (openAfter open_ front) c rest).kind ∧
      token.text = (first (openAfter open_ front) c rest).text := by
  obtain ⟨rest, whole, behind⟩ := exists_rest_of_split split
  cases rest with
  | nil => simp at behind
  | cons c rest =>
      rw [scanFrom_cons] at behind
      obtain ⟨rfl, -⟩ := List.cons.inj behind
      exact ⟨c, rest, whole, rfl, rfl, rfl⟩

theorem flatMap_text_scanFrom (open_ : Bool) (position : Nat) (t : Text) :
    (scanFrom open_ position t).flatMap Token.text = t := by
  obtain ⟨rest, whole, behind⟩ := exists_rest_of_split (List.append_nil (scanFrom open_ position t)).symm
  cases rest with
  | nil => rw [List.append_nil] at whole; exact whole.symm
  | cons c rest => simp [scanFrom_cons] at behind

theorem text_ne_nil (split : scanFrom open_ position t = front ++ token :: back) : token.text ≠ [] := by
  obtain ⟨c, rest, -, -, -, text⟩ := exists_first_of_split split
  rw [text]
  exact (first_splits _ c rest).2

theorem text_of_brace (split : scanFrom open_ position t = front ++ token :: back) (brace : token.isBrace) :
    token.text = if openAfter open_ front then [.char '\x7d'] else [.char '\x7b'] := by
  obtain ⟨c, rest, -, -, kind, text⟩ := exists_first_of_split split
  rw [text, text_of_first_brace]
  rw [← kind]
  simpa [isBrace] using brace

theorem openAfter_of_stray (split : scanFrom open_ position t = front ++ token :: back)
    (stray : token.kind = .stray) : openAfter open_ front = true := by
  obtain ⟨c, rest, -, -, kind, -⟩ := exists_first_of_split split
  exact open_of_stray (kind ▸ stray)

theorem position_of_split {source : Text} (split : scan source = front ++ token :: back) :
    token.position = (front.flatMap Token.text).length := by
  obtain ⟨c, rest, -, place, -⟩ := exists_first_of_split split
  rw [place, Nat.zero_add]

theorem length_le_of_nonempty {tokens : List Token} (nonempty : ∀ token ∈ tokens, token.text ≠ []) :
    tokens.length ≤ (tokens.flatMap Token.text).length := by
  induction tokens with
  | nil => simp
  | cons token tokens ih =>
      have here := List.length_pos_iff.2 (nonempty token List.mem_cons_self)
      have later := ih fun token member => nonempty token (List.mem_cons_of_mem _ member)
      rw [List.flatMap_cons, List.length_append, List.length_cons]
      omega

theorem within_of_stray {source : Text} (split : scan source = front ++ token :: back)
    (stray : token.kind = .stray) :
    (∃ before opening inner, front = before ++ opening :: inner ∧ opening.isBrace ∧ opening.text = [.char '\x7b'] ∧
      ∀ between ∈ inner, ¬ between.isBrace) ∧
      ∀ closing ∈ back.find? isBrace, closing.text = [.char '\x7d'] := by
  have opened := openAfter_of_stray split stray
  constructor
  · obtain ⟨before, opening, inner, rfl, brace, closed, inside⟩ := exists_opening opened
    rw [List.append_assoc, List.cons_append] at split
    have text := text_of_brace split brace
    rw [closed] at text
    exact ⟨before, opening, inner, rfl, brace, text, inside⟩
  · intro closing found
    obtain ⟨brace, between, after, rfl, others⟩ := List.find?_eq_some_iff_append.1 found
    have still : openAfter false (front ++ token :: between) = true := by
      rw [openAfter_append, opened]
      refine openAfter_of_no_brace (fun other member => ?_) true
      rcases List.mem_cons.1 member with rfl | later
      · simp [isBrace, stray]
      · simpa using others other later
    have again : scan source = (front ++ token :: between) ++ closing :: after := by
      rw [split, List.append_assoc, List.cons_append]
    have text := text_of_brace again brace
    rwa [still] at text

end

/-- Whatever a source is, its tokens are finitely many, none is empty, and put together in their order they give
    the source; each stands behind as many characters as those in front of it have. Characters that start no token
    are only in directives, and braces open and close directives in turn. -/
theorem tiles_scan (source : Text) : Tiles source (scan source) := by
  have nonempty : ∀ token ∈ scan source, token.text ≠ [] := by
    intro token member
    obtain ⟨front, back, split⟩ := List.append_of_mem member
    exact text_ne_nil split
  have whole : (scan source).flatMap Token.text = source := flatMap_text_scanFrom false 0 source
  exact {
    bounded := by simpa only [whole] using length_le_of_nonempty nonempty
    nonempty
    whole
    placed := fun front token back => position_of_split
    stray := by
      intro front token back split stray
      have member : token ∈ scan source := split ▸ List.mem_append_right _ List.mem_cons_self
      exact ⟨single_of_stray member stray, within_of_stray split stray⟩
    braces := by
      intro front token back split brace
      have odd : (¬ front.countP isBrace % 2 = 0) ↔ front.countP isBrace % 2 = 1 := by omega
      rw [text_of_brace split brace, openAfter_eq_decide, Bool.false_xor]
      by_cases even : front.countP isBrace % 2 = 0
      · simp [even]
      · simp [odd.1 even]
  }

end Token

end LogStyle
