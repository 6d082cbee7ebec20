import LogStyle.Proofs.Program.Grammar
import LogStyle.Proofs.Program.Tiling
import Mathlib.Data.List.Forall2

/-! # Where nodes stand in their source

Reading forgets blanks, quotes and escapes, but no place: a text is read from one token, and a call from those
between an opening brace and the brace that ends it, with both. The rows of tokens that nodes are read from make up
all tokens of a source, so it can be put together again from the texts and from what is written between the braces
of the calls, whatever braces stand in quoted arguments.
-/

namespace LogStyle

/-- Where the first brace behind a position stands, of those that are tokens. -/
def Token.braceBehind? (source : Text) (position : Nat) : Option Nat :=
  ((scan source).find? fun token => token.isBrace && decide (position < token.position)).map Token.position

namespace Node

/-- What a node was read from: a text from itself, and a call from what is written from its opening brace to the
    brace that ends it. -/
def span (source : Text) : Node → Text
  | text t => t
  | call _ _ position =>
    match Token.braceBehind? source position with
    | some closing => (source.drop position).take (closing + 1 - position)
    | none => []

/-- How nodes make up a source. -/
structure Spans (source : Text) (nodes : List Node) : Prop where
  texts : ∀ t, .text t ∈ nodes → t ≠ [] ∧ .char '\x7b' ∉ t
  apart : ∀ t u, ¬ [.text t, .text u] <:+: nodes
  /-- A call stands where the nodes in front of it end, at an opening brace, and goes on to a closing one. -/
  placed : ∀ front name args position back, nodes = front ++ .call name args position :: back →
    position = (front.flatMap (span source)).length ∧ source[position]? = some (.char '\x7b') ∧
      ∃ closing, Token.braceBehind? source position = some closing ∧ position < closing ∧
        source[closing]? = some (.char '\x7d')
  ordered : ∀ front name args position between name' args' position' back,
    nodes = front ++ .call name args position :: (between ++ .call name' args' position' :: back) →
      position < position'
  whole : nodes.flatMap (span source) = source

/-- The tokens that a node is read from. -/
inductive Takes : Node → List Token → Prop
  | text {token : Token} : ¬ token.isBrace → Takes (.text token.text) [token]
  | call {opening closing : Token} {inner : List Token} {name : Text} {args : List Arg} :
      opening.isBrace → (∀ between ∈ inner, ¬ between.isBrace) → closing.isBrace →
      Takes (.call name args opening.position) (opening :: (inner ++ [closing]))

section
variable {knows : Text → Bool} {tokens : List Token} {nodes : List Node}

theorem exists_closing_of_readFrom [CharNames] {d : Draft} (read : readFrom knows (some d) tokens = .ok nodes) :
    ∃ inner closing rest name args more, tokens = inner ++ closing :: rest ∧
      (∀ between ∈ inner, ¬ between.isBrace) ∧ closing.isBrace ∧
      nodes = .call name args d.position :: more ∧ readFrom knows none rest = .ok more := by
  induction tokens generalizing d with
  | nil => cases read
  | cons token tokens ih =>
      rw [readFrom] at read
      split at read
      · next brace =>
          obtain ⟨node, closed, behind⟩ := Outcome.bind_eq_ok.1 read
          obtain ⟨more, later, whole⟩ := Outcome.bind_eq_ok.1 behind
          obtain ⟨name, rfl, -⟩ := Draft.call_of_close closed
          exact ⟨[], token, tokens, name, d.args, more, rfl, by simp, by simp [Token.isBrace, brace],
            (Except.ok.inj whole).symm, later⟩
      · next other =>
          obtain ⟨longer, added, later⟩ := Outcome.bind_eq_ok.1 read
          obtain ⟨inner, closing, rest, name, args, more, rfl, inside, brace, rfl, behind⟩ := ih later
          refine ⟨token :: inner, closing, rest, name, args, more, rfl, ?_, brace, ?_, behind⟩
          · intro between member
            rcases List.mem_cons.1 member with rfl | later
            · simp [Token.isBrace, other]
            · exact inside between later
          · obtain ⟨-, -, same, -⟩ := Draft.grows_of_add added
            rw [same]

theorem exists_rows_of_readFrom [CharNames] (read : readFrom knows none tokens = .ok nodes) :
    ∃ rows, List.Forall₂ Takes nodes rows ∧ tokens = rows.flatten := by
  generalize size : tokens.length = bound
  induction bound using Nat.strong_induction_on generalizing tokens nodes with
  | _ bound ih =>
  cases tokens with
  | nil =>
      cases read
      exact ⟨[], .nil, rfl⟩
  | cons token tokens =>
      rw [readFrom] at read
      split at read
      · next brace =>
          obtain ⟨inner, closing, rest, name, args, more, rfl, inside, closes, rfl, later⟩ :=
            exists_closing_of_readFrom read
          have shorter : rest.length < bound := by
            rw [← size]
            simp only [List.length_cons, List.length_append]
            omega
          obtain ⟨rows, taken, rfl⟩ := ih _ shorter later rfl
          have opens : token.isBrace := by simp [Token.isBrace, brace]
          exact ⟨_ :: rows, .cons (.call opens inside closes) taken, by simp⟩
      · next other =>
        obtain ⟨more, later, rfl⟩ := Outcome.map_eq_ok.1 read
        have shorter : tokens.length < bound := by
          rw [← size, List.length_cons]
          omega
        obtain ⟨rows, taken, rfl⟩ := ih _ shorter later rfl
        exact ⟨_ :: rows, .cons (.text (by simpa [Token.isBrace] using other)) taken, rfl⟩

end

theorem exists_rows_of_append {front back : List Node} {rows : List (List Token)}
    (taken : List.Forall₂ Takes (front ++ back) rows) :
    ∃ left right, rows = left ++ right ∧ List.Forall₂ Takes front left ∧ List.Forall₂ Takes back right := by
  refine ⟨rows.take front.length, rows.drop front.length, (List.take_append_drop ..).symm, ?_, ?_⟩
  · simpa using List.forall₂_take front.length taken
  · simpa using List.forall₂_drop front.length taken

theorem openAfter_of_takes {node : Node} {row : List Token} (taken : Takes node row) (open_ : Bool) :
    Token.openAfter open_ row = open_ := by
  cases taken with
  | @text token plain =>
      exact Token.openAfter_of_no_brace (fun token' member => List.mem_singleton.1 member ▸ plain) open_
  | @call opening closing inner name args opens inside closes =>
      have flips (token : Token) (brace : token.isBrace) (open_ : Bool) : Token.opens open_ token.kind = !open_ :=
        if_pos (by simpa [Token.isBrace] using brace)
      rw [Token.openAfter_cons, Token.openAfter_append, Token.openAfter_of_no_brace inside, Token.openAfter_cons,
        flips opening opens, flips closing closes, Bool.not_not]
      rfl

theorem openAfter_of_rows {nodes : List Node} {rows : List (List Token)} (taken : List.Forall₂ Takes nodes rows)
    (open_ : Bool) : Token.openAfter open_ rows.flatten = open_ := by
  induction taken with
  | nil => rfl
  | cons here _ ih => rw [List.flatten_cons, Token.openAfter_append, openAfter_of_takes here, ih]

section
variable {source : Text} {before inner after : List Token} {opening closing : Token}

theorem position_lt_of_split (split : Token.scan source = before ++ opening :: (inner ++ closing :: after)) :
    opening.position < closing.position := by
  have here := Token.position_of_split split
  have nonempty := List.length_pos_iff.2 (Token.text_ne_nil split)
  have again : Token.scan source = (before ++ opening :: inner) ++ closing :: after := by
    rw [split, List.append_assoc, List.cons_append]
  rw [here, Token.position_of_split again, List.flatMap_append, List.flatMap_cons, List.length_append,
    List.length_append]
  omega

theorem braceBehind?_of_split (split : Token.scan source = before ++ opening :: (inner ++ closing :: after))
    (inside : ∀ between ∈ inner, ¬ between.isBrace) (closes : closing.isBrace) :
    Token.braceBehind? source opening.position = some closing.position := by
  have ahead : ∀ token ∈ before, ¬ opening.position < token.position := by
    intro token member
    obtain ⟨front, back, rfl⟩ := List.append_of_mem member
    rw [List.append_assoc, List.cons_append] at split
    have := position_lt_of_split split
    omega
  unfold Token.braceBehind?
  rw [split, List.find?_append, List.find?_eq_none.2 (by simpa using fun token member _ => ahead token member),
    Option.none_or, List.find?_cons_of_neg (by simp), List.find?_append,
    List.find?_eq_none.2 (by
      intro between member
      simp [inside between member]),
    Option.none_or, List.find?_cons_of_pos (by simp [closes, position_lt_of_split split])]
  rfl

theorem length_of_brace (split : Token.scan source = before ++ closing :: after) (closes : closing.isBrace) :
    closing.text.length = 1 := by
  rw [Token.text_of_brace split closes]
  split <;> rfl

theorem flatMap_text_of_split {row : List Token} (split : Token.scan source = before ++ (row ++ after)) :
    before.flatMap Token.text ++ (row.flatMap Token.text ++ after.flatMap Token.text) = source := by
  have whole : (Token.scan source).flatMap Token.text = source := Token.flatMap_text_scanFrom false 0 source
  rwa [split, List.flatMap_append, List.flatMap_append] at whole

theorem getElem?_of_brace (split : Token.scan source = before ++ closing :: after) (closes : closing.isBrace) :
    source[closing.position]? = some (if Token.openAfter false before then '\x7d' else '\x7b') := by
  have whole := flatMap_text_of_split (show Token.scan source = before ++ ([closing] ++ after) from split)
  have text := Token.text_of_brace split closes
  have one : [closing].flatMap Token.text = [if Token.openAfter false before then '\x7d' else '\x7b'] := by
    simp only [List.flatMap_cons, List.flatMap_nil, List.append_nil, text]
    split <;> rfl
  rw [one] at whole
  rw [Token.position_of_split split, ← whole, List.getElem?_append_right le_rfl, Nat.sub_self]
  rfl

theorem span_of_takes {node : Node} {row : List Token} (taken : Takes node row)
    (split : Token.scan source = before ++ (row ++ after)) : node.span source = row.flatMap Token.text := by
  cases taken with
  | text plain => simp [span]
  | @call opening closing inner name args opens inside closes =>
      have whole := flatMap_text_of_split split
      rw [List.cons_append, List.append_assoc, List.singleton_append] at split
      have again : Token.scan source = (before ++ opening :: inner) ++ closing :: after := by
        rw [split, List.append_assoc, List.cons_append]
      have start := Token.position_of_split split
      have stop := Token.position_of_split again
      have one := length_of_brace again closes
      have size : closing.position + 1 - opening.position =
          ((opening :: (inner ++ [closing])).flatMap Token.text).length := by
        rw [start, stop]
        simp only [List.flatMap_append, List.flatMap_cons, List.flatMap_nil, List.append_nil, List.length_append]
        omega
      rw [span, braceBehind?_of_split split inside closes]
      simp only
      rw [size, start, ← whole, List.drop_left, List.take_left]

end

theorem flatMap_span_of_rows {source : Text} {nodes : List Node} {rows : List (List Token)}
    (taken : List.Forall₂ Takes nodes rows) (before after : List Token)
    (split : Token.scan source = before ++ (rows.flatten ++ after)) :
    nodes.flatMap (span source) = rows.flatten.flatMap Token.text := by
  induction taken generalizing before with
  | nil => rfl
  | @cons node row nodes rows here _ ih =>
      rw [List.flatten_cons, List.append_assoc] at split
      have later : Token.scan source = (before ++ row) ++ (rows.flatten ++ after) := by
        rw [split, List.append_assoc]
      rw [List.flatMap_cons, List.flatten_cons, List.flatMap_append, span_of_takes here split, ih _ later]

theorem placed_of_rows {source : Text} {front back : List Node} {name : Text} {args : List Arg} {position : Nat}
    {rows : List (List Token)} (taken : List.Forall₂ Takes (front ++ .call name args position :: back) rows)
    (whole : Token.scan source = rows.flatten) :
    position = (front.flatMap (span source)).length ∧ source[position]? = some (.char '\x7b') ∧
      ∃ closing, Token.braceBehind? source position = some closing ∧ position < closing ∧
        source[closing]? = some (.char '\x7d') := by
  obtain ⟨left, right, rfl, ahead, behind⟩ := exists_rows_of_append taken
  cases behind with
  | @cons _ row _ right here behind =>
  have spans := flatMap_span_of_rows ahead [] _ (by rw [whole, List.flatten_append]; rfl)
  rw [List.flatten_append, List.flatten_cons] at whole
  cases here with
  | @call opening closing inner _ _ opens inside closes =>
  have split : Token.scan source = left.flatten ++ opening :: (inner ++ closing :: right.flatten) := by
    rw [whole]
    simp
  have again : Token.scan source = (left.flatten ++ opening :: inner) ++ closing :: right.flatten := by
    rw [split, List.append_assoc, List.cons_append]
  have outside : Token.openAfter false left.flatten = false := openAfter_of_rows ahead false
  have within : Token.openAfter false (left.flatten ++ opening :: inner) = true := by
    rw [Token.openAfter_append, outside, Token.openAfter_cons, Token.openAfter_of_no_brace inside]
    exact if_pos (by simpa [Token.isBrace] using opens)
  refine ⟨by rw [spans]; exact Token.position_of_split split, ?_, closing.position,
    braceBehind?_of_split split inside closes, position_lt_of_split split, ?_⟩
  · rw [getElem?_of_brace split opens, outside]
    rfl
  · rw [getElem?_of_brace again closes, within]
    rfl

theorem span_ne_nil {source : Text} (name : Text) (args : List Arg) {position closing : Nat}
    (here : source[position]? = some (.char '\x7b')) (found : Token.braceBehind? source position = some closing)
    (behind : position < closing) : span source (.call name args position) ≠ [] := by
  obtain ⟨inside, -⟩ := List.getElem?_eq_some_iff.1 here
  rw [span, found]
  simp only [ne_eq, List.take_eq_nil_iff, List.drop_eq_nil_iff]
  omega

/-- What has been read can be put together again: the texts between calls hold no opening brace, none of them is
    empty or next to another, every call stands further on than the one before it, and the texts and what is written
    from the opening brace of each call to its closing one are the source. -/
theorem spans_of_read [CharNames] {knows : Text → Bool} {source : Text} {nodes : List Node}
    (read : Node.read knows source = .ok nodes) : Spans source nodes := by
  obtain ⟨rows, taken, whole⟩ := exists_rows_of_readFrom read
  have apart := (Grammar.source_of_readAt read).texts_apart
  have placed {front back : List Node} {name : Text} {args : List Arg} {position : Nat}
      (split : nodes = front ++ .call name args position :: back) :=
    placed_of_rows (split ▸ taken) whole
  exact {
    texts := fun t member => ⟨fun empty => apart.1 (empty ▸ member), brace_not_mem_of_readFrom rfl read member⟩
    apart := apart.2
    placed := fun front name args position back => placed
    ordered := by
      intro front name args position between name' args' position' back split
      obtain ⟨start, here, closing, found, behind, -⟩ := placed split
      rw [← List.cons_append, ← List.append_assoc] at split
      obtain ⟨start', -⟩ := placed split
      have nonempty := List.length_pos_iff.2 (span_ne_nil name args here found behind)
      rw [start', List.flatMap_append, List.flatMap_cons, List.length_append, List.length_append, ← start]
      omega
    whole := by
      rw [flatMap_span_of_rows taken [] [] (by rw [whole]; simp), ← whole]
      exact Token.flatMap_text_scanFrom false 0 source
  }

section

attribute [local instance] CharNames.none

/-- Braces in arguments end no call. -/
theorem spans_of_quoted_braces :
    let source := "a\x7d\x7bfg \"\x7d\x7b\" \x60\x7d\x60 -1\x7d\x7b bold \x7d\n\x7breset\x7d"
    let nodes : List Node := [.text "a\x7d", .call "fg" [.text "\x7d\x7b", .text "\x7d", .number (-1)] 2,
      .call "bold" [] 18, .text "\n", .call "reset" [] 27]
    Node.read (Registry.builtins (σ := Unit)).knows source = .ok nodes ∧ Spans source nodes := by
  intro source nodes
  have read : Node.read (Registry.builtins (σ := Unit)).knows source = .ok nodes := by decide +kernel
  exact ⟨read, spans_of_read read⟩

end

end Node

end LogStyle
