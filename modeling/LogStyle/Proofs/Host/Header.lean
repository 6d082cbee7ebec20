import LogStyle.Host.Outlet
import LogStyle.Proofs.Formatter.Compile
import LogStyle.Proofs.Host.Markup

/-! # Headers of records

The format of a record is cut after every brace of its header and at its message, and the host looks for tags in each
stretch on its own. So a header is written as it is exactly when each of its opening angle brackets starts a tag within
its stretch. This is so for every colorizer that takes the escapes out of a format whose tags all have them.
-/

namespace LogStyle

namespace Markup

/-- The stretches of a header, each up to and with a brace. -/
def stretches : Text → List Text
  | [] => []
  | c :: rest =>
    if c = '\x7b' ∨ c = '\x7d' then [c] :: stretches rest
    else
      match stretches rest with
      | first :: others => (c :: first) :: others
      | [] => [[c]]

def texts (t : Text) : List Piece :=
  (stretches t).map fun u => .text (escapeTags u)

theorem closes_head?_stretches (t : Text) : closes isTagChar ((stretches t).headD []) = closes isUncut t := by
  induction t with
  | nil => rfl
  | cons c t ih =>
      by_cases brace : c = '\x7b' ∨ c = '\x7d'
      · have cut : isUncut c = false ∧ c ≠ '>' := by rcases brace with rfl | rfl <;> decide
        have kept : isTagChar c = true := by rcases brace with rfl | rfl <;> decide
        rw [stretches, if_pos brace, List.headD_cons, closes, closes, List.dropWhile_cons_of_pos kept,
          List.dropWhile_cons_of_neg (by simp [cut.1])]
        simp [cut.2]
      · have same : isUncut c = isTagChar c := by
          rw [not_or] at brace
          simp [isUncut, brace.1, brace.2]
        have first : (stretches (c :: t)).headD [] = c :: (stretches t).headD [] := by
          rw [stretches, if_neg brace]
          cases stretches t <;> rfl
        rw [first]
        by_cases inner : isTagChar c = true
        · simp only [closes, List.dropWhile_cons_of_pos inner, List.dropWhile_cons_of_pos (same.trans inner)] at ih ⊢
          exact ih
        · have outer : ¬ isUncut c = true := same ▸ inner
          simp only [closes, List.dropWhile_cons_of_neg inner, List.dropWhile_cons_of_neg outer, List.head?_cons]

theorem flatMap_stretches (t : Text) : (stretches t).flatMap (keepSlashes isTagChar) = shown t := by
  induction t with
  | nil => rfl
  | cons c t ih =>
      unfold shown at ih ⊢
      by_cases brace : c = '\x7b' ∨ c = '\x7d'
      · have other : c ≠ '<' := by rcases brace with rfl | rfl <;> decide
        rw [stretches, if_pos brace, List.flatMap_cons, ih]
        simp [keepSlashes, other]
      · have closing := closes_head?_stretches t
        rw [stretches, if_neg brace, keepSlashes, ← ih, ← closing]
        cases stretches t with
        | nil =>
            simp only [List.flatMap_cons, List.flatMap_nil, List.append_nil, keepSlashes, List.headD_nil]
        | cons first others =>
            simp only [List.flatMap_cons, keepSlashes, List.headD_cons]
            split <;> rfl

/-! ## The pieces of a format -/

section
variable {c : CodePoint} {rest : Text}

theorem pieces?_brace (brace : c = '\x7b' ∨ c = '\x7d') :
    pieces? (c :: c :: rest) = (pieces? rest).map (.text [c] :: ·) := by
  rcases brace with rfl | rfl <;> rw [pieces?]

theorem pieces?_char (plain : ¬ (c = '\x7b' ∨ c = '\x7d')) :
    pieces? (c :: rest) = (pieces? rest).map (Piece.addFront c) := by
  rw [not_or] at plain
  rw [pieces?]
  · exact fun _ brace => absurd brace plain.1
  · exact fun _ brace => absurd brace plain.2
  · exact plain.2
  · exact plain.1

theorem pieces?_field {name : Text} (starts : name.head? ≠ some (.char '\x7b')) (some_ : name ≠ [])
    (ends : .char '\x7d' ∉ name) :
    pieces? (.char '\x7b' :: (name ++ .char '\x7d' :: rest)) = (pieces? rest).map (.field name :: ·) := by
  obtain ⟨d, more, rfl⟩ := List.exists_cons_of_ne_nil some_
  have cut := Text.cut?_of_not_mem ends rest
  rw [List.cons_append] at cut ⊢
  rw [pieces?]
  · split
    · next none =>
        rw [cut] at none
        cases none
    · next name after found =>
        rw [cut] at found
        cases found
        rfl
  · intro after same
    rw [(List.cons.inj same).1] at starts
    exact starts rfl

theorem pieces?_plain {u : Text} (plain : .char '\x7b' ∉ u ∧ .char '\x7d' ∉ u) :
    pieces? (u ++ rest) = (pieces? rest).map (u.foldr Piece.addFront) := by
  induction u with
  | nil =>
      rw [List.nil_append]
      cases pieces? rest <;> rfl
  | cons d u ih =>
      simp only [List.mem_cons, not_or] at plain
      rw [List.cons_append, pieces?_char (not_or.2 ⟨Ne.symm plain.1.1, Ne.symm plain.2.1⟩), ih ⟨plain.1.2, plain.2.2⟩,
        Option.map_map]
      rfl

theorem texts_brace (brace : c = '\x7b' ∨ c = '\x7d') (t : Text) : texts (c :: t) = .text [c] :: texts t := by
  have bracket : c ≠ '<' := by rcases brace with rfl | rfl <;> decide
  unfold texts
  rw [stretches, if_pos brace, List.map_cons, escapeTags_cons bracket, escapeTags_nil]

theorem texts_char (plain : ¬ (c = '\x7b' ∨ c = '\x7d')) (t name : Text) (pieces : List Piece) :
    texts (c :: t) ++ .field name :: pieces =
      (escapeTags [c]).foldr Piece.addFront (texts t ++ .field name :: pieces) := by
  unfold texts
  rw [stretches, if_neg plain]
  by_cases bracket : c = '<'
  · subst bracket
    rcases stretches t with _ | ⟨first, others⟩ <;> rfl
  · rcases stretches t with _ | ⟨first, others⟩ <;> simp [escapeTags_cons bracket, Piece.addFront]

theorem pieces?_escape {name : Text} (starts : name.head? ≠ some (.char '\x7b')) (some_ : name ≠ [])
    (ends : .char '\x7d' ∉ name)
    (t : Text) :
    pieces? (escape t ++ .char '\x7b' :: (name ++ .char '\x7d' :: rest)) =
      (pieces? rest).map fun pieces => texts t ++ .field name :: pieces := by
  induction t with
  | nil => exact pieces?_field starts some_ ends
  | cons c t ih =>
      have whole : escape (c :: t) = escapeChar c ++ escape t := rfl
      by_cases brace : c = '\x7b' ∨ c = '\x7d'
      · have twice : escapeChar c = [c, c] := by rcases brace with rfl | rfl <;> rfl
        simp only [whole, twice, List.cons_append, List.nil_append]
        rw [pieces?_brace brace, ih, Option.map_map, texts_brace brace]
        rfl
      · have once : escapeChar c = escapeTags [c] := by
          rw [not_or] at brace
          by_cases bracket : c = '<'
          · subst bracket
            rfl
          · simp [escapeChar, brace.1, brace.2, bracket, escapeTags]
        have plain : .char '\x7b' ∉ escapeTags [c] ∧ .char '\x7d' ∉ escapeTags [c] := by
          rw [not_or] at brace
          by_cases bracket : c = '<'
          · subst bracket
            decide
          · simp [escapeTags, bracket, Ne.symm brace.1, Ne.symm brace.2]
        rw [whole, once, List.append_assoc, pieces?_plain plain, ih, Option.map_map]
        exact congrArg (Option.map · _) (funext fun pieces => (texts_char brace t name pieces).symm)

end

/-! ## What is written for a header -/

theorem writePieces_texts (message t : Text) (rest : List Piece) :
    writePieces message ((texts t).map (Piece.mapText unescape) ++ rest) =
      (writePieces message rest).map (shown t ++ ·) := by
  rw [← flatMap_stretches, texts]
  induction stretches t with
  | nil => simp
  | cons u others ih =>
      simp only [List.map_cons, List.cons_append, Piece.mapText, writePieces, List.map_map, List.flatMap_cons] at ih ⊢
      rw [ih, unescape_escapeTags, Option.map_map]
      simp [Function.comp_def]

theorem format_eq (head tail : Text) :
    format head tail = escape head ++ .char '\x7b' :: (("message" : Text) ++ .char '\x7d' ::
      (escape (tail ++ [.char '\n']) ++ .char '\x7b' :: (("exception" : Text) ++ .char '\x7d' :: []))) := by
  have feed : escape (tail ++ [.char '\n']) = escape tail ++ [.char '\n'] := by
    simp [escape, escapeChar]
  rw [format, feed]
  simp

theorem pieces?_format (head tail : Text) :
    pieces? (format head tail) =
      some (texts head ++ .field "message" :: (texts (tail ++ [.char '\n']) ++ [.field "exception"])) := by
  have none : pieces? [] = some [] := by rw [pieces?]
  rw [format_eq, pieces?_escape (by decide) (by decide) (by decide),
    pieces?_escape (by decide) (by decide) (by decide), none]
  rfl

theorem escaped_of_mem_texts {t u : Text} (member : Piece.text u ∈ texts t) : Escaped u := by
  obtain ⟨v, -, same⟩ := List.mem_map.1 member
  cases same
  exact escaped_escapeTags v

theorem shown_concat_feed (t : Text) : shown (t ++ [.char '\n']) = shown t ++ [.char '\n'] := by
  have feed (rest : Text) : closes isUncut (rest ++ [.char '\n']) = closes isUncut rest := by
    simp only [closes, List.dropWhile_append]
    split
    · next empty => rw [List.isEmpty_iff.1 empty]; rfl
    · next some =>
        obtain ⟨c, after, left⟩ := List.exists_cons_of_ne_nil (fun none => some (List.isEmpty_iff.2 none))
        rw [left]
        rfl
  induction t with
  | nil => rfl
  | cons c t ih =>
      unfold shown at ih ⊢
      rw [List.cons_append, keepSlashes, keepSlashes, feed, ih]
      split <;> rfl

theorem written?_eq {k : Colorizer} (lawful : k.Lawful) (head message tail : Text) :
    written? k head message tail = some (shown head ++ message ++ shown tail ++ [.char '\n']) := by
  have escaped : ∀ t, Piece.text t ∈ texts head ++ .field "message" :: (texts (tail ++ [.char '\n']) ++ [.field "exception"]) →
      Escaped t := by
    intro t member
    simp only [List.mem_append, List.mem_cons, reduceCtorEq, false_or, List.not_mem_nil, or_false] at member
    rcases member with front | back
    · exact escaped_of_mem_texts front
    · exact escaped_of_mem_texts back
  have messageField : field? message "message" = some message := rfl
  have exceptionField : field? message "exception" = some [] := rfl
  simp only [written?, pieces?_format, bind, Option.bind_some, lawful.escaped _ escaped, List.map_append, List.map_cons,
    List.map_nil, Piece.mapText, writePieces_texts, writePieces, messageField, exceptionField, pure, Option.map_some,
    shown_concat_feed, List.append_nil, List.append_assoc]

theorem written?_eq_iff {k : Colorizer} (lawful : k.Lawful) (head message tail : Text) :
    written? k head message tail = some (head ++ message ++ tail ++ [.char '\n']) ↔ Clear head ∧ Clear tail := by
  rw [written?_eq lawful, Option.some_inj, ← shown_eq_iff, ← shown_eq_iff]
  constructor
  · intro same
    have front := @length_le_keepSlashes isUncut head
    have back := @length_le_keepSlashes isUncut tail
    have lengths := congrArg List.length same
    simp only [List.length_append] at lengths
    change head.length ≤ (shown head).length at front
    change tail.length ≤ (shown tail).length at back
    have whole := (List.append_inj (List.append_inj same (by simp only [List.length_append]; omega)).1
      (by simp only [List.length_append]; omega))
    exact ⟨(List.append_inj whole.1 (by omega)).1, whole.2⟩
  · rintro ⟨front, back⟩
    rw [front, back]

end Markup

theorem Formatter.renderParts_of_literal {text before after : Text} {conditionals : List Conditional}
    (one : Segment.split text = [.literal text]) (slot : Text.cutAt? Handler.slot text = some (before, after))
    (line : Line) (r : Restore) :
    renderParts ⟨Template.ofText text, conditionals⟩ line r = (.ok ⟨before, after⟩, r.forget) := by
  have segments : (Template.ofText (σ := Restore) text).segments = [.literal text] := one
  simp only [renderParts, Template.renderParts, segments, Template.renderAround, slot, Template.renderSegments,
    List.append_nil]

namespace Outlet

section
variable {k : Markup.Colorizer} {o : Outlet} {clock : Clock} {r : Record} {s : State} {lead : Text}
  {parts : Template.Parts} {line : Restore} (bound : lead? o.formatter r = some lead)
  (renders : o.formatter.renderParts ⟨r.level, lead, clock⟩ s.line = (.ok parts, line))
include bound renders

theorem rendered?_of_parts :
    o.rendered? k clock r s = (Markup.written? k parts.head r.message parts.tail, { s with line }) := by
  simp only [rendered?, bound, Option.getD_some, renders]
  rfl

/-- A record is written, its header around the message, and the header is as it is but for the opening angle brackets
    that start no tag: these keep the backslash they are escaped with. So the header is written as it is exactly when
    each of its opening angle brackets starts a tag that no brace cuts. -/
theorem rendered_verbatim_iff (lawful : k.Lawful) :
    o.rendered? k clock r s =
        (some (Markup.shown parts.head ++ r.message ++ Markup.shown parts.tail ++ [.char '\n']), { s with line }) ∧
      (o.rendered? k clock r s = (some (parts.head ++ r.message ++ parts.tail ++ [.char '\n']), { s with line }) ↔
        Markup.Clear parts.head ∧ Markup.Clear parts.tail) := by
  rw [rendered?_of_parts bound renders, ← Markup.written?_eq_iff lawful _ r.message]
  exact ⟨by rw [Markup.written?_eq lawful], fun same => (Prod.mk.inj same).1, fun same => by rw [same]⟩

end

def plainRecord (message : Text) : Record :=
  ⟨⟨"INFO", 20⟩, message, .ofText [], none, false⟩

/-- A header with a tag is written as it is. -/
theorem rendered_verbatim_of_tag :
    Markup.Colorizer.plain.Lawful ∧ lead? (ofTemplate "<b> %s").formatter (plainRecord "m") = some [] ∧
      (ofTemplate "<b> %s").formatter.renderParts (.plain .info) {} = (.ok ⟨"<b> ", []⟩, {}) ∧
      (ofTemplate "<b> %s").rendered? .plain (Line.plain .info).clock (plainRecord "m") {} =
        (some ("<b> m\n" : Text), {}) := by
  have one : Segment.split "<b> %s" = [.literal "<b> %s"] := by decide +kernel
  have renders := @Formatter.renderParts_of_literal "<b> %s" "<b> " [] [] one (by decide) (.plain .info) {}
  have tag : Markup.Clear "<b> " := (Markup.shown_eq_iff _).1 (by decide)
  have empty : Markup.Clear [] := (Markup.shown_eq_iff _).1 rfl
  exact ⟨Markup.Colorizer.plain_lawful, rfl, renders,
    (@rendered_verbatim_iff .plain (ofTemplate "<b> %s") (Line.plain .info).clock (plainRecord "m") {} []
      ⟨"<b> ", []⟩ _ rfl renders Markup.Colorizer.plain_lawful).2.2 ⟨tag, empty⟩⟩

/-- A bracket that starts no tag is written with the backslash it was escaped with. -/
theorem rendered_keeps_backslash :
    (ofTemplate "a < b %s").formatter.renderParts (.plain .info) {} = (.ok ⟨"a < b ", []⟩, {}) ∧
      (ofTemplate "a < b %s").rendered? .plain (Line.plain .info).clock (plainRecord "m") {} =
        (some ("a \\< b m\n" : Text), {}) := by
  have one : Segment.split "a < b %s" = [.literal "a < b %s"] := by decide +kernel
  have renders := @Formatter.renderParts_of_literal "a < b %s" "a < b " [] [] one (by decide) (.plain .info) {}
  have written : Markup.written? .plain "a < b " "m" [] = some ("a \\< b m\n" : Text) := by decide +kernel
  refine ⟨renders, ?_⟩
  rw [@rendered?_of_parts .plain (ofTemplate "a < b %s") (Line.plain .info).clock (plainRecord "m") {} []
    ⟨"a < b ", []⟩ _ rfl renders]
  exact congrArg (·, _) written

end Outlet

end LogStyle
