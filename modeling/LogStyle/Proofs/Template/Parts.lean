import LogStyle.Proofs.Text.Sequel

/-! # Lines in parts

A line can be rendered whole or in parts around the slot of its message. Both walks take the same steps in
the same order: the parts, put together again around the slot, are the whole line, they fail where it
fails, and they leave the same state behind.
-/

namespace LogStyle

namespace Text

theorem append_of_dropLead? {lead t rest : Text} (h : dropLead? lead t = some rest) : lead ++ rest = t := by
  induction lead generalizing t with
  | nil => simpa [dropLead?] using h.symm
  | cons c lead ih =>
      cases t with
      | nil => simp [dropLead?] at h
      | cons d t =>
          simp only [dropLead?] at h
          split at h
          · next same => rw [same, List.cons_append, ih h]
          · simp at h

theorem dropLead?_append (lead rest : Text) : dropLead? lead (lead ++ rest) = some rest := by
  induction lead with
  | nil => rfl
  | cons c lead ih => simpa [dropLead?] using ih

theorem append_of_cutAt? {pattern t before after : Text} (h : cutAt? pattern t = some (before, after)) :
    before ++ pattern ++ after = t := by
  induction t generalizing before after with
  | nil =>
      simp only [cutAt?] at h
      split at h
      · next empty =>
          simp only [Option.some.injEq, Prod.mk.injEq] at h
          simp [← h.1, ← h.2, empty]
      · simp at h
  | cons c rest ih =>
      simp only [cutAt?] at h
      split at h
      · next lead =>
          simp only [Option.some.injEq, Prod.mk.injEq] at h
          rw [← h.1, ← h.2, List.nil_append, append_of_dropLead? lead]
      · obtain ⟨⟨b, a⟩, hb, he⟩ := Option.map_eq_some_iff.1 h
        simp only [Prod.mk.injEq] at he
        rw [← he.1, ← he.2, List.cons_append, List.cons_append, ih hb]

end Text

namespace Segment

def hasSlot : Segment → Bool
  | literal t => (Text.cutAt? Handler.slot t).isSome
  | field _ => false

end Segment

namespace Template

variable {σ : Type}

def Parts.whole (slotted : Bool) (parts : Parts) : Text :=
  if slotted then parts.head ++ Handler.slot ++ parts.tail else parts.head ++ parts.tail

theorem Parts.whole_push (slotted : Bool) (text : Text) (parts : Parts) :
    whole slotted ⟨text ++ parts.head, parts.tail⟩ = text ++ whole slotted parts := by
  cases slotted <;> simp [whole]

theorem renderSegments_eq_renderAround (t : Template σ) (line : Line) (segments : List Segment)
    (state : σ) :
    t.renderSegments line segments state =
      ((t.renderAround line segments state).1.map (Parts.whole (segments.any Segment.hasSlot)),
        (t.renderAround line segments state).2) := by
  induction segments generalizing state with
  | nil => rfl
  | cons segment rest ih =>
      rw [renderSegments_cons]
      cases segment with
      | literal text =>
          cases slot : Text.cutAt? Handler.slot text with
          | some cut =>
              obtain ⟨before, after⟩ := cut
              have source := Text.append_of_cutAt? slot
              simp only [renderAround, renderSegment, slot, Sequel.andThen_ok, List.any_cons,
                Segment.hasSlot, Option.isSome_some, Bool.true_or]
              rcases t.renderSegments line rest state with ⟨_ | shown, state'⟩
              · rfl
              · simp [Except.map, Parts.whole, ← source]
          | none =>
              simp only [renderAround, renderSegment, slot, Sequel.andThen_ok, List.any_cons,
                Segment.hasSlot, Option.isSome_none, Bool.false_or, ih]
              rcases t.renderAround line rest state with ⟨_ | parts, state'⟩
              · rfl
              · simp [Except.map, Parts.whole_push]
      | field body =>
          simp only [renderAround, renderSegment, List.any_cons, Segment.hasSlot, Bool.false_or]
          rcases t.renderField line body state with ⟨_ | shown, state'⟩
          · rfl
          · simp only [Sequel.andThen_ok, ih]
            rcases t.renderAround line rest state' with ⟨_ | parts, state''⟩
            · rfl
            · simp [Except.map, Parts.whole_push]

theorem renderParts_state (t : Template σ) (line : Line) (state : σ) :
    (t.renderParts line state).2 = (t.render line state).2 := by
  rw [render, renderSegments_eq_renderAround]
  rfl

theorem renderParts_isOk (t : Template σ) (line : Line) (state : σ) :
    (∃ parts, (t.renderParts line state).1 = .ok parts) ↔ ∃ text, (t.render line state).1 = .ok text := by
  rw [render, renderSegments_eq_renderAround]
  change _ ↔ ∃ text, (t.renderParts line state).1.map _ = .ok text
  rcases (t.renderParts line state).1 with _ | parts
  · simp [Except.map]
  · simp [Except.map]

end Template

end LogStyle
