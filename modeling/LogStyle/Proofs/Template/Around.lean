import LogStyle.Conditional.Restore
import LogStyle.Proofs.Template.Slot

/-! # Rendering around the slot

Rendering in parts divides a template at its first slot: the head is what stands in front of the slot, rendered as a
template of its own, and the tail what stands behind it, rendered from where the head has ended.
-/

namespace LogStyle

/-- A handler that never fails. -/
def Handler.Total {σ : Type} (handler : Handler σ) : Prop :=
  ∀ line value state, ∃ text after, handler line value state = (.ok text, after)

namespace Template

variable {σ : Type}

/-- A template is rendered in parts around a slot: put together again with the slot they are the whole line, they
    leave the same state behind and fail where it fails; and the head is the part in front of the slot, rendered
    alone, the tail the part behind it, rendered from the state that the head leaves. -/
structure RendersAround (t : Template σ) (front back : Text) (line : Line) (state : σ) : Prop where
  whole : t.render line state =
    ((t.renderParts line state).1.map fun parts => parts.head ++ Handler.slot ++ parts.tail,
      (t.renderParts line state).2)
  parts : ∀ parts after, t.renderParts line state = (.ok parts, after) →
    ∃ between, { t with text := front }.render line state = (.ok parts.head, between) ∧
      { t with text := back }.render line between = (.ok parts.tail, after)

/-- A template is rendered without a slot: the head is the whole line. -/
structure RendersUnsplit (t : Template σ) (line : Line) (state : σ) : Prop where
  whole : t.render line state = ((t.renderParts line state).1.map Parts.head, (t.renderParts line state).2)
  tail : ∀ parts after, t.renderParts line state = (.ok parts, after) → parts.tail = []

variable (t : Template σ) (line : Line)

/-- Parts behind a text that belongs to the head. -/
def Parts.behind (text : Text) (parts : Parts) : Parts :=
  ⟨text ++ parts.head, parts.tail⟩

theorem renderAround_cons {segment : Segment} (none : segment.hasSlot = false) (rest : List Segment) (state : σ) :
    t.renderAround line (segment :: rest) state =
      match t.renderSegment line segment state with
      | (.error e, after) => (.error e, after)
      | (.ok text, after) =>
          ((t.renderAround line rest after).1.map (Parts.behind text), (t.renderAround line rest after).2) := by
  cases segment with
  | literal text =>
      rw [Segment.hasSlot, Option.isSome_eq_false_iff, Option.isNone_iff_eq_none] at none
      simp only [renderAround, none, renderSegment]
      rcases t.renderAround line rest state with ⟨_ | parts, after⟩ <;> rfl
  | field body =>
      simp only [renderAround, renderSegment]
      rcases t.renderField line body state with ⟨_ | text, between⟩
      · rfl
      · simp only
        rcases t.renderAround line rest between with ⟨_ | parts, after⟩ <;> rfl

theorem renderAround_append {passed : List Segment} (none : passed.any Segment.hasSlot = false) (rest : List Segment)
    (state : σ) :
    t.renderAround line (passed ++ rest) state =
      match t.renderSegments line passed state with
      | (.error e, after) => (.error e, after)
      | (.ok text, after) =>
          ((t.renderAround line rest after).1.map (Parts.behind text), (t.renderAround line rest after).2) := by
  induction passed generalizing state with
  | nil =>
      simp only [List.nil_append, renderSegments]
      rcases t.renderAround line rest state with ⟨_ | parts, after⟩ <;> rfl
  | cons segment passed ih =>
      rw [List.any_cons, Bool.or_eq_false_iff] at none
      rw [List.cons_append, renderAround_cons t line none.1, renderSegments_cons]
      rcases t.renderSegment line segment state with ⟨_ | text, between⟩
      · rfl
      · simp only [ih none.2, Sequel.andThen_ok]
        rcases t.renderSegments line passed between with ⟨_ | more, later⟩
        · rfl
        · simp only [Except.map]
          rcases t.renderAround line rest later with ⟨_ | parts, after⟩
          · rfl
          · simp [Parts.behind]

variable {t}

theorem rendersUnsplit_of_none (none : t.segments.any Segment.hasSlot = false) (line : Line) (state : σ) :
    t.RendersUnsplit line state := by
  have all := t.renderAround_append line none [] state
  rw [List.append_nil] at all
  have parts : t.renderParts line state =
      ((t.render line state).1.map (⟨·, []⟩), (t.render line state).2) := by
    rw [renderParts, all, render]
    rcases t.renderSegments line t.segments state with ⟨_ | text, after⟩
    · rfl
    · simp [renderAround, Except.map, Parts.behind]
  constructor
  · rw [parts]
    rcases t.render line state with ⟨_ | text, after⟩ <;> rfl
  · intro found after rendered
    rw [parts] at rendered
    rcases whole : t.render line state with ⟨_ | text, after'⟩
    · simp [whole, Except.map] at rendered
    · simp only [whole, Except.map, Prod.mk.injEq, Except.ok.injEq] at rendered
      rw [← rendered.1]

theorem renderSegments_withText (text : Text) (segments : List Segment) (state : σ) :
    { t with text := text }.renderSegments line segments state = t.renderSegments line segments state := by
  have one (segment : Segment) (state : σ) :
      { t with text := text }.renderSegment line segment state = t.renderSegment line segment state := by
    cases segment <;> rfl
  induction segments generalizing state with
  | nil => rfl
  | cons segment rest ih =>
      rw [renderSegments_cons, renderSegments_cons, one]
      exact congrArg _ (funext ih)

theorem render_part {front back : List Segment} (cut : Segment.scattered t.text = front ++ back) (state : σ) :
    { t with text := front.flatMap Segment.source }.render line state = t.renderSegments line front state ∧
      { t with text := back.flatMap Segment.source }.render line state = t.renderSegments line back state := by
  obtain ⟨early, late⟩ := Segment.eq_scattered_of_scattered_eq cut
  constructor
  · rw [render_eq_scattered, ← early]
    exact renderSegments_withText line _ front state
  · rw [render_eq_scattered, ← late]
    exact renderSegments_withText line _ back state

section
variable {passed rest : List Segment} {text before after : Text} (split : t.segments = passed ++ .literal text :: rest)
  (found : Text.cutAt? Handler.slot text = some (before, after))
include split found

theorem renderParts_of_cutAt? (none : passed.any Segment.hasSlot = false) (line : Line) (state : σ) :
    t.renderParts line state =
      match t.renderSegments line passed state with
      | (.error e, between) => (.error e, between)
      | (.ok head, between) =>
        ((t.renderSegments line rest between).1.map fun tail => ⟨head ++ before, after ++ tail⟩,
          (t.renderSegments line rest between).2) := by
  rw [renderParts, split, renderAround_append t line none]
  rcases t.renderSegments line passed state with ⟨_ | head, between⟩
  · rfl
  · simp only [renderAround, found]
    rcases t.renderSegments line rest between with ⟨_ | tail, last⟩ <;> rfl

theorem scattered_of_cutAt? :
    Segment.scattered t.text = (passed.flatMap Segment.scatter ++ Segment.plain before) ++
      (Segment.plain Handler.slot ++ (Segment.plain after ++ rest.flatMap Segment.scatter)) := by
  have source : text = before ++ (Handler.slot ++ after) := by
    rw [← List.append_assoc, Text.append_of_cutAt? found]
  have literal : (Segment.literal text).scatter = Segment.plain text := rfl
  rw [Segment.scattered, show Segment.split t.text = _ from split, List.flatMap_append, List.flatMap_cons, literal,
    source, Segment.plain_append, Segment.plain_append]
  simp only [List.append_assoc]

theorem rendersAround_of_cutAt? (none : passed.any Segment.hasSlot = false) (line : Line) (state : σ) :
    t.RendersAround (passed.flatMap Segment.source ++ before) (after ++ rest.flatMap Segment.source) line state := by
  have has : (Segment.literal text).hasSlot = true := by rw [Segment.hasSlot, found, Option.isSome_some]
  constructor
  · have whole := renderSegments_eq_renderAround t line t.segments state
    rw [split, List.any_append, List.any_cons, has, Bool.true_or, Bool.or_true, ← split] at whole
    exact whole
  · intro shown last rendered
    rw [renderParts_of_cutAt? split found none] at rendered
    rcases early : t.renderSegments line passed state with ⟨_ | head, between⟩
    · simp [early] at rendered
    rcases late : t.renderSegments line rest between with ⟨_ | tail, last'⟩
    · simp [early, late, Except.map] at rendered
    simp only [early, late, Except.map, Prod.mk.injEq, Except.ok.injEq] at rendered
    obtain ⟨rfl, rfl⟩ := rendered
    -- The template is cut in front of the slot and behind it, each time between two segments of its scattered split.
    have scattered := scattered_of_cutAt? split found
    have front := (render_part line scattered state).1
    rw [← List.append_assoc] at scattered
    have back := (render_part line scattered between).2
    rw [List.flatMap_append, Segment.flatMap_scatter _ fun _ => rfl, Segment.flatMap_source_plain] at front back
    refine ⟨between, ?_, ?_⟩
    · rw [front, renderSegments_append, renderSegments_scatter, early, Sequel.andThen_ok, renderSegments_plain]
      rfl
    · rw [back, renderSegments_append, renderSegments_plain, Sequel.andThen_ok, renderSegments_scatter, late]
      rfl

end

theorem rendersAround_of_firstSlotAt {front back : Text} (first : Segment.FirstSlotAt t.segments front back)
    (line : Line) (state : σ) : t.RendersAround front back line state := by
  obtain ⟨passed, text, before, after, rest, split, none, found⟩ :=
    Segment.exists_first (Segment.any_hasSlot_of_slotAt first.1)
  have found' := Segment.firstSlotAt_of_cutAt? none found rest
  rw [← split] at found'
  obtain ⟨rfl, rfl⟩ := first.unique found'
  exact rendersAround_of_cutAt? split found none line state

theorem rendersUnsplit_of_no_slot (absent : ∀ front back, ¬ Segment.SlotAt t.segments front back) (line : Line)
    (state : σ) :
    t.RendersUnsplit line state := by
  refine rendersUnsplit_of_none (Bool.eq_false_iff.2 fun slotted => ?_) line state
  obtain ⟨text, member, before, after, rfl⟩ := Segment.any_hasSlot.1 slotted
  obtain ⟨passed, rest, whole⟩ := List.append_of_mem member
  exact absent _ _ ⟨passed, before, after, rest, whole, rfl, rfl⟩

variable {line}

theorem RendersAround.not_unsplit {front back text : Text} {state after : σ}
    (around : t.RendersAround front back line state)
    (renders : t.render line state = (.ok text, after)) : ¬ t.RendersUnsplit line state := by
  intro unsplit
  have both := congrArg Prod.fst (around.whole.symm.trans unsplit.whole)
  rcases rendered : t.renderParts line state with ⟨e | parts, after'⟩
  · simp [unsplit.whole, rendered, Except.map] at renders
  · have length := congrArg List.length (Except.ok.inj (by simpa only [rendered, Except.map] using both))
    simp [Handler.slot_eq] at length

theorem eq_nil_of_renderSegments {early more late rest : List Segment} {head : Text} {state between after : σ}
    (same : Segment.plain Handler.slot ++ late = more ++ rest)
    (shorter : t.renderSegments line early state = (.ok head, between))
    (longer : t.renderSegments line (early ++ more) state = (.ok head, after)) : more = [] := by
  cases more with
  | nil => rfl
  | cons segment more =>
      obtain rfl : .literal [.char '%'] = segment := (List.cons.inj same).1
      rw [renderSegments_append, Sequel.andThen_eq_ok] at longer
      obtain ⟨u, v, between', here, behind, whole⟩ := longer
      rw [renderSegments_cons, Sequel.andThen_eq_ok] at behind
      obtain ⟨mark, w, _, shown, -, rfl⟩ := behind
      have alike := shorter.symm.trans here
      cases alike
      cases shown
      simp at whole

theorem RendersAround.unique {front back front' back' text : Text} {state after : σ}
    (renders : t.render line state = (.ok text, after)) (around : t.RendersAround front back line state)
    (slot : Segment.SlotAt t.segments front back) (around' : t.RendersAround front' back' line state)
    (slot' : Segment.SlotAt t.segments front' back') : front = front' ∧ back = back' := by
  obtain ⟨parts, succeeds⟩ := (renderParts_isOk t line state).2 ⟨text, congrArg Prod.fst renders⟩
  obtain ⟨between, head, -⟩ := around.parts parts _ (Prod.ext succeeds rfl)
  obtain ⟨between', head', -⟩ := around'.parts parts _ (Prod.ext succeeds rfl)
  obtain ⟨early, late, cut, rfl, rfl⟩ := Segment.slotAt_split_iff.1 slot
  obtain ⟨early', late', cut', rfl, rfl⟩ := Segment.slotAt_split_iff.1 slot'
  rw [(render_part line cut state).1] at head
  rw [(render_part line cut' state).1] at head'
  obtain rfl : early = early' := by
    obtain ⟨more, rfl, same⟩ | ⟨more, rfl, same⟩ := List.append_eq_append_iff.1 (cut.symm.trans cut')
    · rw [eq_nil_of_renderSegments same head head', List.append_nil]
    · rw [eq_nil_of_renderSegments same head' head, List.append_nil]
  have behind := List.append_cancel_left (cut.symm.trans cut')
  exact ⟨rfl, congrArg _ (List.append_cancel_left behind)⟩

theorem exists_ok_of_total (total : ∀ entry ∈ t.handlers, entry.2.Total) (line : Line) (segments : List Segment)
    (state : σ) : ∃ text after, t.renderSegments line segments state = (.ok text, after) := by
  have one (segment : Segment) (state : σ) : ∃ text after, t.renderSegment line segment state = (.ok text, after) := by
    cases segment with
    | literal text => exact ⟨text, state, rfl⟩
    | field body =>
        simp only [renderSegment, renderField]
        split
        · exact ⟨_, state, rfl⟩
        · split
          · next handler found =>
              obtain ⟨front, back, entries, -⟩ := List.lookup_eq_some_iff.1 found
              have member : ((Segment.nameAndValue body).1, handler) ∈ t.handlers := by
                rw [entries]
                exact List.mem_append_right _ List.mem_cons_self
              exact total _ member line _ state
          · exact ⟨_, state, rfl⟩
  induction segments generalizing state with
  | nil => exact ⟨[], state, rfl⟩
  | cons segment rest ih =>
      obtain ⟨text, between, here⟩ := one segment state
      obtain ⟨more, after, later⟩ := ih between
      rw [renderSegments_cons, here, Sequel.andThen_ok, later]
      exact ⟨text ++ more, after, rfl⟩

/-- Rendering in parts is rendering around the first slot of the template, if one of its literals holds a slot, and
    rendering unsplit otherwise. Which slot that is, is settled before there are handlers, a line or a state. -/
theorem renderParts_at_first_slot (text : Text) :
    ((∃ t, .literal t ∈ Segment.split text ∧ Handler.slot <:+: t) →
      ∃ front back, Segment.FirstSlotAt (Segment.split text) front back ∧ text = front ++ Handler.slot ++ back ∧
        ∀ {σ : Type} (handlers : List (Text × Handler σ)) (line : Line) (state : σ),
          RendersAround ⟨text, handlers⟩ front back line state) ∧
    ((¬ ∃ t, .literal t ∈ Segment.split text ∧ Handler.slot <:+: t) →
      ∀ {σ : Type} (handlers : List (Text × Handler σ)) (line : Line) (state : σ),
        RendersUnsplit ⟨text, handlers⟩ line state) ∧
    ∀ {σ : Type} (handlers : List (Text × Handler σ)), (∀ entry ∈ handlers, entry.2.Total) →
      ∀ line state, ∃ parts after, renderParts ⟨text, handlers⟩ line state = (.ok parts, after) := by
  refine ⟨?_, ?_, ?_⟩
  · intro slotted
    obtain ⟨passed, t, before, after, rest, split, none, found⟩ := Segment.exists_first (Segment.any_hasSlot.2 slotted)
    have first := Segment.firstSlotAt_of_cutAt? none found rest
    rw [← split] at first
    refine ⟨_, _, first, ?_, ?_⟩
    · rw [← first.1.source_eq, Segment.flatMap_source_split]
    · intro σ handlers line state
      exact rendersAround_of_firstSlotAt (t := ⟨text, handlers⟩) first line state
  · intro unslotted σ handlers line state
    have none : (Segment.split text).any Segment.hasSlot = false := by
      rw [Bool.eq_false_iff]
      exact fun slotted => unslotted (Segment.any_hasSlot.1 slotted)
    exact rendersUnsplit_of_none (t := ⟨text, handlers⟩) none line state
  · intro σ handlers total line state
    obtain ⟨shown, after, rendered⟩ := exists_ok_of_total (t := ⟨text, handlers⟩) total line (Segment.split text) state
    obtain ⟨parts, succeeds⟩ := (renderParts_isOk ⟨text, handlers⟩ line state).2 ⟨shown, congrArg Prod.fst rendered⟩
    exact ⟨parts, _, Prod.ext succeeds rfl⟩

/-- The template shows a mark in a field before the slot and holds another mark behind it; the line stores in front of
    the slot what it returns to behind. -/
theorem renderParts_at_first_slot_behind_field :
    let text : Text := "$\x7bprefix\x7d$\x7bstore\x7d[$\x7blevel:%s%s\x7d] %s|$\x7brestore\x7d%s"
    let front : Text := "$\x7bprefix\x7d$\x7bstore\x7d[$\x7blevel:%s%s\x7d] "
    let back : Text := "|$\x7brestore\x7d%s"
    let handlers : List (Text × Handler Restore) := (Restore.handlers []).tail ++ Handler.builtins.take 1
    let line : Line := ⟨.error, "50%s ", ⟨⟨⟨2024, 1, 1⟩, 0, 0, 0, 0⟩, "%H:%M"⟩⟩
    let r : Restore := ⟨"back", "there", []⟩
    (∃ t, .literal t ∈ Segment.split text ∧ Handler.slot <:+: t) ∧
      Segment.FirstSlotAt (Segment.split text) front back ∧ RendersAround ⟨text, handlers⟩ front back line r ∧
      (¬ ∃ t, .literal t ∈ Segment.split front ∧ Handler.slot <:+: t) ∧ RendersUnsplit ⟨front, handlers⟩ line r ∧
      (∀ entry ∈ handlers, entry.2.Total) ∧
      (renderParts ⟨text, handlers⟩ line r).1.toOption = some ⟨"50%s [ERROR%s] ", "|backthere%s"⟩ ∧
      ∃ parts after, renderParts ⟨text, handlers⟩ line r = (.ok parts, after) := by
  intro text front back handlers line r
  have slotted : ∃ t, .literal t ∈ Segment.split text ∧ Handler.slot <:+: t :=
    ⟨"] %s|", by decide +kernel, ("] " : Text), ("|" : Text), rfl⟩
  have unslotted : ¬ ∃ t, .literal t ∈ Segment.split front ∧ Handler.slot <:+: t := by
    rw [← Segment.any_hasSlot]
    decide +kernel
  have total : ∀ entry ∈ handlers, entry.2.Total := by
    intro entry member
    simp only [handlers, Restore.handlers, Handler.builtins, List.tail_cons, List.cons_append, List.nil_append,
      List.take_succ_cons, List.take_zero, List.mem_cons, List.not_mem_nil, or_false] at member
    rcases member with rfl | rfl | rfl <;> exact fun _ _ _ => ⟨_, _, rfl⟩
  have place : Segment.FirstSlotAt (Segment.split text) front back := by
    have split : Segment.split text = [.field "prefix", .field "store", .literal "[", .field "level:%s%s"] ++
        .literal "] %s|" :: [.field "restore", .literal "%s"] := by decide +kernel
    have none : List.any [Segment.field "prefix", .field "store", .literal "[", .field "level:%s%s"] Segment.hasSlot = false :=
      rfl
    have found : Text.cutAt? Handler.slot "] %s|" = some (("] " : Text), ("|" : Text)) := rfl
    rw [split]
    exact Segment.firstSlotAt_of_cutAt? none found _
  obtain ⟨around, -, succeeds⟩ := renderParts_at_first_slot text
  obtain ⟨front', back', first, -, renders⟩ := around slotted
  obtain ⟨rfl, rfl⟩ := place.unique first
  refine ⟨slotted, place, renders handlers line r, unslotted, ?_, total, by decide +kernel, ?_⟩
  · exact (renderParts_at_first_slot front).2.1 unslotted handlers line r
  · exact succeeds handlers total line r

end Template

end LogStyle
