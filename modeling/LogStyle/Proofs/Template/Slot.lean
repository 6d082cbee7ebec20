import LogStyle.Proofs.Template.Parts
import LogStyle.Proofs.Template.Split
import LogStyle.Proofs.Text.Neighbours

/-! # The slot of the message

A slot is a mark `%s` in a literal of a template, outside of all its fields. Where the slots of a text are, and which is
the first, depends on its split into literals and fields alone.
-/

namespace LogStyle

theorem Handler.slot_eq : slot = [.char '%', .char 's'] := rfl

namespace Text

theorem exists_cutAt? {pattern t front back : Text} (whole : t = front ++ pattern ++ back) :
    ∃ before after, cutAt? pattern t = some (before, after) ∧ before.length ≤ front.length := by
  induction t generalizing front with
  | nil =>
      obtain ⟨-, rfl, -⟩ : front = [] ∧ pattern = [] ∧ back = [] := by simpa using whole.symm
      exact ⟨[], [], by simp [cutAt?], Nat.zero_le _⟩
  | cons c rest ih =>
      cases lead : dropLead? pattern (c :: rest) with
      | some after => exact ⟨[], after, by simp [cutAt?, lead], Nat.zero_le _⟩
      | none =>
          cases front with
          | nil =>
              rw [whole, List.nil_append, dropLead?_append] at lead
              cases lead
          | cons d front =>
              obtain ⟨before, after, found, first⟩ := ih (List.cons.inj whole).2
              exact ⟨c :: before, after, by simp [cutAt?, lead, found], Nat.succ_le_succ first⟩

/-- No slot is written in a text. -/
def Slotless (t : Text) : Prop :=
  ¬ Handler.slot <:+: t

instance : DecidablePred Slotless :=
  fun _ => inferInstanceAs (Decidable (¬ _))

theorem slotless_of_not_mem {t : Text} (absent : .char '%' ∉ t) : Slotless t := by
  intro inside
  exact absent (inside.subset List.mem_cons_self)

theorem Slotless.of_infix {t u : Text} (slotless : Slotless t) (inside : u <:+: t) : Slotless u :=
  fun slot => slotless (slot.trans inside)

theorem Slotless.append {t u : Text} (here : Slotless t) (later : Slotless u)
    (seam : t.getLast? = some (.char '%') → u.head? ≠ some (.char 's')) : Slotless (t ++ u) := by
  rintro ⟨front, back, whole⟩
  rw [List.append_assoc, Handler.slot_eq] at whole
  rcases append_eq_neighbours whole.symm with ⟨late, rfl, rfl⟩ | ⟨rfl, rfl⟩ | ⟨more, rfl, rfl⟩
  · exact here ⟨front, late, by simp [Handler.slot_eq]⟩
  · exact seam (by simp) rfl
  · exact later ⟨more, back, by simp [Handler.slot_eq]⟩

theorem Slotless.between {t front back : Text} (slotless : Slotless t) (early : .char '%' ∉ front)
    (late : .char '%' ∉ back)
    (ends : back.head? ≠ some (.char 's')) : Slotless (front ++ t ++ back) := by
  refine ((slotless_of_not_mem early).append slotless ?_).append (slotless_of_not_mem late) fun _ => ends
  exact fun last => absurd (List.mem_of_getLast? last) early

end Text

namespace Segment

theorem eq_scattered_of_scattered_eq {t : Text} {front back : List Segment} (cut : scattered t = front ++ back) :
    front = scattered (front.flatMap source) ∧ back = scattered (back.flatMap source) := by
  have none {t : Text} {back : List Segment} (cut : scattered t = [] ++ back) :
      [] = scattered (([] : List Segment).flatMap source) ∧ back = scattered (back.flatMap source) := by
    rw [List.nil_append] at cut
    rw [← cut, flatMap_source_scattered]
    simp
  induction t using split.induct generalizing front with
  | case1 =>
      obtain ⟨rfl, rfl⟩ : front = [] ∧ back = [] := by simpa using cut
      exact none scattered_nil
  | case2 rest body after found ih =>
      cases front with
      | nil => exact none cut
      | cons first front =>
          have closed : .char '\x7d' ∉ body := by
            apply close_not_mem_of_mem_scattered (t := .char '$' :: rest)
            rw [scattered_field found]
            exact List.mem_cons_self
          rw [scattered_field found, List.cons_append, List.cons.injEq] at cut
          obtain ⟨rfl, cut⟩ := cut
          obtain ⟨early, late⟩ := ih cut
          refine ⟨?_, late⟩
          rw [List.flatMap_cons, source, scattered_fieldText closed, ← early]
  | case3 rest missing ih =>
      cases front with
      | nil => exact none cut
      | cons first front =>
          rw [scattered_dollar missing, List.cons_append, List.cons.injEq] at cut
          obtain ⟨rfl, cut⟩ := cut
          obtain ⟨early, late⟩ := ih cut
          have whole : front.flatMap source ++ back.flatMap source = rest := by
            rw [← List.flatMap_append, ← cut, flatMap_source_scattered]
          -- A field that starts at the dollar sign ends before the cut, or it would be one in the whole text.
          have still : fieldBody? (front.flatMap source) = Option.none := by
            cases found : fieldBody? (front.flatMap source) with
            | none => rfl
            | some parts =>
                have longer := fieldBody?_append found (back.flatMap source)
                rw [whole, missing] at longer
                cases longer
          refine ⟨?_, late⟩
          rw [List.flatMap_cons, source, List.singleton_append, scattered_dollar still, ← early]
  | case4 c rest other ih =>
      cases front with
      | nil => exact none cut
      | cons first front =>
          rw [scattered_cons other, List.cons_append, List.cons.injEq] at cut
          obtain ⟨rfl, cut⟩ := cut
          obtain ⟨early, late⟩ := ih cut
          refine ⟨?_, late⟩
          rw [List.flatMap_cons, source, List.singleton_append, scattered_cons other, ← early]

theorem plain_append (t u : Text) : plain (t ++ u) = plain t ++ plain u :=
  List.map_append

theorem flatMap_source_plain (t : Text) : (plain t).flatMap source = t := by
  simp [plain, List.flatMap_map, source]

/-- A slot in a literal of some segments, with what is written in front of it and behind it. -/
def SlotAt (segments : List Segment) (front back : Text) : Prop :=
  ∃ passed before after rest, segments = passed ++ literal (before ++ Handler.slot ++ after) :: rest ∧
    front = passed.flatMap source ++ before ∧ back = after ++ rest.flatMap source

/-- The first of the slots. -/
def FirstSlotAt (segments : List Segment) (front back : Text) : Prop :=
  SlotAt segments front back ∧ ∀ front' back', SlotAt segments front' back' → front.length ≤ front'.length

theorem SlotAt.source_eq {segments : List Segment} {front back : Text} (slot : SlotAt segments front back) :
    segments.flatMap source = front ++ Handler.slot ++ back := by
  obtain ⟨passed, before, after, rest, rfl, rfl, rfl⟩ := slot
  simp [source]

/-- No literal stands next to another. -/
def Sparse : List Segment → Prop
  | [] => True
  | literal _ :: rest => (∀ u, rest.head? ≠ some (literal u)) ∧ Sparse rest
  | field _ :: rest => Sparse rest

theorem sparse_consChar (c : CodePoint) {segments : List Segment} (sparse : Sparse segments) :
    Sparse (consChar c segments) := by
  cases segments with
  | nil => exact ⟨by simp, trivial⟩
  | cons segment rest =>
      cases segment with
      | literal t => exact sparse
      | field body => exact ⟨by simp, sparse⟩

theorem sparse_split (t : Text) : Sparse (split t) := by
  induction t using split.induct with
  | case1 =>
      rw [split]
      trivial
  | case2 rest body after found ih =>
      rw [split_field found]
      exact ih
  | case3 rest missing ih =>
      rw [split_dollar missing]
      exact sparse_consChar '$' ih
  | case4 c rest other ih =>
      rw [split_cons other]
      exact sparse_consChar c ih

theorem SlotAt.cons {segments : List Segment} {front back : Text} (slot : SlotAt segments front back)
    (segment : Segment) : SlotAt (segment :: segments) (segment.source ++ front) back := by
  obtain ⟨passed, before, after, rest, rfl, rfl, rfl⟩ := slot
  exact ⟨segment :: passed, before, after, rest, rfl, by simp, rfl⟩

theorem slotAt_of_scatter {segments : List Segment} (sparse : Sparse segments) {front back : List Segment}
    (cut : segments.flatMap scatter = front ++ (plain Handler.slot ++ back)) :
    SlotAt segments (front.flatMap source) (back.flatMap source) := by
  have mark : plain Handler.slot = [literal [.char '%'], literal [.char 's']] := rfl
  induction segments generalizing front with
  | nil => simp [mark] at cut
  | cons segment rest ih =>
      cases segment with
      | field body =>
          cases front with
          | nil => simp [scatter, mark] at cut
          | cons first front =>
              rw [List.flatMap_cons, scatter, List.singleton_append, List.cons_append, List.cons.injEq] at cut
              obtain ⟨rfl, cut⟩ := cut
              have onward := (ih sparse cut).cons (field body)
              simpa using onward
      | literal t =>
          rw [List.flatMap_cons] at cut
          rw [mark] at cut
          rcases append_eq_neighbours cut with ⟨late, inside, rfl⟩ | ⟨-, next⟩ | ⟨more, rfl, later⟩
          · have text := congrArg (List.flatMap source) (show plain t = _ from inside)
            rw [flatMap_source_plain, List.flatMap_append] at text
            refine ⟨[], front.flatMap source, late.flatMap source, rest, ?_, rfl, ?_⟩
            · rw [text, List.append_assoc]
              rfl
            · rw [List.flatMap_append, flatMap_scatter _ fun _ => rfl]
          · -- The literal would end between the characters of the slot, next to another one.
            cases rest with
            | nil => cases next
            | cons other rest =>
                cases other with
                | field body => cases next
                | literal u => exact absurd rfl (sparse.1 u)
          · have onward := (ih sparse.2 later).cons (literal t)
            rwa [List.flatMap_append, show (literal t).scatter = plain t from rfl, flatMap_source_plain]

theorem slotAt_split_iff {t front back : Text} :
    SlotAt (split t) front back ↔
      ∃ early late, scattered t = early ++ (plain Handler.slot ++ late) ∧ front = early.flatMap source ∧
        back = late.flatMap source := by
  constructor
  · rintro ⟨passed, before, after, rest, whole, rfl, rfl⟩
    refine ⟨passed.flatMap scatter ++ plain before, plain after ++ rest.flatMap scatter, ?_, ?_, ?_⟩
    · have literal : (literal (before ++ Handler.slot ++ after)).scatter = plain (before ++ Handler.slot ++ after) := rfl
      rw [scattered, whole, List.flatMap_append, List.flatMap_cons, literal, plain_append, plain_append]
      simp only [List.append_assoc]
    · rw [List.flatMap_append, flatMap_scatter _ fun _ => rfl, flatMap_source_plain]
    · rw [List.flatMap_append, flatMap_scatter _ fun _ => rfl, flatMap_source_plain]
  · rintro ⟨early, late, cut, rfl, rfl⟩
    exact slotAt_of_scatter (sparse_split t) cut

theorem FirstSlotAt.unique {segments : List Segment} {front back front' back' : Text}
    (first : FirstSlotAt segments front back) (first' : FirstSlotAt segments front' back') :
    front = front' ∧ back = back' := by
  have whole := first.1.source_eq
  rw [first'.1.source_eq, List.append_assoc, List.append_assoc] at whole
  have length : front'.length = front.length := Nat.le_antisymm (first'.2 _ _ first.1) (first.2 _ _ first'.1)
  obtain ⟨same, behind⟩ := List.append_inj whole length
  exact ⟨same.symm, (List.append_cancel_left behind).symm⟩

theorem hasSlot_literal {t : Text} : (literal t).hasSlot = true ↔ Handler.slot <:+: t := by
  constructor
  · intro has
    obtain ⟨⟨before, after⟩, found⟩ := Option.isSome_iff_exists.1 has
    exact ⟨before, after, Text.append_of_cutAt? found⟩
  · rintro ⟨before, after, whole⟩
    obtain ⟨_, _, found, -⟩ := Text.exists_cutAt? whole.symm
    simp [hasSlot, found]

theorem any_hasSlot {segments : List Segment} :
    segments.any hasSlot = true ↔ ∃ t, literal t ∈ segments ∧ Handler.slot <:+: t := by
  constructor
  · intro slotted
    obtain ⟨segment, member, has⟩ := List.any_eq_true.1 slotted
    cases segment with
    | literal t => exact ⟨t, member, hasSlot_literal.1 has⟩
    | field body => cases has
  · rintro ⟨t, member, inside⟩
    exact List.any_eq_true.2 ⟨_, member, hasSlot_literal.2 inside⟩

theorem any_hasSlot_of_slotAt {segments : List Segment} {front back : Text} (slot : SlotAt segments front back) :
    segments.any hasSlot = true := by
  obtain ⟨passed, before, after, rest, rfl, -⟩ := slot
  exact any_hasSlot.2 ⟨_, List.mem_append_right _ List.mem_cons_self, before, after, rfl⟩

theorem exists_first {segments : List Segment} (slotted : segments.any hasSlot = true) :
    ∃ passed t before after rest, segments = passed ++ literal t :: rest ∧ passed.any hasSlot = false ∧
      Text.cutAt? Handler.slot t = some (before, after) := by
  induction segments with
  | nil => cases slotted
  | cons segment segments ih =>
      cases here : segment.hasSlot with
      | true =>
          cases segment with
          | field body => cases here
          | literal t =>
              obtain ⟨⟨before, after⟩, found⟩ := Option.isSome_iff_exists.1 here
              exact ⟨[], t, before, after, segments, rfl, rfl, found⟩
      | false =>
          rw [List.any_cons, here, Bool.false_or] at slotted
          obtain ⟨passed, t, before, after, rest, rfl, none, found⟩ := ih slotted
          exact ⟨segment :: passed, t, before, after, rest, rfl, by simp [here, none], found⟩

theorem firstSlotAt_of_cutAt? {passed : List Segment} {t before after : Text} (none : passed.any hasSlot = false)
    (found : Text.cutAt? Handler.slot t = some (before, after)) (rest : List Segment) :
    FirstSlotAt (passed ++ literal t :: rest) (passed.flatMap source ++ before) (after ++ rest.flatMap source) := by
  refine ⟨⟨passed, before, after, rest, by rw [Text.append_of_cutAt? found], rfl, rfl⟩, ?_⟩
  rintro _ _ ⟨passed', before', after', rest', whole, rfl, rfl⟩
  have inside (same : t = before' ++ Handler.slot ++ after') : before.length ≤ before'.length := by
    obtain ⟨_, _, found', first⟩ := Text.exists_cutAt? same
    rw [found, Option.some.injEq, Prod.mk.injEq] at found'
    rwa [← found'.1] at first
  have short : before.length ≤ t.length := by simp [← Text.append_of_cutAt? found]
  rw [List.length_append, List.length_append]
  obtain ⟨between, rfl, inner⟩ | ⟨between, rfl, inner⟩ := List.append_eq_append_iff.1 whole
  · cases between with
    | nil =>
        have first := inside (literal.inj (List.cons.inj inner).1)
        simpa using first
    | cons segment between =>
        obtain ⟨rfl, -⟩ := List.cons.inj inner
        simp only [List.flatMap_append, List.flatMap_cons, source, List.length_append]
        omega
  · cases between with
    | nil =>
        have first := inside (literal.inj (List.cons.inj inner).1.symm)
        simpa using first
    | cons segment between =>
        obtain ⟨rfl, -⟩ := List.cons.inj inner
        have has := hasSlot_literal.2 ⟨before', after', rfl⟩
        exact absurd has (List.any_eq_false.1 none _ (List.mem_append_right _ List.mem_cons_self))

theorem exists_firstSlotAt {segments : List Segment} {front back : Text} (slot : SlotAt segments front back) :
    ∃ front back, FirstSlotAt segments front back := by
  obtain ⟨passed, t, before, after, rest, rfl, none, found⟩ := exists_first (any_hasSlot_of_slotAt slot)
  exact ⟨_, _, firstSlotAt_of_cutAt? none found _⟩

end Segment

end LogStyle
