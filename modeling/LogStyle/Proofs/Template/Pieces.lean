import LogStyle.Proofs.Template.Split

/-! # Templates made of pieces

A template that is written piece by piece is split into the same pieces again, provided that no literal piece
holds the beginning of a field or completes one that a dollar sign in front has begun.
-/

namespace LogStyle

namespace Segment

/-- No field starts in a text. -/
def Fieldless (t : Text) : Prop :=
  ∀ u, ¬ .char '$' :: .char '\x7b' :: u <:+ t

theorem fieldless_cons {c : CodePoint} {rest : Text} :
    Fieldless (c :: rest) ↔ ¬ (c = '$' ∧ rest.head? = some (.char '\x7b')) ∧ Fieldless rest := by
  constructor
  · intro fieldless
    refine ⟨?_, fun u opened => fieldless u (opened.trans (List.suffix_cons c rest))⟩
    rintro ⟨rfl, first⟩
    obtain ⟨u, rfl⟩ := List.head?_eq_some_iff.1 first
    exact fieldless u List.suffix_rfl
  · rintro ⟨here, later⟩ u opened
    rcases List.suffix_cons_iff.1 opened with same | inner
    · obtain ⟨rfl, rfl⟩ := List.cons.inj same
      exact here ⟨rfl, rfl⟩
    · exact later u inner

instance instDecidableFieldless : (t : Text) → Decidable (Fieldless t)
  | [] => .isTrue fun _ opened => absurd (List.suffix_nil.1 opened) (by simp)
  | _ :: rest =>
    have := instDecidableFieldless rest
    decidable_of_iff _ fieldless_cons.symm

theorem Fieldless.noneOpen {t : Text} (fieldless : Fieldless t) : NoneOpen t :=
  fun u opened => absurd opened (fieldless u)

theorem Fieldless.of_suffix {t u : Text} (fieldless : Fieldless t) (suffix : u <:+ t) : Fieldless u :=
  fun v inside => fieldless v (inside.trans suffix)

theorem Fieldless.of_infix {t u : Text} (fieldless : Fieldless t) (inside : u <:+: t) : Fieldless u := by
  obtain ⟨front, back, whole⟩ := inside
  rintro v ⟨before, part⟩
  exact fieldless (v ++ back) ⟨front ++ before, by simp [← whole, ← part]⟩

theorem fieldless_of_dollar {t : Text} (absent : .char '$' ∉ t) : Fieldless t :=
  fun _ opened => absent (opened.subset List.mem_cons_self)

theorem fieldless_of_brace {t : Text} (absent : .char '\x7b' ∉ t) : Fieldless t :=
  fun _ opened => absent (opened.subset (List.mem_cons_of_mem _ List.mem_cons_self))

theorem Fieldless.append {t u : Text} (left : Fieldless t) (right : Fieldless u)
    (seam : t.getLast? = some (.char '$') → u.head? ≠ some (.char '\x7b')) : Fieldless (t ++ u) := by
  rintro v ⟨front, whole⟩
  rcases List.append_eq_append_iff.1 whole with ⟨middle, rfl, inner⟩ | ⟨middle, rfl, inner⟩
  · cases middle with
    | nil => exact right v ⟨[], by simpa using inner⟩
    | cons c middle =>
        simp only [List.cons_append, List.cons.injEq] at inner
        obtain ⟨rfl, inner⟩ := inner
        cases middle with
        | nil =>
            have first : u.head? = some (.char '\x7b') := by
              rw [← show .char '\x7b' :: v = u from inner]
              rfl
            exact seam (by simp) first
        | cons d middle =>
            simp only [List.cons_append, List.cons.injEq] at inner
            obtain ⟨rfl, -⟩ := inner
            exact left middle ⟨front, rfl⟩
  · exact right v ⟨middle, inner.symm⟩

theorem Fieldless.between {front t back : Text} (fieldless : Fieldless t) (noDollar : .char '$' ∉ front)
    (noBrace : .char '\x7b' ∉ back) : Fieldless (front ++ t ++ back) := by
  have left : Fieldless (front ++ t) :=
    (fieldless_of_dollar noDollar).append fieldless fun last =>
      absurd (List.mem_of_getLast? last) noDollar
  exact left.append (fieldless_of_brace noBrace) fun _ first => noBrace (List.mem_of_head? first)

theorem scattered_of_fieldless {t : Text} (fieldless : Fieldless t) : scattered t = plain t := by
  induction t using split.induct with
  | case1 => simp [plain]
  | case2 rest body after found ih =>
      unfold fieldBody? at found
      split at found
      · exact absurd List.suffix_rfl (fieldless _)
      · simp at found
  | case3 rest missing ih =>
      rw [scattered_dollar missing, ih (fieldless.of_suffix (List.suffix_cons (.char '$') rest))]
      rfl
  | case4 c rest other ih =>
      rw [scattered_cons other, ih (fieldless.of_suffix (List.suffix_cons c rest))]
      rfl

/-- A piece that keeps to itself: a literal that holds no field and completes none, or a field that is not
    closed too early. -/
def Sound : Segment → Prop
  | literal t => Fieldless t ∧ t.head? ≠ some (.char '\x7b')
  | field body => .char '\x7d' ∉ body

theorem head?_flatMap_source {pieces : List Segment} (sound : ∀ piece ∈ pieces, Sound piece) :
    (pieces.flatMap source).head? ≠ some (.char '\x7b') := by
  induction pieces with
  | nil => simp
  | cons piece rest ih =>
      have onward := ih fun other member => sound other (List.mem_cons_of_mem _ member)
      have here := sound piece List.mem_cons_self
      cases piece with
      | literal t =>
          cases t with
          | nil => exact onward
          | cons c t => exact here.2
      | field body => simp [source, fieldText]

theorem scattered_flatMap_source {pieces : List Segment} (sound : ∀ piece ∈ pieces, Sound piece) :
    scattered (pieces.flatMap source) = pieces.flatMap scatter := by
  induction pieces with
  | nil => simp
  | cons piece rest ih =>
      have later : ∀ other ∈ rest, Sound other := fun other member => sound other (List.mem_cons_of_mem _ member)
      rw [List.flatMap_cons, List.flatMap_cons, ← ih later]
      have here := sound piece List.mem_cons_self
      cases piece with
      | literal t =>
          rw [source, scattered_append here.1.noneOpen fun _ => head?_flatMap_source later,
            scattered_of_fieldless here.1]
          rfl
      | field body =>
          rw [source, scattered_fieldText here]
          rfl

end Segment

theorem Template.render_of_pieces {σ : Type} (template : Template σ) {pieces : List Segment}
    (made : template.text = pieces.flatMap Segment.source) (sound : ∀ piece ∈ pieces, piece.Sound) (line : Line)
    (state : σ) : template.render line state = template.renderSegments line pieces state := by
  rw [render_eq_scattered, made, Segment.scattered_flatMap_source sound, renderSegments_scatter]

end LogStyle
