import LogStyle.Proofs.Text.Sequel

/-! # Splitting what is put together

Splitting a template looks ahead for the brace that ends a field, so a text that is put behind another can
change how the first is split, but only if a field is left open there. To put splits together without
counting neighbouring literals twice, literals are scattered into their characters: neither rendering nor
writing fields as directives can tell the difference.
-/

namespace LogStyle

namespace Text

theorem cut?_eq_none {c : CodePoint} {t : Text} : cut? c t = none ↔ c ∉ t := by
  induction t with
  | nil => simp [cut?]
  | cons d rest ih =>
      simp only [cut?]
      by_cases here : d = c
      · simp [here]
      · simp [here, ih, Ne.symm here]

theorem not_mem_of_cut? {c : CodePoint} {t before after : Text} (cutHere : cut? c t = some (before, after)) :
    c ∉ before := by
  induction t generalizing before after with
  | nil => simp [cut?] at cutHere
  | cons d rest ih =>
      simp only [cut?] at cutHere
      split at cutHere
      · cases cutHere
        simp
      · next other =>
          obtain ⟨⟨b, a⟩, found, parts⟩ := Option.map_eq_some_iff.1 cutHere
          simp only [Prod.mk.injEq] at parts
          rw [← parts.1, List.mem_cons, not_or]
          exact ⟨Ne.symm other, ih found⟩

theorem cut?_append {c : CodePoint} {t before after : Text} (cutHere : cut? c t = some (before, after))
    (u : Text) : cut? c (t ++ u) = some (before, after ++ u) := by
  induction t generalizing before after with
  | nil => simp [cut?] at cutHere
  | cons d rest ih =>
      simp only [cut?, List.cons_append] at cutHere ⊢
      split at cutHere
      · next here =>
          simp only [Option.some.injEq, Prod.mk.injEq] at cutHere
          simp [here, ← cutHere.1, ← cutHere.2]
      · next other =>
          obtain ⟨⟨b, a⟩, found, parts⟩ := Option.map_eq_some_iff.1 cutHere
          simp only [Prod.mk.injEq] at parts
          simp [other, ih found, ← parts.1, ← parts.2]

theorem cut?_of_not_mem {c : CodePoint} {t : Text} (absent : c ∉ t) (u : Text) :
    cut? c (t ++ c :: u) = some (t, u) := by
  induction t with
  | nil => simp [cut?]
  | cons d rest ih =>
      simp only [List.mem_cons, not_or] at absent
      simp [cut?, Ne.symm absent.1, ih absent.2]

end Text

namespace Segment

/-- A segment with its literal taken apart into characters. -/
def scatter : Segment → List Segment
  | literal t => t.map fun c => literal [c]
  | field body => [field body]

/-- The segments of a template, its literals taken apart. -/
def scattered (t : Text) : List Segment :=
  (split t).flatMap scatter

theorem field_mem_flatMap_scatter {segments : List Segment} {body : Text} :
    .field body ∈ segments.flatMap scatter ↔ .field body ∈ segments := by
  constructor
  · intro member
    obtain ⟨segment, inside, member⟩ := List.mem_flatMap.1 member
    cases segment with
    | literal t => simp [scatter] at member
    | field body' =>
        cases List.mem_singleton.1 member
        exact inside
  · exact fun member => List.mem_flatMap.2 ⟨_, member, List.mem_singleton.2 rfl⟩

theorem exists_of_literal_mem_flatMap_scatter {segments : List Segment} {u : Text}
    (member : .literal u ∈ segments.flatMap scatter) : ∃ t, .literal t ∈ segments ∧ u ⊆ t := by
  obtain ⟨segment, inside, member⟩ := List.mem_flatMap.1 member
  cases segment with
  | literal t =>
      obtain ⟨c, mem, same⟩ := List.mem_map.1 member
      cases same
      exact ⟨t, inside, by simpa using mem⟩
  | field body => simp [scatter] at member

theorem scatter_consChar (c : CodePoint) (segments : List Segment) :
    (consChar c segments).flatMap scatter = literal [c] :: segments.flatMap scatter := by
  unfold consChar
  split
  · simp [scatter]
  · simp [scatter]

theorem split_field {t body after : Text} (found : fieldBody? t = some (body, after)) :
    split (.char '$' :: t) = field body :: split after := by
  rw [split, if_pos rfl]
  split
  · next found' =>
      simp only [found, Option.some.injEq, Prod.mk.injEq] at found'
      rw [found'.1, found'.2]
  · next missing => simp [found] at missing

theorem split_dollar {t : Text} (missing : fieldBody? t = none) : split (.char '$' :: t) = consChar '$' (split t) := by
  rw [split, if_pos rfl]
  split
  · next found => simp [missing] at found
  · rfl

theorem split_cons {c : CodePoint} (plain : c ≠ '$') (t : Text) : split (c :: t) = consChar c (split t) := by
  rw [split, if_neg plain]

@[simp] theorem scattered_nil : scattered [] = [] := by
  simp [scattered, split]

theorem scattered_cons {c : CodePoint} (plain : c ≠ '$') (rest : Text) :
    scattered (c :: rest) = literal [c] :: scattered rest := by
  rw [scattered, split_cons plain, scatter_consChar, scattered]

theorem scattered_field {t body after : Text} (found : fieldBody? t = some (body, after)) :
    scattered (.char '$' :: t) = field body :: scattered after := by
  rw [scattered, split_field found]
  rfl

theorem scattered_dollar {t : Text} (missing : fieldBody? t = none) :
    scattered (.char '$' :: t) = literal [.char '$'] :: scattered t := by
  rw [scattered, split_dollar missing, scatter_consChar, scattered]

theorem scattered_fieldText {body : Text} (inner : .char '\x7d' ∉ body) (rest : Text) :
    scattered (fieldText body ++ rest) = field body :: scattered rest := by
  have found : fieldBody? (.char '\x7b' :: (body ++ .char '\x7d' :: rest)) = some (body, rest) :=
    Text.cut?_of_not_mem inner rest
  have written : fieldText body ++ rest = .char '$' :: .char '\x7b' :: (body ++ .char '\x7d' :: rest) := by
    simp [fieldText]
  rw [written, scattered_field found]

/-- No field is left open in a text: what starts one is followed by a closing brace. -/
def NoneOpen (t : Text) : Prop :=
  ∀ u, .char '$' :: .char '\x7b' :: u <:+ t → .char '\x7d' ∈ u

/-- What starts no field, or one that is closed. -/
def endsField : Text → Bool
  | .char '$' :: .char '\x7b' :: u => .char '\x7d' ∈ u
  | _ => true

theorem noneOpen_cons {c : CodePoint} {rest : Text} :
    NoneOpen (c :: rest) ↔ endsField (c :: rest) = true ∧ NoneOpen rest := by
  constructor
  · intro noneOpen
    refine ⟨?_, fun u opened => noneOpen u (opened.trans (List.suffix_cons c rest))⟩
    unfold endsField
    split
    · next u same => simpa using noneOpen u (same ▸ List.suffix_rfl)
    · rfl
  · rintro ⟨here, later⟩ u opened
    rcases List.suffix_cons_iff.1 opened with same | inner
    · rw [← same] at here
      simpa [endsField] using here
    · exact later u inner

instance instDecidableNoneOpen : (t : Text) → Decidable (NoneOpen t)
  | [] => .isTrue fun _ opened => absurd (List.suffix_nil.1 opened) (by simp)
  | _ :: rest =>
    have := instDecidableNoneOpen rest
    decidable_of_iff _ noneOpen_cons.symm

theorem NoneOpen.of_suffix {t u : Text} (noneOpen : NoneOpen t) (suffix : u <:+ t) : NoneOpen u :=
  fun v inside => noneOpen v (inside.trans suffix)

theorem noneOpen_of_close (front : Text) {back : Text} (noDollar : .char '$' ∉ back) : NoneOpen
    (front ++ .char '\x7d' :: back) := by
  have ends : .char '\x7d' :: back <:+ front ++ .char '\x7d' :: back := ⟨front, rfl⟩
  have absent : .char '$' ∉ .char '\x7d' :: back := by simp [noDollar]
  intro u opened
  rcases List.suffix_or_suffix_of_suffix opened ends with short | long
  · exact absurd (short.subset List.mem_cons_self) absent
  · simpa using long.subset List.mem_cons_self

theorem suffix_of_fieldBody? {t body after : Text} (found : fieldBody? t = some (body, after)) :
    after <:+ t := by
  unfold fieldBody? at found
  split at found
  · next inner =>
      have whole := Lexeme.append_of_cut? found
      exact ⟨.char '\x7b' :: (body ++ [.char '\x7d']), by simp [← whole]⟩
  · simp at found

theorem fieldBody?_append {t body after : Text} (found : fieldBody? t = some (body, after)) (u : Text) :
    fieldBody? (t ++ u) = some (body, after ++ u) := by
  unfold fieldBody? at found
  split at found
  · exact Text.cut?_append found u
  · simp at found

/-- Where a dollar sign starts no field, it starts none either once something stands behind the text,
    unless a field is left open or starts where the two meet. -/
theorem fieldBody?_append_of_none {t u : Text} (missing : fieldBody? t = none)
    (noneOpen : NoneOpen (.char '$' :: t)) (seam : t = [] → u.head? ≠ some (.char '\x7b')) : fieldBody? (t ++ u) = none := by
  cases t with
  | nil =>
      cases u with
      | nil => rfl
      | cons d u =>
          have other : d ≠ '\x7b' := by simpa using seam rfl
          simp [fieldBody?, other]
  | cons d rest =>
      by_cases brace : d = '\x7b'
      · subst brace
        exact absurd (noneOpen rest List.suffix_rfl) (Text.cut?_eq_none.1 missing)
      · simp [fieldBody?, brace]

/-- A text without a field that is left open is split by itself, whatever stands behind it, unless a field
    starts where the two meet. -/
theorem scattered_append {t u : Text} (noneOpen : NoneOpen t)
    (seam : t.getLast? = some (.char '$') → u.head? ≠ some (.char '\x7b')) :
    scattered (t ++ u) = scattered t ++ scattered u := by
  have last (front : Text) {rest : Text} (more : rest ≠ []) : (front ++ rest).getLast? = rest.getLast? := by
    simp [List.getLast?_append, List.getLast?_eq_some_getLast more]
  induction t using split.induct with
  | case1 => simp
  | case2 rest body after found ih =>
      have suffix := (suffix_of_fieldBody? found).trans (List.suffix_cons (.char '$') rest)
      have onward : scattered (after ++ u) = scattered after ++ scattered u := by
        refine ih (noneOpen.of_suffix suffix) fun dollar => seam ?_
        obtain ⟨front, whole⟩ := suffix
        rw [← whole, last front (by rintro rfl; simp at dollar), dollar]
      rw [List.cons_append, scattered_field (fieldBody?_append found u), scattered_field found, onward,
        List.cons_append]
  | case3 rest missing ih =>
      have onward : scattered (rest ++ u) = scattered rest ++ scattered u := by
        refine ih (noneOpen.of_suffix (List.suffix_cons (.char '$') rest)) fun dollar => seam ?_
        rw [← dollar]
        exact last [.char '$'] (by rintro rfl; simp at dollar)
      have longer : fieldBody? (rest ++ u) = none :=
        fieldBody?_append_of_none missing noneOpen fun empty => seam (by simp [empty])
      rw [List.cons_append, scattered_dollar longer, scattered_dollar missing, onward, List.cons_append]
  | case4 c rest plain ih =>
      have onward : scattered (rest ++ u) = scattered rest ++ scattered u := by
        refine ih (noneOpen.of_suffix (List.suffix_cons c rest)) fun dollar => seam ?_
        rw [← dollar]
        exact last [c] (by rintro rfl; simp at dollar)
      rw [List.cons_append, scattered_cons plain, scattered_cons plain, onward, List.cons_append]

theorem flatMap_source_consChar (c : CodePoint) (segments : List Segment) :
    (consChar c segments).flatMap source = c :: segments.flatMap source := by
  unfold consChar
  split
  · simp [source]
  · simp [source]

theorem flatMap_source_split (t : Text) : (split t).flatMap source = t := by
  induction t using split.induct with
  | case1 => simp [split]
  | case2 rest body after found ih =>
      rw [split_field found, List.flatMap_cons, ih]
      unfold fieldBody? at found
      split at found
      · rw [← Lexeme.append_of_cut? found]
        simp [source, fieldText]
      · simp at found
  | case3 rest missing ih => rw [split_dollar missing, flatMap_source_consChar, ih]
  | case4 c rest other ih => rw [split_cons other, flatMap_source_consChar, ih]

theorem flatMap_scatter (f : Segment → Text) (self : ∀ t, f (literal t) = t) (segments : List Segment) :
    (segments.flatMap scatter).flatMap f = segments.flatMap f := by
  have one : (fun segment => (scatter segment).flatMap f) = f := by
    funext segment
    cases segment with
    | literal t => simp [scatter, self, List.flatMap_map]
    | field body => simp [scatter]
  rw [List.flatMap_assoc, one]

theorem flatMap_source_scattered (t : Text) : (scattered t).flatMap source = t := by
  rw [scattered, flatMap_scatter _ fun _ => rfl, flatMap_source_split]

theorem close_not_mem_of_mem_scattered {t body : Text} (member : .field body ∈ scattered t) : .char '\x7d' ∉ body := by
  induction t using split.induct with
  | case1 => simp at member
  | case2 rest body' after found ih =>
      rw [scattered_field found] at member
      rcases List.mem_cons.1 member with here | later
      · cases here
        unfold fieldBody? at found
        split at found
        · exact Text.not_mem_of_cut? found
        · simp at found
      · exact ih later
  | case3 rest missing ih =>
      rw [scattered_dollar missing] at member
      exact ih (by simpa using member)
  | case4 c rest other ih =>
      rw [scattered_cons other] at member
      exact ih (by simpa using member)

/-- Characters that stand for themselves. -/
def plain (t : Text) : List Segment :=
  t.map fun c => literal [c]

theorem scattered_of_not_mem {t : Text} (absent : .char '\x7d' ∉ t) : scattered t = plain t := by
  induction t using split.induct with
  | case1 => simp [plain]
  | case2 rest body after found ih =>
      unfold fieldBody? at found
      split at found
      · have inside : .char '\x7d' ∈ body ++ .char '\x7d' :: after := by simp
        rw [Lexeme.append_of_cut? found] at inside
        exact absurd (List.mem_cons_of_mem _ (List.mem_cons_of_mem _ inside)) absent
      · simp at found
  | case3 rest missing ih =>
      rw [scattered_dollar missing, ih (fun inside => absent (List.mem_cons_of_mem _ inside))]
      rfl
  | case4 c rest other ih =>
      rw [scattered_cons other, ih (fun inside => absent (List.mem_cons_of_mem _ inside))]
      rfl

theorem scattered_append_plain (t : Text) {u : Text} (absent : .char '\x7d' ∉ u) :
    scattered (t ++ u) = scattered t ++ plain u := by
  induction t using split.induct with
  | case1 => simp [scattered_of_not_mem absent]
  | case2 rest body after found ih =>
      rw [List.cons_append, scattered_field (fieldBody?_append found u), scattered_field found, ih,
        List.cons_append]
  | case3 rest missing ih =>
      have longer : fieldBody? (rest ++ u) = none := by
        unfold fieldBody?
        split
        · next inner whole =>
            rw [Text.cut?_eq_none]
            intro later
            cases rest with
            | nil =>
                rw [List.nil_append] at whole
                exact absent (whole ▸ List.mem_cons_of_mem _ later)
            | cons d rest =>
                obtain ⟨rfl, rfl⟩ := List.cons.inj whole
                rcases List.mem_append.1 later with early | late
                · exact Text.cut?_eq_none.1 missing early
                · exact absent late
        · rfl
      rw [List.cons_append, scattered_dollar longer, scattered_dollar missing, ih, List.cons_append]
  | case4 c rest other ih =>
      rw [List.cons_append, scattered_cons other, scattered_cons other, ih, List.cons_append]

theorem exists_scattered_of_open {t u : Text} (opened : .char '$' :: .char '\x7b' :: u <:+ t)
    (unclosed : .char '\x7d' ∉ u) :
    ∃ front, scattered t = front ++ plain (.char '$' :: .char '\x7b' :: u) := by
  have absent : .char '\x7d' ∉ .char '$' :: .char '\x7b' :: u := by simpa using unclosed
  induction t using split.induct with
  | case1 => exact absurd (List.suffix_nil.1 opened) (by simp)
  | case2 rest body after found ih =>
      unfold fieldBody? at found
      split at found
      · next inner =>
          have whole := Lexeme.append_of_cut? found
          have ends : .char '\x7d' :: after <:+ .char '$' :: .char '\x7b' :: inner :=
            ⟨.char '$' :: .char '\x7b' :: body, by simp [← whole]⟩
          have behind : .char '$' :: .char '\x7b' :: u <:+ after := by
            rcases List.suffix_or_suffix_of_suffix opened ends with short | long
            · rcases List.suffix_cons_iff.1 short with same | inside
              · exact absurd (same ▸ List.mem_cons_self) absent
              · exact inside
            · exact absurd (long.subset List.mem_cons_self) absent
          obtain ⟨front, split⟩ := ih behind
          exact ⟨field body :: front, by rw [scattered_field (by simpa [fieldBody?] using found), split]; rfl⟩
      · simp at found
  | case3 rest missing ih =>
      rcases List.suffix_cons_iff.1 opened with same | inner
      · rw [same] at absent
        exact ⟨[], by rw [scattered_of_not_mem absent, same]; rfl⟩
      · obtain ⟨front, split⟩ := ih inner
        exact ⟨literal [.char '$'] :: front, by rw [scattered_dollar missing, split]; rfl⟩
  | case4 c rest other ih =>
      rcases List.suffix_cons_iff.1 opened with same | inner
      · exact absurd (List.head_eq_of_cons_eq same).symm other
      · obtain ⟨front, split⟩ := ih inner
        exact ⟨literal [c] :: front, by rw [scattered_cons other, split]; rfl⟩

end Segment

theorem Text.fieldsAsDirectives_eq (format : Text) :
    format.fieldsAsDirectives = (Segment.scattered format).flatMap Segment.directive :=
  (Segment.flatMap_scatter _ (fun _ => rfl) _).symm

theorem Text.fieldsAsDirectives_cons {c : CodePoint} (plain : c ≠ '$') (t : Text) :
    Text.fieldsAsDirectives (c :: t) = c :: t.fieldsAsDirectives := by
  simp only [Text.fieldsAsDirectives_eq, Segment.scattered_cons plain, List.flatMap_cons, Segment.directive,
    List.singleton_append]

theorem Text.fieldsAsDirectives_dollar {t : Text} (missing : Segment.fieldBody? t = none) :
    Text.fieldsAsDirectives (.char '$' :: t) = .char '$' :: t.fieldsAsDirectives := by
  simp only [Text.fieldsAsDirectives_eq, Segment.scattered_dollar missing, List.flatMap_cons, Segment.directive,
    List.singleton_append]

theorem Text.fieldsAsDirectives_field {t body after : Text} (found : Segment.fieldBody? t = some (body, after)) :
    Text.fieldsAsDirectives (.char '$' :: t) = (Segment.field body).directive ++ after.fieldsAsDirectives := by
  simp only [Text.fieldsAsDirectives_eq, Segment.scattered_field found, List.flatMap_cons]

theorem Text.fieldsAsDirectives_plain_append {front : Text} (noDollar : .char '$' ∉ front) (t : Text) :
    Text.fieldsAsDirectives (front ++ t) = front ++ t.fieldsAsDirectives := by
  induction front with
  | nil => rfl
  | cons c front ih =>
      simp only [List.mem_cons, not_or] at noDollar
      rw [List.cons_append, Text.fieldsAsDirectives_cons (Ne.symm noDollar.1), ih noDollar.2, List.cons_append]

theorem Text.fieldsAsDirectives_append {t u : Text} (noneOpen : Segment.NoneOpen t)
    (seam : t.getLast? = some (.char '$') → u.head? ≠ some (.char '\x7b')) :
    Text.fieldsAsDirectives (t ++ u) = t.fieldsAsDirectives ++ u.fieldsAsDirectives := by
  simp only [Text.fieldsAsDirectives_eq, Segment.scattered_append noneOpen seam, List.flatMap_append]

theorem Segment.flatMap_directive_plain (t : Text) : (Segment.plain t).flatMap Segment.directive = t := by
  induction t with
  | nil => rfl
  | cons c t ih => simpa [Segment.plain, Segment.directive] using ih

namespace Template

variable {σ : Type} (template : Template σ) (line : Line)

theorem renderSegments_append (front back : List Segment) (state : σ) :
    template.renderSegments line (front ++ back) state =
      Sequel.andThen (template.renderSegments line front state) (template.renderSegments line back) := by
  induction front generalizing state with
  | nil => simp [renderSegments]
  | cons segment rest ih =>
      rw [List.cons_append, renderSegments_cons, renderSegments_cons, Sequel.andThen_assoc]
      exact congrArg _ (funext ih)

theorem renderSegments_plain (t : Text) (state : σ) :
    template.renderSegments line (Segment.plain t) state = (.ok t, state) := by
  induction t with
  | nil => rfl
  | cons c rest ih =>
      have first : Segment.plain (c :: rest) = .literal [c] :: Segment.plain rest := rfl
      rw [first, renderSegments_cons, renderSegment, Sequel.andThen_ok, ih]
      rfl

theorem renderSegments_scatter (segments : List Segment) (state : σ) :
    template.renderSegments line (segments.flatMap Segment.scatter) state =
      template.renderSegments line segments state := by
  induction segments generalizing state with
  | nil => rfl
  | cons segment rest ih =>
      have alone : template.renderSegments line segment.scatter state =
          template.renderSegment line segment state := by
        cases segment with
        | literal t => exact renderSegments_plain template line t state
        | field body =>
            rw [Segment.scatter, renderSegments_cons]
            exact Sequel.andThen_done _
      rw [List.flatMap_cons, renderSegments_append, alone, renderSegments_cons]
      exact congrArg _ (funext ih)

theorem render_eq_scattered (state : σ) :
    template.render line state = template.renderSegments line (Segment.scattered template.text) state :=
  (renderSegments_scatter template line _ state).symm

end Template

end LogStyle
