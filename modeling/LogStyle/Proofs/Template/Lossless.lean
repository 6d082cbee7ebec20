import LogStyle.Proofs.Template.Slot
import Mathlib.Data.List.Induction

/-! # Templates and their segments

The segments of a template say all there is about it: written one after the other they are the template, and literals
are as long as can be. So templates can be put together segment by segment, provided the first leaves no field open:
where two literals meet they become one, and nothing else changes.
-/

namespace LogStyle

namespace Segment

/-- Segments behind segments. Where two literals meet they become one. -/
def meet : List Segment → List Segment → List Segment
  | [], back => back
  | [literal t], literal u :: back => literal (t ++ u) :: back
  | segment :: front, back => segment :: meet front back

/-- What stands behind the last field after a segment, given what stood there before it. -/
def passBehind (behind : Text) : Segment → Text
  | literal t => behind ++ t
  | field _ => []

/-- What is written behind the last field. -/
def behindFields (segments : List Segment) : Text :=
  segments.foldl passBehind []

/-- How segments divide a template. -/
structure Divides (t : Text) (segments : List Segment) : Prop where
  whole : segments.flatMap source = t
  nonempty : literal [] ∉ segments
  apart : ∀ u v, ¬ [literal u, literal v] <:+: segments
  fieldless : ∀ u, literal u ∈ segments → ∀ body, ¬ fieldText body <:+: u
  /-- A body ends at the first closing brace, and its name at the first colon. -/
  bodies : ∀ body, field body ∈ segments →
    (field body).source = "$\x7b" ++ body ++ "\x7d" ∧ .char '\x7d' ∉ body ∧
      ∀ name value, nameAndValue body = (name, value) →
        .char ':' ∉ name ∧ (body = name ++ .char ':' :: value ∨ body = name ∧ value = [])

/-! ## Literals -/

theorem literal_nil_not_mem_consChar (c : CodePoint) {segments : List Segment} (nonempty : literal [] ∉ segments) :
    literal [] ∉ consChar c segments := by
  unfold consChar
  split
  · next t rest =>
      simp only [List.mem_cons, not_or] at nonempty
      simp [nonempty.2]
  · simp [nonempty]

theorem literal_nil_not_mem_split (t : Text) : literal [] ∉ split t := by
  induction t using split.induct with
  | case1 => simp [split]
  | case2 rest body after found ih => simp [split_field found, ih]
  | case3 rest missing ih =>
      rw [split_dollar missing]
      exact literal_nil_not_mem_consChar '$' ih
  | case4 c rest other ih =>
      rw [split_cons other]
      exact literal_nil_not_mem_consChar c ih

theorem Sparse.apart {segments : List Segment} (sparse : Sparse segments) (u v : Text) :
    ¬ [literal u, literal v] <:+: segments := by
  induction segments with
  | nil => simp
  | cons segment rest ih =>
      have later : Sparse rest := by
        cases segment with
        | literal t => exact sparse.2
        | field body => exact sparse
      intro inside
      rcases List.infix_cons_iff.1 inside with ⟨more, same⟩ | behind
      · obtain ⟨rfl, rfl⟩ := List.cons.inj same
        exact sparse.1 v rfl
      · exact ih later behind

theorem fieldBody?_ne_none {body t rest : Text} (written : fieldText body <+: .char '$' :: t) :
    fieldBody? (t ++ rest) ≠ none := by
  obtain ⟨after, whole⟩ := written
  obtain ⟨-, same⟩ := List.cons.inj whole
  rw [← same]
  simp [fieldBody?, Text.cut?_eq_none]

theorem fieldless_consChar {c : CodePoint} {segments : List Segment} {u body : Text}
    (starts : c = '$' → fieldBody? (segments.flatMap source) = none)
    (fieldless : ∀ t, literal t ∈ segments → ¬ fieldText body <:+: t) (member : literal u ∈ consChar c segments) :
    ¬ fieldText body <:+: u := by
  have first (t more : Text) (whole : segments.flatMap source = t ++ more) (absent : ¬ fieldText body <:+: t) :
      ¬ fieldText body <:+: c :: t := by
    intro inside
    rcases List.infix_cons_iff.1 inside with ⟨after, same⟩ | later
    · obtain rfl : '$' = c := (List.cons.inj same).1
      rw [whole] at starts
      exact fieldBody?_ne_none ⟨after, same⟩ (starts rfl)
    · exact absent later
  unfold consChar at member
  split at member
  · next t rest =>
      rcases List.mem_cons.1 member with here | later
      · rw [literal.inj here]
        exact first t (rest.flatMap source) rfl (fieldless t List.mem_cons_self)
      · exact fieldless u (List.mem_cons_of_mem _ later)
  · rcases List.mem_cons.1 member with here | later
    · rw [literal.inj here]
      exact first [] _ rfl (by simp [fieldText])
    · exact fieldless u later

theorem fieldless_split {t u : Text} (member : literal u ∈ split t) (body : Text) : ¬ fieldText body <:+: u := by
  induction t using split.induct generalizing u with
  | case1 => simp [split] at member
  | case2 rest body' after found ih =>
      rw [split_field found] at member
      exact ih (by simpa using member)
  | case3 rest missing ih =>
      rw [split_dollar missing] at member
      exact fieldless_consChar (fun _ => by rwa [flatMap_source_split]) (fun t inside => ih inside) member
  | case4 c rest other ih =>
      rw [split_cons other] at member
      exact fieldless_consChar (fun same => absurd same other) (fun t inside => ih inside) member

theorem close_not_mem_of_mem_split {t body : Text} (member : field body ∈ split t) : .char '\x7d' ∉ body :=
  close_not_mem_of_mem_scattered (field_mem_flatMap_scatter.2 member)

theorem nameAndValue_eq {body name value : Text} (parts : nameAndValue body = (name, value)) :
    .char ':' ∉ name ∧ (body = name ++ .char ':' :: value ∨ body = name ∧ value = []) := by
  unfold nameAndValue Text.cut at parts
  cases found : Text.cut? ':' body with
  | none =>
      rw [found] at parts
      obtain ⟨rfl, rfl⟩ := Prod.mk.inj parts
      exact ⟨Text.cut?_eq_none.1 found, .inr ⟨rfl, rfl⟩⟩
  | some cutParts =>
      rw [found] at parts
      obtain rfl : cutParts = (name, value) := parts
      exact ⟨Text.not_mem_of_cut? found, .inl (Lexeme.append_of_cut? found).symm⟩

/-! ## Templates behind templates -/

@[simp] theorem meet_nil (front : List Segment) : meet front [] = front := by
  induction front with
  | nil => rfl
  | cons segment front ih => cases segment <;> cases front <;> simp_all [meet]

theorem consChar_meet (c : CodePoint) (front back : List Segment) :
    consChar c (meet front back) = meet (consChar c front) back := by
  match front, back with
  | [], [] => rfl
  | [], literal u :: back => rfl
  | [], field body :: back => rfl
  | [literal t], [] => rfl
  | [literal t], literal u :: back => rfl
  | [literal t], field body :: back => rfl
  | literal t :: second :: front, back => rfl
  | field body :: front, back => rfl

/-- Put a segment in front of others, a literal character by character. -/
def onto : Segment → List Segment → List Segment
  | literal t, back => t.foldr consChar back
  | field body, back => field body :: back

theorem foldr_onto_scattered (t : Text) (back : List Segment) :
    (scattered t).foldr onto back = meet (split t) back := by
  induction t using split.induct with
  | case1 => simp [split, meet]
  | case2 rest body after found ih =>
      rw [scattered_field found, split_field found, List.foldr_cons, ih]
      rfl
  | case3 rest missing ih =>
      rw [scattered_dollar missing, split_dollar missing, List.foldr_cons, ih, ← consChar_meet]
      rfl
  | case4 c rest other ih =>
      rw [scattered_cons other, split_cons other, List.foldr_cons, ih, ← consChar_meet]
      rfl

theorem split_append {t u : Text} (noneOpen : NoneOpen t)
    (seam : t.getLast? = some (.char '$') → u.head? ≠ some (.char '\x7b')) :
    split (t ++ u) = meet (split t) (split u) := by
  calc split (t ++ u)
      = (scattered (t ++ u)).foldr onto [] := by rw [foldr_onto_scattered, meet_nil]
    _ = (scattered t).foldr onto ((scattered u).foldr onto []) := by rw [scattered_append noneOpen seam, List.foldr_append]
    _ = meet (split t) (split u) := by rw [foldr_onto_scattered, foldr_onto_scattered, meet_nil]

theorem foldl_passBehind_scatter (behind : Text) (segment : Segment) :
    segment.scatter.foldl passBehind behind = passBehind behind segment := by
  cases segment with
  | field body => rfl
  | literal t =>
      induction t generalizing behind with
      | nil => simp [scatter, passBehind]
      | cons c t ih =>
          rw [scatter, List.map_cons, List.foldl_cons]
          exact (ih (behind ++ [c])).trans (by simp [passBehind])

theorem behindFields_scattered (t : Text) : behindFields (scattered t) = behindFields (split t) := by
  unfold behindFields scattered
  rw [List.foldl_flatMap]
  congr
  funext behind segment
  exact foldl_passBehind_scatter behind segment

theorem noneOpen_of_behindFields {t : Text} (closed : ¬ [.char '$', .char '\x7b'] <:+: behindFields (split t)) :
    NoneOpen t := by
  intro u opened
  by_contra unclosed
  obtain ⟨front, parts⟩ := exists_scattered_of_open opened unclosed
  have behind : behindFields (split t) = behindFields front ++ .char '$' :: .char '\x7b' :: u := by
    rw [← behindFields_scattered, parts, behindFields, List.foldl_append]
    exact foldl_passBehind_scatter _ (literal (.char '$' :: .char '\x7b' :: u))
  exact closed ⟨behindFields front, u, by rw [behind]; simp⟩

theorem exists_flatMap_source_eq (segments : List Segment) :
    ∃ front, segments.flatMap source = front ++ behindFields segments ∧ front.getLast? ≠ some (.char '$') := by
  induction segments using List.reverseRecOn with
  | nil => exact ⟨[], rfl, by simp⟩
  | append_singleton segments last ih =>
      obtain ⟨front, whole, ends⟩ := ih
      rw [List.flatMap_append, List.flatMap_singleton, behindFields, List.foldl_append]
      cases last with
      | literal t => exact ⟨front, by rw [whole, List.append_assoc]; rfl, ends⟩
      | field body =>
          refine ⟨segments.flatMap source ++ fieldText body, (List.append_nil _).symm, ?_⟩
          simp [fieldText, List.getLast?_append, List.getLast?_cons]

theorem getLast?_behindFields {t : Text} (dollar : t.getLast? = some (.char '$')) :
    (behindFields (split t)).getLast? = some (.char '$') := by
  obtain ⟨front, whole, ends⟩ := exists_flatMap_source_eq (split t)
  rw [flatMap_source_split] at whole
  rw [whole, List.getLast?_append] at dollar
  cases last : (behindFields (split t)).getLast? with
  | none => exact absurd (by simpa [last] using dollar) ends
  | some c => simpa [last] using dollar

/-- The segments of a template written out are the template. Literals are as long as can be, and hold no fields;
    fields are written between braces around a body that goes up to the first closing brace. What is put behind a
    template is split by itself, if what is written behind its last field neither starts one nor ends with the
    dollar sign of one, and then a literal at its end and one at the start of the other become one. -/
theorem divides_split (t : Text) :
    Divides t (split t) ∧
      ∀ u, ¬ [.char '$', .char '\x7b'] <:+: behindFields (split t) → (behindFields (split t)).getLast? ≠ some (.char '$') →
        split (t ++ u) = meet (split t) (split u) := by
  refine ⟨?_, fun u closed seam => ?_⟩
  · exact {
      whole := flatMap_source_split t
      nonempty := literal_nil_not_mem_split t
      apart := (sparse_split t).apart
      fieldless := fun u => fieldless_split
      bodies := fun body member => ⟨rfl, close_not_mem_of_mem_split member, fun name value => nameAndValue_eq⟩
    }
  · exact split_append (noneOpen_of_behindFields closed) fun dollar => absurd (getLast?_behindFields dollar) seam

/-- A body may hold what starts a field, and a dollar sign in front of other text starts none. -/
theorem split_append_of_literals :
    let t : Text := "a $\x7bx:$\x7b:\x7d$ b"
    let u : Text := "\x7bc$\x7b\x7d"
    behindFields (split t) = "$ b" ∧ split t = [.literal "a ", .field "x:$\x7b:", .literal "$ b"] ∧
      split (t ++ u) = [.literal "a ", .field "x:$\x7b:", .literal "$ b\x7bc", .field []] := by
  intro t u
  have parts : split t = [.literal "a ", .field "x:$\x7b:", .literal "$ b"] := by decide +kernel
  have more : split u = [.literal "\x7bc", .field []] := by decide +kernel
  have behind : behindFields (split t) = "$ b" := by rw [parts]; rfl
  refine ⟨behind, parts, ?_⟩
  rw [(divides_split t).2 u (by rw [behind]; decide) (by rw [behind]; decide), parts, more]
  rfl

end Segment

end LogStyle
