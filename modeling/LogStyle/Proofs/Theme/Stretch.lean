import LogStyle.Proofs.Formatter.Reset
import LogStyle.Proofs.Template.Parts
import LogStyle.Proofs.Text.Neighbours
import LogStyle.Theme.Basic

/-! # Stretches of a format

A theme styles the fields of the level, each with the blanks around it. They cut a format into stretches, and
the theme puts its directives between these. Whether that is safe depends on the stretches alone: each of them
must be closed, so that it makes up no field with what is put behind it.
-/

namespace LogStyle

namespace Theme

/-- A field of the level with the blanks around it, or what stands between two of those. -/
inductive Stretch where
  | between (t : Text)
  | label (t : Text)
  deriving Repr, DecidableEq

namespace Stretch

def text : Stretch → Text
  | between t | label t => t

def isLabel : Stretch → Bool
  | between _ => false
  | label _ => true

def consChar (c : CodePoint) : List Stretch → List Stretch
  | between t :: rest => between (c :: t) :: rest
  | stretches => between [c] :: stretches

/-- A stretch with something put before and after it, if it is a field of the level. -/
def wrapped (before after : Text) : Stretch → Text
  | between t => t
  | label t => before ++ t ++ after

theorem flatMap_consChar (f : Stretch → Text) (c : CodePoint) (plain : ∀ t, f (between t) = t)
    (stretches : List Stretch) :
    (consChar c stretches).flatMap f = c :: stretches.flatMap f := by
  unfold consChar
  split
  · simp [plain]
  · simp [plain]

end Stretch

/-- The stretches of a format. -/
def stretches (t : Text) : List Stretch :=
  match t with
  | [] => []
  | c :: rest =>
    match _h : label? (c :: rest) with
    | some (matched, left) => .label matched :: stretches left
    | none => Stretch.consChar c (stretches rest)
termination_by t.length
decreasing_by
  · exact length_lt_of_label? _h
  · exact Nat.lt_succ_self _

/-- The number of fields of the level in a format. -/
def labelCount (t : Text) : Nat :=
  (stretches t).countP Stretch.isLabel

theorem stretches_label {c : CodePoint} {rest matched left : Text} (found : label? (c :: rest) = some (matched, left)) :
    stretches (c :: rest) = .label matched :: stretches left := by
  rw [stretches]
  split
  · next found' =>
      rw [found] at found'
      cases found'
      rfl
  · next missing => simp [found] at missing

theorem stretches_char {c : CodePoint} {rest : Text} (missing : label? (c :: rest) = none) :
    stretches (c :: rest) = Stretch.consChar c (stretches rest) := by
  rw [stretches]
  split
  · next found => simp [missing] at found
  · rfl

theorem wrapLabels_eq (before after t : Text) :
    wrapLabels before after t = (stretches t).flatMap (Stretch.wrapped before after) := by
  induction t using stretches.induct with
  | case1 => simp [wrapLabels, stretches]
  | case2 c rest matched left found ih =>
      rw [stretches_label found, wrapLabels]
      split
      · next found' =>
          rw [found] at found'
          cases found'
          rw [ih, List.flatMap_cons]
          rfl
      · next missing => simp [found] at missing
  | case3 c rest missing ih =>
      rw [stretches_char missing, wrapLabels, Stretch.flatMap_consChar _ _ fun _ => rfl]
      split
      · next found => simp [missing] at found
      · rw [ih]

theorem labelStart_eq : labelStart = .char '$' :: .char '\x7b' :: ("level" : Text) := rfl

/-- A field of the level, with any value, and blanks around it. -/
def IsLabel (t : Text) : Prop :=
  ∃ front value back, t = front ++ Segment.fieldText ("level" ++ value) ++ back ∧
    (∀ c ∈ front, isBlank c = true) ∧ .char '\x7d' ∉ value ∧ ∀ c ∈ back, isBlank c = true

theorem label?_append {front value back left : Text} (before : ∀ c ∈ front, isBlank c = true)
    (inner : .char '\x7d' ∉ value) (behind : ∀ c ∈ back, isBlank c = true) (ends : Text.Stops isBlank left) :
    label? (front ++ Segment.fieldText ("level" ++ value) ++ back ++ left) =
      some (front ++ Segment.fieldText ("level" ++ value) ++ back, left) := by
  have spelled : Segment.fieldText ("level" ++ value) = labelStart ++ value ++ "\x7d" := by
    rw [labelStart_eq, Segment.fieldText]
    simp
  have starts : ∀ u : Text, (labelStart ++ u).takeWhile isBlank = [] ∧ (labelStart ++ u).dropWhile isBlank = labelStart ++ u :=
    fun u => ⟨rfl, rfl⟩
  have whole : front ++ Segment.fieldText ("level" ++ value) ++ back ++ left =
      front ++ (labelStart ++ (value ++ .char '\x7d' :: (back ++ left))) := by
    rw [spelled]
    simp
  have stops : left.takeWhile isBlank = [] ∧ left.dropWhile isBlank = left := by
    cases left with
    | nil => exact ⟨rfl, rfl⟩
    | cons c left => simp [ends c rfl]
  rw [whole, label?, List.dropWhile_append_of_pos before, List.takeWhile_append_of_pos before, (starts _).1, (starts _).2,
    Text.dropLead?_append]
  simp only [Text.cut?_of_not_mem inner, Option.map_some, List.append_nil, List.takeWhile_append_of_pos behind,
    List.dropWhile_append_of_pos behind, stops, spelled, List.append_assoc]

theorem label?_eq_some_iff {t matched left : Text} :
    label? t = some (matched, left) ↔ IsLabel matched ∧ matched ++ left = t ∧ Text.Stops isBlank left := by
  constructor
  · intro found
    unfold label? at found
    split at found
    · cases found
    · next rest dropped =>
        obtain ⟨⟨value, after⟩, cut, parts⟩ := Option.map_eq_some_iff.1 found
        simp only [Prod.mk.injEq] at parts
        refine ⟨⟨t.takeWhile isBlank, value, after.takeWhile isBlank, ?_, fun c => List.mem_takeWhile_imp,
          Text.not_mem_of_cut? cut, fun c => List.mem_takeWhile_imp⟩, ?_, ?_⟩
        · rw [← parts.1, labelStart_eq]
          simp only [Segment.fieldText, List.append_assoc, List.cons_append]
          rfl
        · have start : labelStart ++ value ++ "\x7d" ++ after = t.dropWhile isBlank := by
            rw [← Text.append_of_dropLead? dropped, ← Lexeme.append_of_cut? cut]
            simp only [List.append_assoc]
            rfl
          calc matched ++ left
            _ = t.takeWhile isBlank ++ labelStart ++ value ++ "\x7d" ++
                  (after.takeWhile isBlank ++ after.dropWhile isBlank) := by
                rw [← parts.1, ← parts.2, List.append_assoc]
            _ = t.takeWhile isBlank ++ (labelStart ++ value ++ "\x7d" ++ after) := by
                rw [List.takeWhile_append_dropWhile]
                simp only [List.append_assoc]
            _ = t := by rw [start, List.takeWhile_append_dropWhile]
        · rw [← parts.2]
          exact Text.stops_dropWhile isBlank after
  · rintro ⟨⟨front, value, back, rfl, before, inner, behind⟩, rfl, ends⟩
    exact label?_append before inner behind ends

/-- None is found exactly if the text does not begin with one. -/
theorem label?_eq_none_iff {t : Text} : label? t = none ↔ ∀ matched left, IsLabel matched → matched ++ left ≠ t := by
  constructor
  · rintro missing _ left ⟨front, value, back, rfl, before, inner, behind⟩ rfl
    -- The blanks in front of what is left belong to the field too.
    have wider : ∀ c ∈ back ++ left.takeWhile isBlank, isBlank c = true := by
      intro c member
      rcases List.mem_append.1 member with own | more
      · exact behind c own
      · exact List.mem_takeWhile_imp more
    have found := label?_append before inner wider (Text.stops_dropWhile isBlank left)
    rw [← List.append_assoc, List.append_assoc _ (left.takeWhile isBlank), List.takeWhile_append_dropWhile, missing] at found
    cases found
  · intro none
    cases found : label? t with
    | none => rfl
    | some parts =>
        obtain ⟨label, whole, -⟩ := label?_eq_some_iff.1 (show label? t = some (parts.1, parts.2) from found)
        exact absurd whole (none parts.1 parts.2 label)

theorem flatMap_text_stretches (t : Text) : (stretches t).flatMap Stretch.text = t := by
  induction t using stretches.induct with
  | case1 => simp [stretches]
  | case2 c rest matched left found ih =>
      obtain ⟨-, whole, -⟩ := label?_eq_some_iff.1 found
      rw [stretches_label found, List.flatMap_cons, ih]
      exact whole
  | case3 c rest missing ih => rw [stretches_char missing, Stretch.flatMap_consChar _ _ fun _ => rfl, ih]

end Theme

namespace Segment

theorem closed_of_close (front : Text) {back : Text} (noDollar : .char '$' ∉ back) : Closed
    (front ++ .char '\x7d' :: back) := by
  constructor
  · exact noneOpen_of_close front noDollar
  · intro last
    rw [List.getLast?_append, List.getLast?_cons, Option.some_or, Option.some.injEq] at last
    cases more : back.getLast? with
    | none => simp [more] at last
    | some c =>
        rw [more, Option.getD_some] at last
        exact noDollar (last ▸ List.mem_of_getLast? more)

theorem Closed.cons {c : CodePoint} (other : c ≠ '$') {t : Text} (closed : Closed t) : Closed (c :: t) := by
  constructor
  · rw [noneOpen_cons]
    refine ⟨?_, closed.1⟩
    unfold endsField
    split
    · next same => exact absurd (List.head_eq_of_cons_eq same) other
    · rfl
  · intro last
    rw [List.getLast?_cons, Option.some.injEq] at last
    cases more : t.getLast? with
    | none => simp [more, other] at last
    | some d =>
        rw [more, Option.getD_some] at last
        exact closed.2 (last ▸ more)

/-- A text in which every dollar sign starts a field that is closed before the next dollar sign. -/
def Tidy (t : Text) : Prop :=
  ∀ u, .char '$' :: u <:+ t → ∃ body after, u = .char '\x7b' :: (body ++ .char '\x7d' :: after) ∧ .char '$' ∉ body

theorem Tidy.of_suffix {t u : Text} (tidy : Tidy t) (suffix : u <:+ t) : Tidy u :=
  fun v inside => tidy v (inside.trans suffix)

theorem tidy_append {t u : Text} (noDollar : .char '$' ∉ t) (tidy : Tidy u) : Tidy (t ++ u) := by
  induction t with
  | nil => exact tidy
  | cons c t ih =>
      simp only [List.mem_cons, not_or] at noDollar
      intro v inside
      rcases List.suffix_cons_iff.1 inside with same | later
      · exact absurd (List.head_eq_of_cons_eq same) noDollar.1
      · exact ih noDollar.2 v later

theorem tidy_fieldText {body u : Text} (noDollar : .char '$' ∉ body) (tidy : Tidy u) : Tidy (fieldText body ++ u) := by
  have source : fieldText body ++ u = .char '$' :: (.char '\x7b' :: (body ++ [.char '\x7d']) ++ u) := by simp [fieldText]
  rw [source]
  intro v inside
  rcases List.suffix_cons_iff.1 inside with same | later
  · exact ⟨body, u, by simpa using List.tail_eq_of_cons_eq same, noDollar⟩
  · exact tidy_append (by simp [noDollar]) tidy v later

end Segment

namespace Theme

theorem closed_of_label? {t matched left : Text} (found : label? t = some (matched, left)) :
    Segment.Closed matched := by
  obtain ⟨⟨front, value, back, rfl, -, -, blank⟩, -, -⟩ := label?_eq_some_iff.1 found
  have noDollar : .char '$' ∉ back := fun member => absurd (blank _ member) (by decide)
  have shape : front ++ Segment.fieldText ("level" ++ value) ++ back =
      front ++ .char '$' :: .char '\x7b' :: (("level" : Text) ++ value) ++ .char '\x7d' :: back := by
    simp only [Segment.fieldText, List.append_assoc, List.cons_append, List.nil_append]
  rw [shape]
  exact Segment.closed_of_close _ noDollar

theorem label?_of_not_mem {body : Text} (noDollar : .char '$' ∉ body) (after : Text) :
    label? (body ++ .char '\x7d' :: after) = none := by
  have blank : isBlank '\x7d' = false := by decide
  have dropped : (body ++ .char '\x7d' :: after).dropWhile isBlank = body.dropWhile isBlank ++ .char '\x7d' :: after := by
    rw [List.dropWhile_append]
    split
    · next empty => rw [List.isEmpty_iff.1 empty, List.dropWhile_cons_of_neg (by simp [blank]), List.nil_append]
    · rfl
  have lead : Text.dropLead? labelStart (body.dropWhile isBlank ++ .char '\x7d' :: after) = none := by
    cases left : body.dropWhile isBlank with
    | nil => rfl
    | cons d rest =>
        have other : '$' ≠ d := by
          rintro rfl
          exact noDollar ((List.dropWhile_suffix isBlank).subset (left ▸ List.mem_cons_self))
        rw [labelStart_eq, List.cons_append, Text.dropLead?, if_neg other]
  rw [label?, dropped, lead]

theorem exists_between {body : Text} (noDollar : .char '$' ∉ body) (after : Text) :
    ∃ w more, stretches (body ++ .char '\x7d' :: after) = .between (body ++ .char '\x7d' :: w) :: more := by
  induction body with
  | nil =>
      rw [List.nil_append, stretches_char (label?_of_not_mem noDollar after)]
      unfold Stretch.consChar
      split
      · exact ⟨_, _, rfl⟩
      · exact ⟨[], _, rfl⟩
  | cons c body ih =>
      obtain ⟨w, more, split⟩ := ih fun member => noDollar (List.mem_cons_of_mem _ member)
      have missing : label? (c :: (body ++ .char '\x7d' :: after)) = none := label?_of_not_mem noDollar after
      refine ⟨w, more, ?_⟩
      rw [List.cons_append, stretches_char missing, split]
      rfl

theorem closed_of_mem_stretches {t : Text} (tidy : Segment.Tidy t) :
    ∀ stretch ∈ stretches t, Segment.Closed stretch.text := by
  induction t using stretches.induct with
  | case1 => simp [stretches]
  | case2 c rest matched left found ih =>
      obtain ⟨-, whole, -⟩ := label?_eq_some_iff.1 found
      rw [stretches_label found]
      rintro stretch (_ | ⟨_, member⟩)
      · exact closed_of_label? found
      · exact ih (tidy.of_suffix ⟨matched, whole⟩) stretch member
  | case3 c rest missing ih =>
      have closed := ih (tidy.of_suffix (List.suffix_cons c rest))
      rw [stretches_char missing]
      by_cases dollar : c = '$'
      · -- The field that starts here lies in one stretch, up to its closing brace.
        subst dollar
        obtain ⟨body, after, rfl, noDollar⟩ := tidy rest List.suffix_rfl
        have inner : .char '$' ∉ .char '\x7b' :: body := by simp [noDollar]
        obtain ⟨w, more, split⟩ := exists_between inner after
        rw [List.cons_append] at split
        rw [split] at closed ⊢
        rintro stretch (_ | ⟨_, member⟩)
        · obtain ⟨noneOpen, last⟩ := closed _ List.mem_cons_self
          constructor
          · refine Segment.noneOpen_cons.2 ⟨?_, noneOpen⟩
            simp [Segment.endsField]
          · exact last
        · exact closed stretch (List.mem_cons_of_mem _ member)
      · unfold Stretch.consChar
        split
        · next u more split =>
            rw [split] at closed
            rintro stretch (_ | ⟨_, member⟩)
            · exact (closed _ List.mem_cons_self).cons dollar
            · exact closed stretch (List.mem_cons_of_mem _ member)
        · rintro stretch (_ | ⟨_, member⟩)
          · exact Segment.Closed.cons dollar (by decide)
          · exact closed stretch member

end Theme

end LogStyle
