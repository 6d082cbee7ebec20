import LogStyle.Proofs.Formatter.MarkRow
import LogStyle.Proofs.Formatter.Readable
import LogStyle.Proofs.Template.Lossless
import LogStyle.Proofs.Theme.Trailer

/-! # Themes that write every record

The formatter of the lines after the first can always be rendered. Its template is made of the placeholders of
conditional styles, whose numbers can be read, and of the diagnostics of fragments that could not be read or run. A
diagnostic quotes its fragment, but a fragment with a field in it does not get that far: the field would have become
a directive. So no diagnostic holds a field that passes for a conditional style or for a time, and every record is
written.
-/

namespace LogStyle

namespace Text

/-- No field starts in a text whose name may be that of conditional styles or of the time, the ones that can fail. -/
def Unfailing (t : Text) : Prop :=
  ∀ letter u, letter = CodePoint.char 'o' ∨ letter = CodePoint.char 't' → ¬ .char '$' :: .char '\x7b' :: letter :: u <:+ t

theorem unfailing_of_fieldless {t : Text} (fieldless : Segment.Fieldless t) : Unfailing t :=
  fun letter u _ => fieldless (letter :: u)

theorem Unfailing.of_infix {t u : Text} (unfailing : Unfailing t) (inside : u <:+: t) : Unfailing u := by
  obtain ⟨front, back, whole⟩ := inside
  rintro letter v named ⟨before, part⟩
  exact unfailing letter (v ++ back) named ⟨front ++ before, by simp [← whole, ← part]⟩

theorem Unfailing.cons {c : CodePoint} {t : Text} (other : c ≠ '$') (unfailing : Unfailing t) : Unfailing (c :: t) := by
  intro letter u named starts
  rcases List.suffix_cons_iff.1 starts with same | later
  · exact other (List.head_eq_of_cons_eq same).symm
  · exact unfailing letter u named later

theorem Unfailing.behind {front t : Text} (noDollar : .char '$' ∉ front) (unfailing : Unfailing t) :
    Unfailing (front ++ t) := by
  induction front with
  | nil => exact unfailing
  | cons c front ih =>
      simp only [List.mem_cons, not_or] at noDollar
      exact (ih noDollar.2).cons (Ne.symm noDollar.1)

theorem Unfailing.before {t back : Text} (unfailing : Unfailing t) (noDollar : .char '$' ∉ back)
    (starts : ∀ c ∈ back.head?, c ∉ ([.char '\x7b', .char 'o', .char 't'] : Text)) : Unfailing (t ++ back) := by
  rintro letter u named ⟨front, whole⟩
  rcases List.append_eq_append_iff.1 whole with ⟨middle, rfl, inner⟩ | ⟨middle, rfl, inner⟩
  · match middle with
    | [] => exact noDollar ((show _ = back from inner) ▸ List.mem_cons_self)
    | [_] => exact starts (.char '\x7b') (congrArg List.head? (List.cons.inj inner).2.symm) List.mem_cons_self
    | [_, _] =>
        refine starts letter (congrArg List.head? (List.cons.inj (List.cons.inj inner).2).2.symm) ?_
        simpa using .inr named
    | a :: b :: c :: middle =>
        simp only [List.cons_append, List.cons.injEq] at inner
        obtain ⟨rfl, rfl, rfl, -⟩ := inner
        exact unfailing _ middle named ⟨front, rfl⟩
  · exact noDollar (inner ▸ List.mem_append_right _ List.mem_cons_self)

theorem unfailing_of_hollow {t : Text} (isHollow : hollow t = true) : Unfailing t := by
  induction t using hollow.induct with
  | case1 rest ih =>
      rw [hollow] at isHollow
      intro letter u named starts
      rcases List.suffix_cons_iff.1 starts with same | starts
      · obtain rfl : letter = .char '\x7d' := Option.some.inj (congrArg (fun t : Text => t[2]?) same)
        exact absurd named (by decide)
      · exact ((ih isHollow).cons (c := '\x7d') (by decide)).cons (c := '\x7b') (by decide) letter u named starts
  | case2 rest other => simp [hollow] at isHollow
  | case3 c rest notEmpty notField ih =>
      have later : hollow rest = true := by
        rwa [hollow] at isHollow
        · exact notEmpty
        · exact notField
      intro letter u named starts
      rcases List.suffix_cons_iff.1 starts with same | behind
      · obtain ⟨rfl, rfl⟩ := List.cons.inj same
        exact notField (letter :: u) rfl rfl
      · exact ih later letter u named behind
  | case4 => simp [Unfailing]

end Text

theorem CompileError.unfailing_message {e : CompileError} (quotable : e.Quotable Text.Unfailing) :
    e.fault.message.Unfailing := by
  rcases exists_quotation (fun c => Text.unfailing_of_fieldless (Text.fieldless_quoted c)) quotable with
    worded | ⟨front, quotation, back, message, before, unfailing, behind, ends⟩
  · exact Text.unfailing_of_fieldless (Segment.fieldless_of_dollar (worded.not_mem (by decide)))
  · rw [message, List.append_assoc]
    refine (unfailing.before (behind.not_mem (by decide)) fun c first => ?_).behind (before.not_mem (by decide))
    rcases ends with blank | mark
    · obtain rfl : .char ' ' = c := Option.some.inj (blank.symm.trans first)
      decide
    · obtain rfl : .char '"' = c := Option.some.inj (mark.symm.trans first)
      decide

namespace Ledger

theorem unfailing_diagnostic {stage message : Text} (noDollar : .char '$' ∉ stage) (unfailing : message.Unfailing) :
    (diagnostic stage message).Unfailing := by
  have early : .char '$' ∉ "#\x7b" ++ stage ++ " ERROR: " := by simp [noDollar]
  unfold diagnostic
  rw [List.append_assoc]
  exact (unfailing.before (by decide) (by decide)).behind early

end Ledger

namespace Segment

/-- All fields of a text can be shown, at any time. -/
def Legible (t : Text) : Prop :=
  ∀ segment ∈ scattered t, ¬ segment.Misread ∧ ∀ clock, ¬ segment.Unencodable clock

theorem legible_of_unfailing {t : Text} (unfailing : t.Unfailing) : Legible t := by
  intro segment member
  cases segment with
  | literal u => exact ⟨id, fun _ => id⟩
  | field body =>
      obtain ⟨front, back, split⟩ := List.append_of_mem member
      have whole := flatMap_source_scattered t
      rw [split, List.flatMap_append, List.flatMap_cons] at whole
      -- The name comes first in the body.
      have absent {letter : CodePoint} {name : Text} (named : (nameAndValue body).1 = letter :: name)
          (fails : letter = CodePoint.char 'o' ∨ letter = CodePoint.char 't') : False := by
        have starts : ∃ more, body = letter :: more := by
          obtain ⟨-, parts⟩ := nameAndValue_eq (Prod.ext named rfl : nameAndValue body = (_, (nameAndValue body).2))
          rcases parts with same | ⟨same, -⟩
          · exact ⟨_, same⟩
          · exact ⟨_, same⟩
        obtain ⟨more, rfl⟩ := starts
        exact unfailing letter (more ++ .char '\x7d' :: back.flatMap source) fails
          ⟨front.flatMap source, by simp [← whole, source, fieldText]⟩
      exact ⟨fun misread => absent misread.1 (.inl rfl), fun clock unencodable => absent unencodable.1 (.inr rfl)⟩

theorem legible_numbered {n : Nat} (short : Numeral.isLong n = false) :
    Legible (fieldText (Ledger.conditionalName ++ ":" ++ Text.ofNat n)) := by
  intro segment member
  have alone := scattered_fieldText (Walk.close_not_mem_numbered n) []
  rw [List.append_nil, scattered_nil] at alone
  rw [alone, List.mem_singleton] at member
  rw [member]
  refine ⟨fun misread => (Restore.names_ofNat short).2.1 misread.2.2.2, fun clock unencodable => ?_⟩
  have name : (nameAndValue (Ledger.conditionalName ++ ":" ++ Text.ofNat n)).1 = Ledger.conditionalName := rfl
  exact absurd (name.symm.trans unencodable.1) (by decide)

theorem Legible.append {t u : Text} (here : Legible t) (closed : Closed t) (later : Legible u) : Legible (t ++ u) := by
  intro segment member
  rw [scattered_append closed.1 fun dollar => absurd dollar closed.2] at member
  rcases List.mem_append.1 member with first | second
  · exact here segment first
  · exact later segment second

end Segment

theorem Ledger.Recorded.legible [CharNames] {colors : Bool} {outer : Style} {level : Arg} {fragment previous t : Text}
    {l : Ledger}
    {conditionals : List Conditional} (recorded : Recorded colors outer level fragment previous l (.ok t) conditionals)
    (isHollow : Text.hollow fragment = true) : Segment.Closed t ∧ Segment.Legible t := by
  generalize written : Except.ok t = result at recorded
  cases recorded with
  | unread e read kind =>
      cases written
      have unfailing := Text.unfailing_of_hollow isHollow
      have inherits (u : Text) (inside : u <:+: fragment) := unfailing.of_infix inside
      have message := CompileError.unfailing_message (Program.quotable_of_read inherits read)
      exact ⟨Segment.closed_of_close _ List.not_mem_nil,
        Segment.legible_of_unfailing (unfailing_diagnostic (by decide) message)⟩
  | broken p e read ran =>
      cases written
      have message := Text.unfailing_of_fieldless (Program.fieldless_of_execute (Program.builtin_of_read read) ran)
      exact ⟨Segment.closed_of_close _ List.not_mem_nil,
        Segment.legible_of_unfailing (unfailing_diagnostic (by decide) message)⟩
  | entered p sequence read ran target named short =>
      cases written
      exact ⟨Segment.closed_of_close (.char '$' :: .char '\x7b' :: _) List.not_mem_nil, Segment.legible_numbered short⟩
  | escaped | nameless | full => cases written

namespace Theme

theorem Clause.RunsAll.legible [CharNames] {colors : Bool} {clauses : List Clause} {l l' : Ledger} {t : Text}
    (runs : RunsAll colors clauses l t l') (on : ∀ c ∈ clauses, c.isOn = true) : Segment.Legible t := by
  induction runs with
  | nil => simp [Segment.Legible]
  | @cons c rest l between l' t u here later ih =>
      have behind := ih fun other member => on other (List.mem_cons_of_mem _ member)
      cases here with
      | @on level fragment _ _ _ isHollow writable recorded =>
          have entered := Ledger.recorded (Walk.wayBack_eq colors Style.inRange_plain) (.text level.lower) fragment l
          rw [Arg.toValue_text, recorded] at entered
          obtain ⟨closed, legible⟩ := entered.legible isHollow
          exact legible.append closed behind
      | plain | store | restore | reset => cases on _ List.mem_cons_self

section
variable [CharNames] {colors : Bool} {format : Text} {p : Palette} {theme : Theme}
  (compiled : (compile colors format p).outcome.1 = .ok theme)
include compiled

theorem trailer_isOk (line : Line) (r : Restore) : ∃ style, (theme.trailer.render line r).1 = .ok style := by
  have trailer := (outcome_compile_eq_ok.1 compiled).2
  rw [conditionals_eq, compile_clauses_iff fits_of_mem_preludeClauses] at trailer
  obtain ⟨t, l, runs, made⟩ := trailer
  rw [made, Formatter.render_ofTemplate_isOk]
  have legible := runs.legible fun c member => by
    obtain ⟨level, -, rfl⟩ := List.mem_map.1 member
    rfl
  have shows (segment : Segment) (member : segment ∈ (Formatter.ofTemplate t l.conditionals).template.segments) :
      ¬ segment.Misread ∧ ∀ clock, ¬ segment.Unencodable clock := by
    cases segment with
    | literal u => exact ⟨id, fun _ => id⟩
    | field body => exact legible _ (Segment.field_mem_flatMap_scatter.2 member)
  exact ⟨fun segment member => (shows segment member).1, fun segment member => (shows segment member).2 _⟩

theorem exists_written (data : Text) (level : Level) (clock : Clock) (r : Restore) :
    ∃ style, (theme.written data level clock r).1 = .ok (spliced style data) := by
  obtain ⟨style, shown⟩ := trailer_isOk compiled ⟨level, [], clock⟩ r
  exact ⟨style, written_of_rendered shown data⟩

end

end Theme

end LogStyle
