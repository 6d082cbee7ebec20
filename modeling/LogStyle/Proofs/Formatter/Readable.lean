import LogStyle.Proofs.Conditional.Growth
import LogStyle.Proofs.Formatter.Carry

/-! # Fields that can be read

A field that stands for a conditional style names it by a number. What passes for a number there is any row
of digits, of which only decimal ones that are not too many are read: the others make every line of the
format fail, and nothing else does.
-/

namespace LogStyle

namespace Restore

/-- A value that passes for the number of a conditional style and cannot be read as one. -/
def Misread (value : Text) : Prop :=
  value ≠ [] ∧ (∀ c ∈ value, isDigit c = true) ∧ Numeral.Unreadable value

instance (value : Text) : Decidable (Misread value) :=
  decidable_of_iff (value ≠ [] ∧ value.all isDigit ∧ Numeral.Unreadable value) (by simp [Misread])

/-- A value that is read as a number. -/
def Names (value : Text) (n : Nat) : Prop :=
  value ≠ [] ∧ ¬ Numeral.Unreadable value ∧ Numeral.value value = n

theorem isDigit_of_not_unreadable {value : Text} (readable : ¬ Numeral.Unreadable value) :
    ∀ c ∈ value, isDigit c = true := by
  intro c member
  have decimal : isDecimal c = true := by
    cases h : isDecimal c with
    | true => rfl
    | false => exact absurd (.inl ⟨c, member, h⟩) readable
  simp [isDigit, decimal]

theorem named_of_misread {value : Text} (misread : Misread value) (conditionals : List Conditional) :
    ∃ fault, named conditionals value = .error fault := by
  obtain ⟨some, digits, unreadable⟩ := misread
  obtain ⟨fault, failed⟩ := Numeral.readNat_of_unreadable unreadable
  have passes : (value ≠ [] && value.all isDigit) = true := by
    simp [some, List.all_eq_true.2 digits]
  exact ⟨⟨.value, fault.message⟩, by simp only [named, passes, if_true, failed]⟩

theorem named_of_names {value : Text} {n : Nat} (names : Names value n)
    (conditionals : List Conditional) : named conditionals value = .ok conditionals[n]? := by
  obtain ⟨some, readable, rfl⟩ := names
  have passes : (value ≠ [] && value.all isDigit) = true := by
    simp [some, List.all_eq_true.2 (isDigit_of_not_unreadable readable)]
  simp only [named, passes, if_true, Numeral.readNat_of_not_unreadable readable some]

theorem named_of_other {value : Text} (sound : ¬ Misread value) (other : ∀ n, ¬ Names value n)
    (conditionals : List Conditional) : named conditionals value = .ok none := by
  have fails : (value ≠ [] && value.all isDigit) = false := by
    rw [Bool.and_eq_false_iff]
    by_cases empty : value = []
    · simp [empty]
    · right
      rw [Bool.eq_false_iff]
      intro digits
      by_cases unreadable : Numeral.Unreadable value
      · exact sound ⟨empty, List.all_eq_true.1 digits, unreadable⟩
      · exact other _ ⟨empty, unreadable, rfl⟩
  simp only [named, fails, Bool.false_eq_true, if_false]

theorem names_ofNat {n : Nat} (short : Numeral.isLong n = false) : Names (Text.ofNat n) n :=
  ⟨Text.ofNat_ne_nil n, Numeral.not_unreadable_ofNat short, Numeral.value_ofNat n⟩

theorem exists_named {value : Text} (sound : ¬ Misread value) (conditionals : List Conditional) :
    ∃ found, named conditionals value = .ok found := by
  by_cases number : ∃ n, Names value n
  · obtain ⟨n, names⟩ := number
    exact ⟨_, named_of_names names conditionals⟩
  · exact ⟨_, named_of_other sound (not_exists.1 number) conditionals⟩

theorem named_of_absent {value : Text} {conditionals : List Conditional} (sound : ¬ Misread value)
    (absent : ∀ n < conditionals.length, ¬ Names value n) : named conditionals value = .ok none := by
  by_cases number : ∃ n, Names value n
  · obtain ⟨n, names⟩ := number
    rw [named_of_names names, List.getElem?_eq_none]
    by_contra inside
    exact absent n (Nat.lt_of_not_le inside) names
  · exact named_of_other sound (not_exists.1 number) conditionals

end Restore

namespace Segment

/-- A field that stands for a conditional style whose number cannot be read. -/
def Misread : Segment → Prop
  | literal _ => False
  | field body =>
    (nameAndValue body).1 = Ledger.conditionalName ∧ Restore.Misread (nameAndValue body).2

instance : (segment : Segment) → Decidable segment.Misread
  | literal _ => .isFalse id
  | field _ => inferInstanceAs (Decidable (_ ∧ _))

/-- A field that shows the time by a pattern that cannot be encoded. -/
def Unencodable (clock : Clock) : Segment → Prop
  | literal _ => False
  | field body =>
    (nameAndValue body).1 = "time" ∧ (Handler.timePattern clock (nameAndValue body).2).isEncodable = false

instance (clock : Clock) : (segment : Segment) → Decidable (segment.Unencodable clock)
  | literal _ => .isFalse id
  | field _ => inferInstanceAs (Decidable (_ ∧ _))

end Segment

theorem Line.exists_fieldText_eq_error (line : Line) (body : Text) :
    (∃ fault, line.fieldText body = .error fault) ↔ (Segment.field body).Unencodable line.clock := by
  simp only [Line.fieldText, Segment.Unencodable]
  rcases Segment.nameAndValue body with ⟨name, value⟩
  by_cases time : name = ("time" : Text)
  · subst time
    change (∃ fault, Handler.timeText line.clock value = .error fault) ↔ _
    rw [and_iff_right rfl, Handler.timeText]
    cases run : (Handler.timePattern line.clock value).surrogateRun? with
    | none => simp [Text.surrogateRun?_eq_none_iff.1 run]
    | some r =>
        have bad : (Handler.timePattern line.clock value).isEncodable = false := by
          rw [← Bool.not_eq_true, ← Text.surrogateRun?_eq_none_iff, run]
          simp
        simp [bad]
  · simp only [time, if_false, false_and, iff_false, not_exists]
    intro fault
    split
    · simp
    · split <;> simp

namespace LineStep

theorem exists_ofOutcome_eq_fail (outcome : Except Fault Text) :
    (∃ fault, ofOutcome outcome = fail fault) ↔ ∃ fault, outcome = .error fault := by
  cases outcome <;> simp [ofOutcome]

theorem exists_ofSegment_eq_fail (conditionals : List Conditional) (line : Line) (segment : Segment) :
    (∃ fault, ofSegment conditionals line segment = fail fault) ↔
      segment.Misread ∨ segment.Unencodable line.clock := by
  cases segment with
  | literal text => simp [ofSegment, Segment.Misread, Segment.Unencodable]
  | field body =>
      have own := Line.exists_fieldText_eq_error line body
      simp only [ofSegment, ofField, Segment.Misread, Segment.Unencodable] at own ⊢
      by_cases onNumber : (Segment.nameAndValue body).1 = Ledger.conditionalName
      · have notTime : Ledger.conditionalName ≠ ("time" : Text) := by decide
        simp only [onNumber, if_true, true_and, notTime, false_and, or_false, ofNumber]
        by_cases misread : Restore.Misread (Segment.nameAndValue body).2
        · obtain ⟨fault, failed⟩ := Restore.named_of_misread misread conditionals
          simp [failed, misread]
        · obtain ⟨found, named⟩ := Restore.exists_named misread conditionals
          cases found with
          | none => simp [named, misread]
          | some c => by_cases applies : c.applies line.level <;> simp [named, misread, applies]
      · rw [if_neg onNumber]
        simp only [onNumber, false_and, false_or]
        by_cases onStore : (Segment.nameAndValue body).1 = Ledger.storeName
        · have notTime : Ledger.storeName ≠ ("time" : Text) := by decide
          simp only [onStore, if_true, notTime, false_and, reduceCtorEq, exists_false]
        by_cases onRestore : (Segment.nameAndValue body).1 = Ledger.restoreName
        · have notTime : Ledger.restoreName ≠ ("time" : Text) := by decide
          have notStore : Ledger.restoreName ≠ Ledger.storeName := by decide
          simp only [onRestore, notStore, if_true, if_false, notTime, false_and, reduceCtorEq, exists_false]
        rw [if_neg onStore, if_neg onRestore, exists_ofOutcome_eq_fail, own]

end LineStep

namespace Formatter

/-- A formatter all of whose conditional fields can be read. -/
def Readable (f : Formatter) : Prop :=
  ∀ segment ∈ f.template.segments, ¬ segment.Misread

instance (f : Formatter) : Decidable f.Readable :=
  inferInstanceAs (Decidable (∀ _ ∈ _, _))

/-- A formatter all of whose patterns of times can be encoded. -/
def Encodable (f : Formatter) (clock : Clock) : Prop :=
  ∀ segment ∈ f.template.segments, ¬ segment.Unencodable clock

instance (f : Formatter) (clock : Clock) : Decidable (f.Encodable clock) :=
  inferInstanceAs (Decidable (∀ _ ∈ _, _))

section
variable (text : Text) (conditionals : List Conditional) (line : Line) (r : Restore)

theorem render_ofTemplate_isOk :
    (∃ shown, ((ofTemplate text conditionals).render line r).1 = .ok shown) ↔
      (ofTemplate text conditionals).Readable ∧ (ofTemplate text conditionals).Encodable line.clock := by
  rw [render_ofTemplate]
  constructor
  · rintro ⟨shown, rendered⟩
    have safe : ∀ segment ∈ (ofTemplate text conditionals).template.segments,
        ¬ (segment.Misread ∨ segment.Unencodable line.clock) := by
      intro segment member broken
      obtain ⟨fault, fails⟩ := (LineStep.exists_ofSegment_eq_fail conditionals line segment).2 broken
      have inside : LineStep.fail fault ∈ LineStep.ofLine (ofTemplate text conditionals) line :=
        List.mem_map.2 ⟨segment, member, fails⟩
      obtain ⟨first, error⟩ := LineStep.runAll_of_fail inside
      rw [error] at rendered
      cases rendered
    exact ⟨fun segment member misread => safe segment member (.inl misread),
      fun segment member unencodable => safe segment member (.inr unencodable)⟩
  · rintro ⟨readable, encodable⟩
    refine LineStep.runAll_of_not_fail (fun fault inside => ?_) _
    obtain ⟨segment, member, fails⟩ := List.mem_map.1 inside
    rcases (LineStep.exists_ofSegment_eq_fail conditionals line segment).1 ⟨fault, fails⟩ with misread | unencodable
    · exact readable segment member misread
    · exact encodable segment member unencodable

theorem renderParts_ofTemplate_isOk :
    (∃ parts, ((ofTemplate text conditionals).renderParts line r).1 = .ok parts) ↔
      (ofTemplate text conditionals).Readable ∧ (ofTemplate text conditionals).Encodable line.clock :=
  (Template.renderParts_isOk _ line r.forget).trans (render_ofTemplate_isOk text conditionals line r)

theorem renderField_of_absent {value : Text} (absent : ∀ n < conditionals.length, ¬ Restore.Names value n) :
    (¬ Restore.Misread value →
        (ofTemplate text conditionals).template.renderField line (Ledger.conditionalName ++ ":" ++ value) r =
          (.ok [], r)) ∧
      (Restore.Misread value → ∃ fault,
        (ofTemplate text conditionals).template.renderField line (Ledger.conditionalName ++ ":" ++ value) r =
          (.error fault, r)) := by
  have parts : Segment.nameAndValue (Ledger.conditionalName ++ ":" ++ value) =
      (Ledger.conditionalName, value) := rfl
  have step : LineStep.ofField conditionals line (Ledger.conditionalName ++ ":" ++ value) =
      LineStep.ofNumber conditionals line.level value := by
    simp only [LineStep.ofField, parts, if_true]
  rw [renderField_ofTemplate, step]
  constructor
  · intro sound
    rw [LineStep.ofNumber, Restore.named_of_absent sound absent]
    rfl
  · intro misread
    obtain ⟨fault, failed⟩ := Restore.named_of_misread misread conditionals
    rw [LineStep.ofNumber, failed]
    exact ⟨fault, rfl⟩

end

/-- A compiled format renders every line after every history, whole and in parts, exactly when all its conditional
    fields can be read and all its patterns of times can be encoded. The conditional fields that compiling writes
    itself always can be read. A field that names none of the conditional styles shows nothing and leaves alone what
    is remembered, unless it is one that fails. -/
theorem render_succeeds_iff_readable [CharNames] {colors : Bool} {format : Text} {f : Formatter}
    (compiled : (compile colors format).outcome.1 = .ok f ∨
      (compileWithReset colors format).outcome.1 = .ok f) :
    (∀ line history,
      ((∃ shown, (f.render line (f.after history)).1 = .ok shown) ↔ f.Readable ∧ f.Encodable line.clock) ∧
      ((∃ parts, (f.renderParts line (f.after history)).1 = .ok parts) ↔ f.Readable ∧ f.Encodable line.clock)) ∧
    (∀ n < f.conditionals.length, Restore.Names (Text.ofNat n) n) ∧
    (∀ value, (∀ n < f.conditionals.length, ¬ Restore.Names value n) → ∀ line r,
      (¬ Restore.Misread value →
        f.template.renderField line (Ledger.conditionalName ++ ":" ++ value) r = (.ok [], r)) ∧
      (Restore.Misread value → ∃ fault,
        f.template.renderField line (Ledger.conditionalName ++ ":" ++ value) r = (.error fault, r))) := by
  obtain ⟨source, compiled⟩ : ∃ source, (compile colors source).outcome.1 = .ok f := by
    rcases compiled with plain | ended
    · exact ⟨format, plain⟩
    · exact ⟨format ++ reset, ended⟩
  obtain ⟨nodes, text, reached, -, ran, rfl⟩ := outcome_compile_eq_ok.1 compiled
  have numbered : reached.2.Numbered := by
    have grows := (runNodes_grows colors nodes nodes (Style.plain, {})).2
    rw [show (program colors nodes).runNodes nodes (Style.plain, {}) = _ from ran] at grows
    exact grows fun n below => absurd below (Nat.not_lt_zero n)
  refine ⟨fun line history => ⟨?_, ?_⟩, fun n below => ?_, fun value absent line r => ?_⟩
  · exact render_ofTemplate_isOk text _ line _
  · exact renderParts_ofTemplate_isOk text _ line _
  · exact Restore.names_ofNat (numbered n below)
  · exact renderField_of_absent text _ line r absent

section

attribute [local instance] CharNames.none

/-- A field written by hand for a conditional style that the format does not have. -/
theorem render_succeeds_past_last_style :
    ∃ f, (compile true "\x7bonerror \"\x7bbold\x7d\"\x7d$\x7bonlevel:99\x7d").outcome.1 = .ok f ∧
      (f.Readable ∧ f.Encodable (Line.plain .error).clock) ∧
      (∃ shown, (f.render (Line.plain .error) (f.after [.parts (Line.plain .info)])).1 = .ok shown) ∧
      ∀ r, f.template.renderField (Line.plain .error) "onlevel:99" r = (.ok [], r) := by
  obtain ⟨f, compiled, tested⟩ := exists_of_any
    ((compile true "\x7bonerror \"\x7bbold\x7d\"\x7d$\x7bonlevel:99\x7d").outcome.1)
    (fun f => decide ((f.Readable ∧ f.Encodable (Line.plain .error).clock) ∧ f.conditionals.length = 1))
    (by decide +kernel)
  obtain ⟨readable, single⟩ := of_decide_eq_true tested
  have absent : ∀ n < f.conditionals.length, ¬ Restore.Names "99" n := by
    rintro n below ⟨-, -, number⟩
    have ninetyNine : Numeral.value "99" = 99 := by decide
    omega
  obtain ⟨renders, -, fields⟩ := render_succeeds_iff_readable (.inl compiled)
  exact ⟨f, compiled, readable, (renders _ _).1.2 readable, fun r =>
    (fields "99" absent _ r).1 (by decide)⟩

/-- A superscript passes for a number and is none, so a format with a field of it renders no line. -/
theorem render_fails_on_superscript :
    ∃ f, (compile true "$\x7bonlevel:²\x7d").outcome.1 = .ok f ∧
      ∀ line, ∃ fault, (f.render line {}).1 = .error fault := by
  obtain ⟨f, compiled, tested⟩ := exists_of_any ((compile true "$\x7bonlevel:²\x7d").outcome.1)
    (fun f => decide ¬ f.Readable) (by decide +kernel)
  refine ⟨f, compiled, fun line => ?_⟩
  obtain ⟨-, text, reached, -, -, rfl⟩ := outcome_compile_eq_ok.1 compiled
  cases rendered : ((ofTemplate text reached.2.conditionals).render line {}).1 with
  | error fault => exact ⟨fault, rfl⟩
  | ok shown =>
      exact absurd ((render_ofTemplate_isOk text _ line {}).1 ⟨shown, rendered⟩).1 (of_decide_eq_true tested)

/-- An escape in an argument may put half of a pair into the pattern of a time, and then no line can be rendered. -/
theorem render_fails_on_surrogate :
    ∃ f, (compile true "\x7bfield \"time:\\ud800\"\x7d").outcome.1 = .ok f ∧
      ∀ line, ∃ fault, (f.render line {}).1 = .error fault := by
  let body : Text := ("time:" : Text) ++ [.surrogate 0]
  obtain ⟨f, compiled, segments⟩ := exists_of_any ((compile true "\x7bfield \"time:\\ud800\"\x7d").outcome.1)
    (fun f => f.template.segments == [.field body]) (by decide +kernel)
  refine ⟨f, compiled, fun line => ?_⟩
  obtain ⟨-, text, reached, -, -, rfl⟩ := outcome_compile_eq_ok.1 compiled
  cases rendered : ((ofTemplate text reached.2.conditionals).render line {}).1 with
  | error fault => exact ⟨fault, rfl⟩
  | ok shown =>
      have encodable := ((render_ofTemplate_isOk text _ line {}).1 ⟨shown, rendered⟩).2
      rw [Encodable, eq_of_beq segments] at encodable
      have broken : (Handler.timePattern line.clock (Segment.nameAndValue body).2).isEncodable = false := rfl
      exact absurd ⟨rfl, broken⟩ (encodable _ (List.mem_singleton_self _))

end

end Formatter

end LogStyle
