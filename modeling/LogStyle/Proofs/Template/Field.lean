import LogStyle.Proofs.Formatter.LineStep
import LogStyle.Proofs.Moment.Pattern
import LogStyle.Proofs.Template.Parts

/-! # What fields are rendered to

A field that every template has is rendered from the line and its own body. It holds no escape character unless one
of these does.
-/

namespace LogStyle

namespace Text

theorem prefix_suffix_of_cut {c : CodePoint} {t : Text} : (cut c t).1 <+: t ∧ (cut c t).2 <:+ t := by
  unfold cut
  cases found : cut? c t with
  | none => exact ⟨List.prefix_rfl, List.nil_suffix⟩
  | some parts =>
      have whole := Lexeme.append_of_cut? found
      exact ⟨⟨_, whole⟩, parts.1 ++ [c], by simpa using whole⟩

theorem escape_not_mem_replaceFirst {replacement t : Text} (pattern : Text) (plain : .char '\x1b' ∉ replacement)
    (plain' : .char '\x1b' ∉ t) : .char '\x1b' ∉ replaceFirst pattern replacement t := by
  unfold replaceFirst
  split
  · next before after found =>
      rw [← append_of_cutAt? found] at plain'
      simp only [List.mem_append, not_or] at plain' ⊢
      exact ⟨⟨plain'.1.1, plain⟩, plain'.2⟩
  · exact plain'

end Text

namespace Line

theorem escape_not_mem_levelText {value : Text} (plain : .char '\x1b' ∉ value) (level : Level) :
    .char '\x1b' ∉ Handler.levelText level value := by
  have parts := @Text.prefix_suffix_of_cut ':' value
  unfold Handler.levelText
  generalize Text.cut ':' value = cut at parts ⊢
  obtain ⟨pattern, align⟩ := cut
  have label : .char '\x1b' ∉ level.label := by cases level <;> decide
  have aligned : .char '\x1b' ∉ (if align = ("left" : Text) then level.label.padRight Level.labelWidth
      else if align = ("right" : Text) then level.label.padLeft Level.labelWidth else level.label) := by
    split
    · exact Text.escape_not_mem_padRight label _
    split
    · exact Text.escape_not_mem_padLeft label _
    · exact label
  simp only
  split
  · exact aligned
  · exact Text.escape_not_mem_replaceFirst _ aligned fun member => plain (parts.1.subset member)

theorem escape_not_mem_of_timeText {clock : Clock} {value shown : Text} (plain : .char '\x1b' ∉ clock.pattern)
    (valuePlain : .char '\x1b' ∉ value) (known : Handler.timeText clock value = .ok shown) : .char '\x1b' ∉ shown := by
  unfold Handler.timeText at known
  split at known
  · cases known
  · cases known
    refine Moment.escape_not_mem_format _ ?_
    unfold Handler.timePattern
    split
    · exact plain
    · exact valuePlain

theorem escape_not_mem_of_fieldText {line : Line} (lead : .char '\x1b' ∉ line.lead)
    (pattern : .char '\x1b' ∉ line.clock.pattern) {body shown : Text} (plain : .char '\x1b' ∉ body)
    (known : line.fieldText body = .ok shown) : .char '\x1b' ∉ shown := by
  have parts := @Text.prefix_suffix_of_cut ':' body
  unfold fieldText Segment.nameAndValue at known
  generalize Text.cut ':' body = cut at parts known
  obtain ⟨name, value⟩ := cut
  have valuePlain : .char '\x1b' ∉ value := fun member => plain (parts.2.subset member)
  simp only at known
  split at known
  · cases known
    exact lead
  split at known
  · cases known
    exact escape_not_mem_levelText valuePlain _
  split at known
  · exact escape_not_mem_of_timeText pattern valuePlain known
  · cases known
    simp [Segment.fieldText, plain]

end Line

end LogStyle
