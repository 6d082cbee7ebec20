import LogStyle.Proofs.Formatter.Reset
import LogStyle.Proofs.Program.Call

/-! # Formats without directives

A format whose braces all belong to fields asks for nothing. Each of its fields is written as a directive whose
argument is the body in quotes, the directive is read, its argument is taken out of the quotes, and the field
is written again. So the template is the format, or a field holds what no literal can hold.
-/

namespace LogStyle

namespace Segment

/-- A segment that asks for nothing but a field. -/
def Inert : Segment → Prop
  | literal t => .char '\x7b' ∉ t
  | field body => body ≠ []

instance : DecidablePred Inert
  | literal _ => inferInstanceAs (Decidable (_ ∉ _))
  | field _ => inferInstanceAs (Decidable (_ ≠ _))

/-- A format in which every opening brace belongs to a field with a body. -/
def DirectiveFree (format : Text) : Prop :=
  ∀ segment ∈ split format, segment.Inert

instance : DecidablePred DirectiveFree :=
  fun format => inferInstanceAs (Decidable (∀ segment ∈ split format, segment.Inert))

/-- A segment whose body a literal can hold. -/
def Writable : Segment → Prop
  | literal _ => True
  | field body => Literal.Writable body

instance : DecidablePred Writable
  | literal _ => inferInstanceAs (Decidable True)
  | field body => inferInstanceAs (Decidable (Literal.Writable body))

theorem directive_field {body : Text} (some : body ≠ []) (rest : Text) :
    directive (field body) ++ rest =
      .char '\x7b' :: (("field" : Text) ++ .char ' ' :: (Literal.encode body ++ .char '\x7d' :: rest)) := by
  cases body with
  | nil => exact absurd rfl some
  | cons c body => simp [directive]

theorem readAt_directives [CharNames] {knows : Text → Bool} (known : knows "field" = true) {segments : List Segment}
    (inert : ∀ segment ∈ segments, segment.Inert) (broken : ∃ segment ∈ segments, ¬ segment.Writable)
    (position : Nat) :
    ∃ e, Node.readAt knows position (segments.flatMap directive) = .error e ∧ e.fault.kind = .compile := by
  induction segments generalizing position with
  | nil => simp at broken
  | cons segment rest ih =>
      have here := inert segment List.mem_cons_self
      have onward (broken : ∃ segment ∈ rest, ¬ segment.Writable) (position : Nat) :=
        ih (fun other member => inert other (List.mem_cons_of_mem _ member)) broken position
      rw [List.flatMap_cons]
      cases segment with
      | literal t =>
          have later : ∃ segment ∈ rest, ¬ segment.Writable := by simpa [Writable] using broken
          obtain ⟨e, failed, kind⟩ := onward later (position + t.length)
          exact ⟨e, by rw [directive, Node.readAt_text here, failed]; rfl, kind⟩
      | field body =>
          have named : Lexeme.IsName "field" := by decide
          obtain ⟨reads, fails⟩ := Node.readAt_callWith named known position body (rest.flatMap directive)
          rw [directive_field here]
          by_cases writable : Literal.Writable body
          · have later : ∃ segment ∈ rest, ¬ segment.Writable := by simpa [Writable, writable] using broken
            obtain ⟨e, failed, kind⟩ := onward later _
            exact ⟨e, by rw [reads writable, failed]; rfl, kind⟩
          · obtain ⟨why, failed⟩ := fails writable
            exact ⟨_, failed, rfl⟩

end Segment

namespace Formatter

theorem runCall_field [CharNames] (colors : Bool) (nodes : List Node) (body : Text) (position : Nat)
    (at_ : Program.Reached Ledger) :
    (program colors nodes).runCall "field" [.text body] position at_ = (.ok (Segment.fieldText body), at_) := by
  cases colors <;> rfl

section
variable (colors : Bool) (all : List Node) {position : Nat} {rest t : Text} {at_ reached : Program.Reached Ledger}

theorem writes_field [CharNames] (body : Text) :
    (program colors all).Writes position ((Segment.field body).directive ++ rest) at_ t reached ↔
      (body ≠ [] ∧ Literal.Writable body) ∧
        ∃ u, (program colors all).Writes (position + (Segment.field body).directive.length) rest at_ u reached ∧
          t = Segment.fieldText body ++ u := by
  by_cases empty : body = []
  · subst empty
    have fails :
        ∀ u, ¬ (program colors all).Writes (position + 1) (.char '\x7b' :: .char '\x7d' :: rest) at_ u reached := by
      rintro u ⟨nodes, read, -⟩
      rw [Node.readAt_empty] at read
      cases read
    constructor
    · intro writes
      obtain ⟨u, writes, -⟩ := (Program.writes_char _ (by decide)).1 writes
      exact absurd writes (fails u)
    · rintro ⟨⟨full, -⟩, -⟩
      exact absurd rfl full
  · have named : Lexeme.IsName "field" := by decide
    have known : (program colors all).registry.knows "field" = true := by cases colors <;> rfl
    have places : position + (Segment.field body).directive.length =
        position + 1 + ("field" : Text).length + 1 + (Literal.encode body).length + 1 := by
      have source := congrArg List.length (Segment.directive_field empty [])
      simp only [List.append_nil, List.length_append, List.length_cons, List.length_nil] at source
      omega
    rw [Segment.directive_field empty, Program.writes_callWith _ named known body, places]
    simp only [runCall_field]
    constructor
    · rintro ⟨writable, _, _, u, ran, writes, rfl⟩
      cases ran
      exact ⟨⟨empty, writable⟩, u, writes, rfl⟩
    · rintro ⟨⟨-, writable⟩, u, writes, rfl⟩
      exact ⟨writable, _, at_, u, rfl, writes, rfl⟩

theorem writes_directives [CharNames] {segments : List Segment}
    (outside : ∀ t, .literal t ∈ segments → .char '\x7b' ∉ t) :
    (program colors all).Writes position (segments.flatMap Segment.directive ++ rest) at_ t reached ↔
      (∀ body, .field body ∈ segments → body ≠ [] ∧ Literal.Writable body) ∧
        ∃ u, (program colors all).Writes (position + (segments.flatMap Segment.directive).length) rest at_ u
          reached ∧ t = segments.flatMap Segment.source ++ u := by
  induction segments generalizing position t with
  | nil => simp
  | cons segment segments ih =>
      have onward {position : Nat} {t : Text} := @ih position t fun t member =>
        outside t (List.mem_cons_of_mem _ member)
      rw [List.flatMap_cons, List.flatMap_cons, List.append_assoc, List.length_append, ← Nat.add_assoc]
      cases segment with
      | literal front =>
          rw [Segment.directive, Program.writes_text _ (outside front List.mem_cons_self)]
          simp only [onward, List.mem_cons, reduceCtorEq, false_or, Segment.source, List.append_assoc]
          constructor
          · rintro ⟨_, ⟨full, u, writes, rfl⟩, rfl⟩
            exact ⟨full, u, writes, rfl⟩
          · rintro ⟨full, u, writes, rfl⟩
            exact ⟨_, ⟨full, u, writes, rfl⟩, rfl⟩
      | field body =>
          rw [writes_field]
          simp only [onward, List.mem_cons, Segment.field.injEq, forall_eq_or_imp, Segment.source, List.append_assoc]
          constructor
          · rintro ⟨here, _, ⟨full, u, writes, rfl⟩, rfl⟩
            exact ⟨⟨here, full⟩, u, writes, rfl⟩
          · rintro ⟨⟨here, full⟩, u, writes, rfl⟩
            exact ⟨here, _, ⟨full, u, writes, rfl⟩, rfl⟩

end

theorem outcome_compile_iff_writes [CharNames] {colors : Bool} {format : Text} {f : Formatter} :
    (compile colors format).outcome.1 = .ok f ↔
      ∃ text reached, (program colors []).Writes 0 format.fieldsAsDirectives (Style.plain, {}) text reached ∧
        f = ofTemplate text reached.2.conditionals := by
  rw [outcome_compile_eq_ok]
  constructor
  · rintro ⟨parsed, text, reached, read, ran, rfl⟩
    refine ⟨text, reached, ⟨parsed, read, ?_⟩, rfl⟩
    rw [runNodes_program colors [] parsed]
    exact ran
  · rintro ⟨text, reached, ⟨parsed, read, ran⟩, rfl⟩
    refine ⟨parsed, text, reached, read, ?_, rfl⟩
    rw [runNodes_program colors [] parsed] at ran
    exact ran

theorem exists_compile_error [CharNames] (colors : Bool) {format : Text} (free : Segment.DirectiveFree format)
    (broken : ∃ body, .field body ∈ Segment.split format ∧ ¬ Literal.Writable body) :
    ∃ fault, (compile colors format).outcome.1 = .error fault ∧ fault.kind = .compile := by
  obtain ⟨body, member, unwritable⟩ := broken
  have known : (registry colors).knows "field" = true := by cases colors <;> rfl
  obtain ⟨e, failed, kind⟩ := Segment.readAt_directives known free ⟨_, member, unwritable⟩ 0
  refine ⟨e.fault, ?_, kind⟩
  have read : nodes colors format = .error e := failed
  rw [outcome_compile, read]

/-- A format in which every brace belongs to a field with a body is its own template, with no conditional
    styles. It compiles exactly when none of the bodies has a line end, the null character or half of a pair in it;
    otherwise it fails as a program that cannot be read. -/
theorem compile_directiveFree [CharNames] (colors : Bool) {format : Text} (free : Segment.DirectiveFree format) :
    ((∃ body, .field body ∈ Segment.split format ∧ ¬ Literal.Writable body) →
      ∃ fault, (compile colors format).outcome.1 = .error fault ∧ fault.kind = .compile) ∧
    ((∀ body, .field body ∈ Segment.split format → Literal.Writable body) →
      ∃ f, (compile colors format).outcome.1 = .ok f ∧ f.template.text = format ∧ f.conditionals = []) := by
  constructor
  · exact exists_compile_error colors free
  · intro bodies
    have outside : ∀ t, .literal t ∈ Segment.split format → .char '\x7b' ∉ t := fun t member => free _ member
    have full : ∀ body, .field body ∈ Segment.split format → body ≠ [] ∧ Literal.Writable body :=
      fun body member => ⟨free _ member, bodies body member⟩
    have writes : (program colors []).Writes 0 (format.fieldsAsDirectives ++ []) (Style.plain, {}) (format ++ [])
        (Style.plain, {}) := by
      refine (writes_directives colors [] outside).2 ⟨full, [], (Program.writes_nil _).2 ⟨rfl, rfl⟩, ?_⟩
      rw [Segment.flatMap_source_split]
    rw [List.append_nil, List.append_nil] at writes
    exact ⟨_, outcome_compile_iff_writes.2 ⟨format, _, writes, rfl⟩, rfl, rfl⟩

section

attribute [local instance] CharNames.none

/-- Quotes, backslashes, backticks and the beginning of a field may stand in a body; a line end may not. -/
theorem compile_directiveFree_of_quotes :
    Segment.DirectiveFree "a$\x7b\"\\\x60$\x7b\x7d%s$" ∧
    (∃ f, (compile true "a$\x7b\"\\\x60$\x7b\x7d%s$").outcome.1 = .ok f ∧
      f.template.text = "a$\x7b\"\\\x60$\x7b\x7d%s$" ∧ f.conditionals = []) ∧
    Segment.DirectiveFree "$\x7ba\nb\x7d" ∧
    ∃ fault, (compile true "$\x7ba\nb\x7d").outcome.1 = .error fault ∧ fault.kind = .compile := by
  have quotes : Segment.DirectiveFree "a$\x7b\"\\\x60$\x7b\x7d%s$" := by decide +kernel
  have broken : Segment.DirectiveFree "$\x7ba\nb\x7d" := by decide +kernel
  refine ⟨quotes, (compile_directiveFree true quotes).2 ?_, broken, (compile_directiveFree true broken).1 ?_⟩
  · have bodies : ∀ segment ∈ Segment.split "a$\x7b\"\\\x60$\x7b\x7d%s$", segment.Writable := by decide +kernel
    exact fun body member => bodies _ member
  · exact ⟨"a\nb", by decide +kernel, by decide +kernel⟩

/-- Half of a pair is neither a line end nor the null character, and yet a body with it does not compile. -/
theorem not_compile_surrogate :
    let body : Text := [.surrogate 0]
    Segment.DirectiveFree (Segment.fieldText body) ∧ Segment.split (Segment.fieldText body) = [.field body] ∧
      (.char '\n' ∉ body ∧ .char '\r' ∉ body ∧ .char '\x00' ∉ body) ∧
      ∃ fault, (compile true (Segment.fieldText body)).outcome.1 = .error fault ∧ fault.kind = .compile := by
  intro body
  have free : Segment.DirectiveFree (Segment.fieldText body) := by decide +kernel
  have split : Segment.split (Segment.fieldText body) = [.field body] := by decide +kernel
  refine ⟨free, split, by decide, exists_compile_error true free ⟨body, ?_, by decide⟩⟩
  rw [split]
  exact List.mem_singleton_self _

end

end Formatter

end LogStyle
