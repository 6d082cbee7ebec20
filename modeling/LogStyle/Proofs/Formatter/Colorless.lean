import LogStyle.Proofs.Formatter.Carry
import LogStyle.Proofs.Formatter.MarkRow
import LogStyle.Proofs.Text.Lockstep

/-! # Formatters without colours

A format compiles with colours exactly when it does without. Its lines fail alike then, and show the same but for the
escape sequences. What is remembered differs: without colours nothing leads back to the style before, so a way back
that is stored may be empty where with colours it is not. It leads to the same text all the same, for what leads back
to a style shows nothing.
-/

namespace LogStyle

open Text Sequel

theorem Text.Fades.eq_nil {u : Text} (fades : Fades [] u) : u = [] :=
  fades.1.erase_eq.symm.trans erasesTo_nil.erase_eq

theorem Style.spelled_false (s : Style) : s.spelled false = [] := rfl

theorem Style.fades_spelled {s : Style} (inRange : s.InRange) : Fades (s.spelled true) (s.spelled false) := by
  have foreground := fades_sequence (isParameter_of_mem_foregroundCode inRange.1) true
  have background := fades_sequence (isParameter_of_mem_backgroundCode inRange.2) true
  refine foreground.append (background.append (.append ?_ ?_))
  · exact fades_sequence (List.all_eq_true.1 (by cases s.bold <;> decide)) true
  · exact fades_sequence (List.all_eq_true.1 (by cases s.reversed <;> decide)) true

theorem Segment.escape_not_mem_source {segment : Segment} {t : Text} (member : segment ∈ scattered t)
    (plain : .char '\x1b' ∉ t) : .char '\x1b' ∉ segment.source := by
  intro inside
  apply plain
  rw [← flatMap_source_scattered t]
  exact List.mem_flatMap.2 ⟨segment, member, inside⟩

/-- A conditional style with colours, and the same without: nothing leads back from the second. -/
structure Conditional.Faded (on off : Conditional) : Prop where
  target : on.target = off.target
  sequence : Fades on.sequence off.sequence
  previous : Fades on.previous []
  nowhere : off.previous = []

namespace Restore

/-- What is remembered with colours, and what is remembered without. -/
structure Faded (on off : Restore) : Prop where
  previous : Fades on.previous []
  nowhere : off.previous = []
  current : Fades on.current off.current
  stored : Fades on.stored off.stored

variable {on off : Restore}

theorem faded_empty : Faded {} {} :=
  ⟨fades_nil, rfl, fades_nil, fades_nil⟩

theorem Faded.forget (faded : Faded on off) : Faded on.forget off.forget :=
  ⟨faded.previous, faded.nowhere, faded.current, fades_nil⟩

theorem Faded.follow (faded : Faded on off) {c c' : Conditional} (same : c.Faded c') :
    Faded (on.follow c) (off.follow c') :=
  ⟨same.previous, same.nowhere, same.sequence, faded.stored⟩

theorem Faded.store (faded : Faded on off) : Faded on.store off.store := by
  refine ⟨faded.previous, faded.nowhere, faded.current, ?_⟩
  change Fades (on.previous ++ on.current) (off.previous ++ off.current)
  rw [faded.nowhere]
  exact faded.previous.append faded.current

theorem Faded.wayBack (faded : Faded on off) : Fades on.wayBack off.wayBack := by
  have alone : off.wayBack = off.stored := by
    unfold Restore.wayBack
    split
    · next empty => rw [empty, faded.nowhere]
    · rfl
  rw [alone]
  unfold Restore.wayBack
  split
  · next empty =>
      have stored := faded.stored
      rw [empty] at stored
      rw [stored.eq_nil]
      exact faded.previous
  · exact faded.stored

end Restore

namespace LineStep

variable {conditionals conditionals' : List Conditional}
  (faded : List.Forall₂ Conditional.Faded conditionals conditionals')
  (line : Line)

/-- What is related of the texts that a line shows with colours and without: the second is what is left of the first,
    unless the line brings an escape character itself. -/
def Shown (line : Line) (t u : Text) : Prop :=
  .char '\x1b' ∉ line.lead → .char '\x1b' ∉ line.clock.pattern → Fades t u

theorem joins_shown : Joins (Shown line) :=
  ⟨fun _ _ => fades_nil, fun here later lead pattern => (here lead pattern).append (later lead pattern)⟩

include faded

theorem rel_getElem? (n : Nat) : Option.Rel Conditional.Faded conditionals[n]? conditionals'[n]? := by
  induction faded generalizing n with
  | nil => exact .none
  | cons here _ ih =>
      cases n with
      | zero => exact .some here
      | succ n => exact ih n

theorem lockstep_ofNumber (value : Text) {on off : Restore} (states : Restore.Faded on off) :
    Lockstep (Shown line) Restore.Faded ((ofNumber conditionals line.level value).run on)
      ((ofNumber conditionals' line.level value).run off) := by
  have nothing : Lockstep (ε := Fault) (Shown line) Restore.Faded (.ok [], on) (.ok [], off) :=
    .writes (joins_shown line).nil states
  unfold ofNumber Restore.named
  by_cases digits : (value ≠ [] && value.all isDigit) = true
  · simp only [if_pos digits]
    cases Numeral.readNat value with
    | error e => exact .fails _ states
    | ok n =>
        have found := rel_getElem? faded n
        simp only
        revert found
        generalize conditionals[n]? = entry
        generalize conditionals'[n]? = entry'
        intro found
        cases found with
        | none => exact nothing
        | @some c c' same =>
            have alike : c.applies line.level = c'.applies line.level := by
              rw [Conditional.applies, same.target, Conditional.applies]
            simp only [alike]
            cases c'.applies line.level with
            | false => exact nothing
            | true => exact .writes (fun _ _ => same.sequence) (states.follow same)
  · simp only [if_neg digits]
    exact nothing

theorem lockstep_ofSegment {segment : Segment} (plain : .char '\x1b' ∉ segment.source) {on off : Restore}
    (states : Restore.Faded on off) :
    Lockstep (Shown line) Restore.Faded ((ofSegment conditionals line segment).run on)
      ((ofSegment conditionals' line segment).run off) := by
  cases segment with
  | literal t => exact .writes (fun _ _ => fades_self plain) states
  | field body =>
      have inside : .char '\x1b' ∉ body := fun member => plain (by simp [Segment.source, Segment.fieldText, member])
      simp only [ofSegment, ofField]
      split
      · exact lockstep_ofNumber faded line _ states
      split
      · exact .writes (joins_shown line).nil states.store
      split
      · exact .writes (fun _ _ => states.wayBack) states
      rw [run_ofOutcome, run_ofOutcome]
      cases known : line.fieldText body with
      | error fault => exact .fails fault states
      | ok shown =>
          exact .writes (fun lead pattern => fades_self (Line.escape_not_mem_of_fieldText lead pattern inside known))
            states

theorem lockstep_ofText {t : Text} (plain : .char '\x1b' ∉ t) {on off : Restore} (states : Restore.Faded on off) :
    Lockstep (Shown line) Restore.Faded (runAll (ofText conditionals line t) on)
      (runAll (ofText conditionals' line t) off) := by
  refine lockstep_runAll (joins_shown line) ?_ states
  rw [ofText, ofText, List.forall₂_map_left_iff, List.forall₂_map_right_iff, List.forall₂_same]
  intro segment member on off states
  exact lockstep_ofSegment faded line (Segment.escape_not_mem_source member plain) states

end LineStep

namespace Mark

open Node

variable {n : Node} {parsed : List Node} {s final : Style} {mark : Mark} {marks : List Mark}

theorem faded_entered [CharNames] (leaves : Leaves n s mark final) (tame : n.Tame) (inRange : s.InRange) :
    List.Forall₂ Conditional.Faded (mark.entered true) (mark.entered false) := by
  cases leaves with
  | text | effect | field | store | restore | unread | broken => exact .nil
  | @entered _ _ _ p _ _ sequence conditional read ran =>
      have quiet : p.Quiet := by
        apply Program.quiet_of_builtin (Program.builtin_of_read read).registry
        rw [← inner_eq conditional read]
        exact tame.inner
      obtain ⟨final, ⟨e, failed⟩ | ⟨output, runs, fades⟩⟩ := Program.execute_withColors p s
      · simp [failed] at ran
      · obtain rfl : output = sequence := by
          funext colors
          simpa [runs] using congrArg Prod.fst (ran colors)
        refine .cons ⟨rfl, fades quiet inRange, ?_, s.spelled_false⟩ .nil
        rw [← s.spelled_false]
        exact Style.fades_spelled inRange

theorem faded_enteredAll [CharNames] (leaves : LeavesAll parsed s marks final) (tame : ∀ n ∈ parsed, n.Tame)
    (inRange : s.InRange) : List.Forall₂ Conditional.Faded (enteredAll true marks) (enteredAll false marks) := by
  induction leaves with
  | nil => exact .nil
  | cons here _ ih =>
      rw [enteredAll, enteredAll, List.flatMap_cons, List.flatMap_cons]
      refine List.rel_append (faded_entered here (tame _ List.mem_cons_self) inRange) ?_
      exact ih (fun other member => tame other (List.mem_cons_of_mem _ member)) (here.inRange inRange)

variable {conditionals conditionals' : List Conditional}
  (faded : List.Forall₂ Conditional.Faded conditionals conditionals') (line : Line) (count : Nat)
include faded

theorem lockstep_written [CharNames] (leaves : Leaves n s mark final) (tame : n.Tame) (inRange : s.InRange)
    {on off : Restore}
    (states : Restore.Faded on off) :
    Lockstep (LineStep.Shown line) Restore.Faded
      (LineStep.runAll (LineStep.ofText conditionals line (mark.written true count)) on)
      (LineStep.runAll (LineStep.ofText conditionals' line (mark.written false count)) off) := by
  rcases leaves.effect_or_plain tame.plain with ⟨effect, found, colored, rfl⟩ | plain
  · have bare (colors : Bool) := brace_not_mem_output found tame.glyphs colors s
    change Lockstep _ _ (LineStep.runAll (LineStep.ofText _ line (effect.output true s)) on)
      (LineStep.runAll (LineStep.ofText _ line (effect.output false s)) off)
    rw [LineStep.runAll_ofText _ _ (bare true), LineStep.runAll_ofText _ _ (bare false)]
    refine .writes (fun _ _ => ?_) states
    refine Effect.fades_output (fun glyph color drawn => ?_) inRange colored true
    exact escape_not_mem_glyph tame.plain (mem_glyphs_of_effect? found drawn)
  · obtain ⟨absent, same⟩ := plain count
    rw [same]
    exact LineStep.lockstep_ofText faded line absent states

theorem lockstep_writtenAll [CharNames] (leaves : LeavesAll parsed s marks final) (tame : ∀ n ∈ parsed, n.Tame)
    (apart : ∀ mark ∈ marks, mark.Apart) (inRange : s.InRange) {on off : Restore} (states : Restore.Faded on off) :
    Lockstep (LineStep.Shown line) Restore.Faded
      (LineStep.runAll (LineStep.ofText conditionals line (writtenAll true count marks)) on)
      (LineStep.runAll (LineStep.ofText conditionals' line (writtenAll false count marks)) off) := by
  -- What each node writes keeps to itself.
  induction leaves generalizing count on off with
  | nil => exact LineStep.lockstep_ofText faded line List.not_mem_nil states
  | @cons n rest s between final mark marks here later ih =>
      rw [ofText_writtenAll_cons apart, ofText_writtenAll_cons apart, LineStep.runAll_append, LineStep.runAll_append,
        mark.length_entered false true]
      apply Lockstep.andThen (LineStep.joins_shown line)
      · exact lockstep_written faded line count here (tame n List.mem_cons_self) inRange states
      · intro on off states
        exact ih _ (fun other member => tame other (List.mem_cons_of_mem _ member))
          (fun other member => apart other (List.mem_cons_of_mem _ member)) (here.inRange inRange) states

end Mark

namespace Formatter

/-- Two formatters of which the second has no colours. -/
structure Faded (on off : Formatter) : Prop where
  targets : on.conditionals.map (·.target) = off.conditionals.map (·.target)
  lines : ∀ line r r', Restore.Faded r r' →
    Lockstep (LineStep.Shown line) Restore.Faded (on.render line r) (off.render line r')

variable {on off : Formatter}

theorem Faded.after (faded : Faded on off) (history : List Call) :
    Restore.Faded (on.after history) (off.after history) := by
  have states (line : Line) {r r' : Restore} (states : Restore.Faded r r') :
      Restore.Faded (on.render line r).2 (off.render line r').2 := by
    have lockstep := faded.lines line r r' states
    generalize on.render line r = first at lockstep ⊢
    generalize off.render line r' = second at lockstep ⊢
    cases lockstep with
    | fails _ states | writes _ states => exact states
  have use (call : Call) {r r' : Restore} (same : Restore.Faded r r') :
      Restore.Faded (on.use r call) (off.use r' call) := by
    cases call with
    | whole line => exact states line same
    | parts line =>
        rw [Formatter.use, Formatter.use, renderParts, renderParts, Template.renderParts_state, Template.renderParts_state]
        exact states line same
  have all {r r' : Restore} (same : Restore.Faded r r') :
      Restore.Faded (history.foldl on.use r) (history.foldl off.use r') := by
    induction history generalizing r r' with
    | nil => exact same
    | cons call rest ih => exact ih (use call same)
  exact all Restore.faded_empty

theorem faded_of_leavesAll [CharNames] {parsed : List Node} {format : Text} {marks : List Mark} {final : Style}
    (read : nodes true format = .ok parsed) (tame : ∀ n ∈ parsed, n.Tame)
    (leaves : Node.LeavesAll parsed Style.plain marks final) :
    Faded (ofTemplate (Mark.writtenAll true 0 marks) (Mark.enteredAll true marks))
      (ofTemplate (Mark.writtenAll false 0 marks) (Mark.enteredAll false marks)) := by
  have entered := Mark.faded_enteredAll leaves tame Style.inRange_plain
  have outside : ∀ u, .text u ∈ parsed → .char '\x7b' ∉ u := fun u member =>
    Node.brace_not_mem_of_readFrom (d := none) rfl read member
  have apart := leaves.apart outside fun n member => (tame n member).glyphs
  constructor
  · change (Mark.enteredAll true marks).map _ = (Mark.enteredAll false marks).map _
    rw [← List.forall₂_eq_eq_eq, List.forall₂_map_left_iff, List.forall₂_map_right_iff]
    exact entered.imp fun _ _ faded => faded.target
  · intro line r r' states
    rw [render_eq_ofText, render_eq_ofText]
    exact Mark.lockstep_writtenAll entered line 0 leaves tame apart Style.inRange_plain states.forget

/-- Colours make no difference to a format with tame nodes but for escape sequences: it compiles with them exactly
    when it does without, enters styles for the same levels, and after any history a line fails alike or shows the
    same once the sequences are taken out, provided the line and its time pattern bring no escape character
    themselves. -/
theorem erase_render [CharNames] {format : Text}
    (tame : ∀ parsed, nodes true format = .ok parsed → ∀ n ∈ parsed, n.Tame) :
    ((∃ on, (compile true format).outcome.1 = .ok on) ↔ ∃ off, (compile false format).outcome.1 = .ok off) ∧
      ∀ on off, (compile true format).outcome.1 = .ok on → (compile false format).outcome.1 = .ok off →
        on.conditionals.map (·.target) = off.conditionals.map (·.target) ∧
        ∀ history line, .char '\x1b' ∉ line.lead → .char '\x1b' ∉ line.clock.pattern →
          (∃ fault, (on.render line (on.after history)).1 = .error fault ∧
            (off.render line (off.after history)).1 = .error fault) ∨
          ∃ shown, (on.render line (on.after history)).1 = .ok shown ∧
            (off.render line (off.after history)).1 = .ok shown.erase ∧ .char '\x1b' ∉ shown.erase := by
  refine ⟨⟨exists_compiled false, exists_compiled true⟩, ?_⟩
  intro on off compiled compiled'
  obtain ⟨parsed, marks, final, read, leaves, numbered, rfl⟩ := compile_iff_leavesAll.1 compiled
  obtain rfl := Except.ok.inj (compiled'.symm.trans (compiled_of_leavesAll false read leaves numbered))
  have faded := faded_of_leavesAll read (tame parsed read) leaves
  refine ⟨faded.targets, ?_⟩
  intro history line lead pattern
  have lockstep := faded.lines line _ _ (faded.after history)
  generalize render _ line _ = first at lockstep ⊢
  generalize render _ line _ = second at lockstep ⊢
  cases lockstep with
  | fails fault states => exact .inl ⟨fault, rfl, rfl⟩
  | @writes shown shown' _ _ fades states =>
      obtain ⟨erases, absent⟩ := fades lead pattern
      obtain rfl := erases.erase_eq
      exact .inr ⟨shown, rfl, rfl, absent⟩

section

attribute [local instance] CharNames.none

/-- A line of information that restores what it has stored, behind a line of errors. -/
theorem erase_render_of_stored :
    let format : Text := "\x7bfg 3\x7d\x7bonerror \"\x7bbold\x7d!\"\x7d\x7bstore\x7d$\x7blevel\x7d\x7brestore\x7d"
    let history : List Call := [.whole (Line.plain .error)]
    ∃ on off shown, (compile true format).outcome.1 = .ok on ∧ (compile false format).outcome.1 = .ok off ∧
      (∀ parsed, nodes true format = .ok parsed → ∀ n ∈ parsed, n.Tame) ∧
      on.conditionals.map (·.target) = off.conditionals.map (·.target) ∧
      (on.render (Line.plain .info) (on.after history)).1 = .ok shown ∧ shown.erase = ("INFO!" : Text) ∧
      .char '\x1b' ∉ shown.erase := by
  intro format history
  have tame : ∀ parsed, nodes true format = .ok parsed → ∀ n ∈ parsed, n.Tame := fun parsed read =>
    of_decide_eq_true (of_all _ (fun parsed => ∀ n ∈ parsed, n.Tame) (by decide +kernel) read)
  obtain ⟨on, compiled, -⟩ := exists_of_any (compile true format).outcome.1 (fun _ => true) (by decide +kernel)
  obtain ⟨off, compiled', plain⟩ := exists_of_any (compile false format).outcome.1
    (fun off => (off.render (Line.plain .info) (off.after history)).1.toOption = some ("INFO!" : Text)) (by decide +kernel)
  rw [decide_eq_true_eq] at plain
  obtain ⟨targets, lines⟩ := (erase_render tame).2 on off compiled compiled'
  obtain ⟨fault, -, failed⟩ | ⟨shown, renders, erased, absent⟩ :=
    lines history (Line.plain .info) (by decide) (by decide)
  · simp [failed, Except.toOption] at plain
  · rw [erased, Except.toOption, Option.some.injEq] at plain
    exact ⟨on, off, shown, compiled, compiled', tame, targets, renders, plain, absent⟩

end

section

attribute [local instance] CharNames.none

/-- The time pattern of the host is shown as it is, whether a format has colours or not. -/
theorem escape_mem_render_of_pattern :
    let line : Line := { Line.plain .info with clock := ⟨(Line.plain .info).clock.now, "\x1b[1m"⟩ }
    (∀ parsed, nodes true "$\x7btime\x7d" = .ok parsed → ∀ n ∈ parsed, n.Tame) ∧ .char '\x1b' ∉ line.lead ∧
      ∃ on off shown, (compile true "$\x7btime\x7d").outcome.1 = .ok on ∧
        (compile false "$\x7btime\x7d").outcome.1 = .ok off ∧ (on.render line {}).1 = .ok shown ∧
        (off.render line {}).1 = .ok shown ∧ .char '\x1b' ∈ shown ∧ shown.erase ≠ shown := by
  intro line
  obtain ⟨on, compiled, shown⟩ := exists_of_any (compile true "$\x7btime\x7d").outcome.1
    (fun on => (on.render line {}).1.toOption = some ("\x1b[1m" : Text)) (by decide +kernel)
  obtain ⟨off, compiled', shown'⟩ := exists_of_any (compile false "$\x7btime\x7d").outcome.1
    (fun off => (off.render line {}).1.toOption = some ("\x1b[1m" : Text)) (by decide +kernel)
  have renders := eq_ok_of_toOption (of_decide_eq_true shown)
  have renders' := eq_ok_of_toOption (of_decide_eq_true shown')
  refine ⟨?_, by decide, on, off, _, compiled, compiled', renders, renders', by decide, ?_⟩
  · intro parsed read
    exact of_decide_eq_true (of_all _ (fun parsed => ∀ n ∈ parsed, n.Tame) (by decide +kernel) read)
  · have digit : ∀ c ∈ ("1" : Text), isParameter c = true := List.all_eq_true.1 (by decide)
    have erases : Text.erase "\x1b[1m" = [] := (Style.erasesTo_sequence digit true).erase_eq
    rw [erases]
    decide

end

end Formatter

end LogStyle
