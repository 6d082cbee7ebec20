import LogStyle.Proofs.Program.Decorative
import LogStyle.Proofs.Template.Field
import LogStyle.Proofs.Theme.ClosedForm

/-! # Themes that only decorate

With the escape sequences taken out, a line of a theme is the line that the user's format shows without the theme.
That needs a format in which no stretch swallows the directive that is put behind it, and fragments that fit on a
line.
-/

namespace LogStyle

namespace Line

variable {line : Line}

theorem escape_not_mem_of_rendered (lead : .char '\x1b' ∉ line.lead) (pattern : .char '\x1b' ∉ line.clock.pattern)
    {t shown : Text} (plain : .char '\x1b' ∉ t) (shows : line.rendered t = .ok shown) : .char '\x1b' ∉ shown := by
  obtain ⟨texts, same, rfl⟩ := Sequel.joined_eq_ok.1 shows
  intro member
  obtain ⟨u, inside, member⟩ := List.mem_flatten.1 member
  have outcome : .ok u ∈ (Segment.split t).map line.segmentText := same ▸ List.mem_map_of_mem inside
  obtain ⟨segment, inside, known⟩ := List.mem_map.1 outcome
  have source : .char '\x1b' ∉ segment.source := by
    intro member
    rw [← Segment.flatMap_source_split t] at plain
    exact plain (List.mem_flatMap.2 ⟨segment, inside, member⟩)
  cases segment with
  | literal v =>
      cases known
      exact source member
  | field body =>
      have bodyPlain : .char '\x1b' ∉ body := fun member => source (by simp [Segment.source, Segment.fieldText, member])
      exact escape_not_mem_of_fieldText lead pattern bodyPlain known member

theorem exists_rendered {t : Text} (encodable : ∀ segment ∈ Segment.split t, ¬ segment.Unencodable line.clock) :
    ∃ shown, line.rendered t = .ok shown := by
  refine Sequel.exists_joined fun outcome inside => ?_
  obtain ⟨segment, member, rfl⟩ := List.mem_map.1 inside
  cases segment with
  | literal u => exact ⟨u, rfl⟩
  | field body =>
      rcases shown : line.fieldText body with fault | u
      · exact absurd ((exists_fieldText_eq_error line body).1 ⟨fault, shown⟩) (encodable _ member)
      · exact ⟨u, shown⟩

end Line

namespace Sequel

variable {ε : Type}

/-- An outcome is another one with the escape sequences taken out, or the same failure. -/
inductive ErasesTo : Except ε Text → Except ε Text → Prop
  | ok {t u : Text} (erases : t.ErasesTo u) : ErasesTo (.ok t) (.ok u)
  | error (e : ε) : ErasesTo (.error e) (.error e)

theorem ErasesTo.map_erase {shown plain : Except ε Text} (erases : ErasesTo shown plain) :
    shown.map Text.erase = plain := by
  cases erases with
  | ok erases => exact congrArg Except.ok erases.erase_eq
  | error e => rfl

theorem erasesTo_joined {α : Type} {shown plain : α → Except ε Text} {items : List α}
    (erases : ∀ item ∈ items, ErasesTo (shown item) (plain item)) :
    ErasesTo (joined (items.map shown)) (joined (items.map plain)) := by
  induction items with
  | nil => exact .ok Text.erasesTo_nil
  | cons item rest ih =>
      have here := erases item List.mem_cons_self
      have later := ih fun other member => erases other (List.mem_cons_of_mem _ member)
      rw [List.map_cons, List.map_cons]
      generalize shown item = outcome, plain item = outcome' at here
      cases here with
      | error e => exact .error e
      | ok first =>
          rw [joined, joined]
          generalize joined (rest.map shown) = behind, joined (rest.map plain) = behind' at later
          cases later with
          | error e => exact .error e
          | ok erases => exact .ok (first.append erases)

end Sequel

namespace Theme

namespace Clause

/-- A clause that runs whatever ran before it, and enters its style if it is one for the lines of one level. -/
def Ready [CharNames] : Clause → Prop
  | plain t => ∀ body, .field body ∈ Segment.scattered t → body ≠ [] ∧ Literal.Writable body
  | on _ fragment => Text.hollow fragment = true ∧ Literal.Writable fragment ∧
    ∃ sequence, (PureProgram.compileAndExecute [] true fragment Style.plain).outcome.1 = .ok sequence
  | _ => True

theorem Ready.exists_runs [CharNames] {c : Clause} (ready : c.Ready) (l : Ledger)
    (short : ∀ n < l.conditionals.length + [c].countP isOn, Numeral.isLong (n : Nat) = false) :
    ∃ t l', c.Runs true l t l' ∧ l'.conditionals.length = l.conditionals.length + [c].countP isOn := by
  cases c with
  | plain t => exact ⟨t, l, .plain ready, rfl⟩
  | store => exact ⟨_, l, .store, rfl⟩
  | restore => exact ⟨_, l, .restore, rfl⟩
  | reset => exact ⟨_, l, .reset, rfl⟩
  | on level fragment =>
      obtain ⟨isHollow, writable, sequence, runs⟩ := ready
      have number : Numeral.isLong l.conditionals.length = false := short _ (Nat.lt_succ_self _)
      obtain ⟨written, length⟩ := (Ledger.recorded wayBack_plain (.text level.lower) fragment l).of_outcome runs number
      rcases recorded : l.record true Style.plain (.ofText level.lower) (.ofText fragment) with ⟨result, l'⟩
      rw [Arg.toValue_text, recorded] at written length
      obtain rfl : result = _ := written
      exact ⟨_, l', .on isHollow writable recorded, length⟩

theorem exists_runsAll [CharNames] {clauses : List Clause} (ready : ∀ c ∈ clauses, c.Ready) (l : Ledger)
    (short : ∀ n < l.conditionals.length + clauses.countP isOn, Numeral.isLong (n : Nat) = false) :
    ∃ t l', RunsAll true clauses l t l' ∧ l'.conditionals.length = l.conditionals.length + clauses.countP isOn := by
  induction clauses generalizing l with
  | nil => exact ⟨[], l, .nil, rfl⟩
  | cons c rest ih =>
      have count : ([c] ++ rest).countP isOn = [c].countP isOn + rest.countP isOn := List.countP_append
      rw [List.singleton_append] at count
      obtain ⟨t, between, here, grown⟩ := (ready c List.mem_cons_self).exists_runs l fun n le => short n (by omega)
      obtain ⟨u, l', later, grown'⟩ := ih (fun other member => ready other (List.mem_cons_of_mem _ member)) between
        fun n le => short n (by omega)
      exact ⟨t ++ u, l', .cons here later, by omega⟩

end Clause

variable {format : Text} {p : Palette}

theorem ready_of_mem_preludeClauses [CharNames] {part : Part}
    (fragments : ∀ level, (Clause.on level ((p level).fragment part)).Ready) :
    ∀ c ∈ preludeClauses p part, c.Ready := by
  intro c member
  obtain ⟨level, -, rfl⟩ := List.mem_map.1 member
  exact fragments level

theorem ready_of_mem_lineClauses [CharNames] 
    (fragments : ∀ level part, (part = .label → level = .error ∨ level = .fatal) →
      (Clause.on level ((p level).fragment part)).Ready)
    (fields : ∀ stretch ∈ stretches format, (Clause.plain stretch.text).Ready) :
    ∀ c ∈ lineClauses p format, c.Ready := by
  intro c member
  cases c with
  | plain t =>
      obtain ⟨stretch, inside, same⟩ := exists_of_plain_mem_lineClauses member
      exact same ▸ fields stretch inside
  | on level fragment =>
      obtain ⟨part, severe, rfl⟩ := exists_of_on_mem_lineClauses member
      exact fragments level part severe
  | store | restore | reset => trivial

theorem exists_compile [CharNames] (fitting : Fitting format)
    (fields : ∀ body, .field body ∈ Segment.scattered format → body ≠ [] ∧ Literal.Writable body)
    (decorative : p.Decorative) (writable : ∀ level part, Literal.Writable ((p level).fragment part))
    (short : Numeral.isLong (5 + 2 * labelCount format : Nat) = false) :
    ∃ t l theme, Clause.RunsAll true (lineClauses p format) {} t l ∧
      l.conditionals.length = 6 + 2 * labelCount format ∧ (compile true format p).outcome.1 = .ok theme ∧
      theme.line = Formatter.ofTemplate t l.conditionals := by
  have fragments (level : Level) (part : Part) : (Clause.on level ((p level).fragment part)).Ready := by
    obtain ⟨sequence, runs, -⟩ := (decorative level part).exists_outcome Style.plain
    exact ⟨Text.hollow_of_not_mem (decorative level part).dollar_not_mem, writable level part, sequence, runs⟩
  have numbers {n : Nat} (le : n < 6 + 2 * labelCount format) : Numeral.isLong n = false :=
    Numeral.isLong_of_le (by omega) short
  have ready := ready_of_mem_lineClauses (fun level part _ => fragments level part) fun stretch member body inside =>
    fields body (fitting.mem_scattered member inside)
  obtain ⟨t, l, runs, grown⟩ := Clause.exists_runsAll ready {} fun n le => numbers <| by
    rw [countP_isOn_lineClauses] at le
    exact Nat.lt_of_lt_of_eq le (Nat.zero_add _)
  have six : (preludeClauses p .trail).countP Clause.isOn = 6 := rfl
  obtain ⟨t', l', runs', -⟩ := Clause.exists_runsAll (ready_of_mem_preludeClauses (fragments · .trail))
    {} fun n le => numbers <| by
      rw [six] at le
      exact Nat.lt_of_lt_of_le le (Nat.le_add_right 6 _)
  rw [countP_isOn_lineClauses] at grown
  exact ⟨t, l, ⟨.ofTemplate t l.conditionals, .ofTemplate t' l'.conditionals⟩, runs, grown.trans (Nat.zero_add _),
    (outcome_compile_iff_runsAll fitting.fits).2 ⟨⟨t, l, runs, rfl⟩, t', l', runs', rfl⟩, rfl⟩

theorem erasesTo_plainWay : Text.ErasesTo plainWay [] := by
  have one (parameters : Text) (plain : parameters.all isParameter = true) :
      Text.ErasesTo (Style.sequence true parameters) [] :=
    Style.erasesTo_sequence (List.all_eq_true.1 plain) true
  have parts : plainWay = Style.sequence true "39" ++ Style.sequence true "49" ++ Style.sequence true "22" ++
      Style.sequence true "27" := by decide
  rw [parts]
  exact (((one "39" (by decide)).append (one "49" (by decide))).append (one "22" (by decide))).append
    (one "27" (by decide))

theorem erasesTo_closedForm [CharNames] {line : Line} {first style : Text} (firstErases : Text.ErasesTo first [])
    (styleErases : Text.ErasesTo style [])
    (plain : ∀ stretch ∈ stretches format, ∀ u, line.rendered stretch.text = .ok u → .char '\x1b' ∉ u) :
    Sequel.ErasesTo
      ((Sequel.joined ((stretches format).map (Stretch.themed line style (plainWay ++ first)))).map fun shown =>
        first ++ shown ++ Formatter.resetSequence true)
      (Sequel.joined ((stretches format).map fun stretch => line.rendered stretch.text)) := by
  have reset : Text.ErasesTo (Formatter.resetSequence true) [] :=
    Style.erasesTo_sequence (List.all_eq_true.1 (by decide)) true
  have body : Sequel.ErasesTo (Sequel.joined ((stretches format).map (Stretch.themed line style (plainWay ++ first))))
      (Sequel.joined ((stretches format).map fun stretch => line.rendered stretch.text)) := by
    refine Sequel.erasesTo_joined fun stretch member => ?_
    have absent := plain stretch member
    cases stretch with
    | between t =>
        simp only [Stretch.themed, Stretch.text] at absent ⊢
        cases shows : line.rendered t with
        | error fault => exact .error fault
        | ok u => exact .ok (Text.erasesTo_self (absent u shows))
    | label t =>
        simp only [Stretch.themed, Stretch.text] at absent ⊢
        cases shows : line.rendered t with
        | error fault => exact .error fault
        | ok u =>
            have shown := Text.erasesTo_self (absent u shows)
            have whole := ((styleErases.append shown).append reset).append (erasesTo_plainWay.append firstErases)
            exact .ok (by simpa only [List.append_assoc, List.append_nil, List.nil_append] using whole)
  generalize Sequel.joined ((stretches format).map (Stretch.themed line style (plainWay ++ first))) = shown,
    Sequel.joined ((stretches format).map fun stretch => line.rendered stretch.text) = plain at body
  cases body with
  | error fault => exact .error fault
  | ok erases =>
      have whole := (firstErases.append erases).append reset
      rw [List.append_nil, List.nil_append] at whole
      exact .ok whole

end Theme

theorem Segment.not_unencodable_of_encodable {clock : Clock} {body : Text} (pattern : clock.pattern.isEncodable = true)
    (encodable : body.isEncodable = true) : ¬ (field body).Unencodable clock := by
  rintro ⟨-, broken⟩
  have value : (nameAndValue body).2.isEncodable = true := by
    have suffix : (nameAndValue body).2 <:+ body := (Text.prefix_suffix_of_cut (c := ':')).2
    rw [Text.isEncodable, List.all_eq_true] at encodable ⊢
    exact fun c member => encodable c (suffix.subset member)
  unfold Handler.timePattern at broken
  split at broken
  · simp [pattern] at broken
  · simp [value] at broken

/-- A segment of a format whose braces all belong to fields, each one with a body that stands on one line and is left
    to the host. -/
def Segment.Linewise : Segment → Prop
  | literal t => .char '\x7b' ∉ t
  | field body => body ≠ [] ∧ .char '\n' ∉ body ∧ .char '\r' ∉ body ∧ .char '\x00' ∉ body ∧
    (nameAndValue body).1 ∉ [Ledger.conditionalName, Ledger.storeName, Ledger.restoreName]

instance : DecidablePred Segment.Linewise
  | .literal _ => inferInstanceAs (Decidable (_ ∉ _))
  | .field _ => inferInstanceAs (Decidable (_ ∧ _ ∧ _ ∧ _ ∧ _))

/-- A segment of a format whose braces all belong to fields, each one with a body that can be written as an argument
    and left to the host. -/
def Segment.Hosted : Segment → Prop
  | literal t => .char '\x7b' ∉ t
  | field body => body ≠ [] ∧ Literal.Writable body ∧
    (nameAndValue body).1 ∉ [Ledger.conditionalName, Ledger.storeName, Ledger.restoreName]

instance : DecidablePred Segment.Hosted
  | .literal _ => inferInstanceAs (Decidable (_ ∉ _))
  | .field _ => inferInstanceAs (Decidable (_ ∧ _ ∧ _))

namespace Theme

/-- A theme that only decorates a line: it compiles, and its first line with the escape sequences taken out is what
    the format shows by itself; if the one cannot be shown, neither can the other. -/
def Decorates [CharNames] (format : Text) (p : Palette) (line : Line) : Prop :=
  ∃ theme, (compile true format p).outcome.1 = .ok theme ∧
    (theme.line.render line {}).1.map Text.erase = ((Template.ofText format : Template Unit).render line ()).1

instance [CharNames] (format : Text) (p : Palette) (line : Line) : Decidable (Decorates format p line) :=
  decidable_of_iff
    ((compile true format p).outcome.1.toOption.any fun theme =>
      (theme.line.render line {}).1.map Text.erase = ((Template.ofText format : Template Unit).render line ()).1) <| by
    unfold Decorates
    cases (compile true format p).outcome.1 <;> simp [Except.toOption]

/-- A theme of decorative fragments that fit on a line only decorates, if its directives are not swallowed by what
    they are put behind: no stretch of the format leaves a field open or ends in a dollar sign. The line is shown, if
    the pattern of its times can be encoded. -/
theorem decorates_of_closed [CharNames] {format : Text} {p : Palette}
    (hosted : ∀ segment ∈ Segment.split format, segment.Hosted) (decorative : p.Decorative)
    (closed : ∀ stretch ∈ stretches format, Segment.Closed stretch.text)
    (writable : ∀ level part, Literal.Writable ((p level).fragment part))
    (short : Numeral.isLong (5 + 2 * labelCount format : Nat) = false) {line : Line} (plain : .char '\x1b' ∉ format)
    (lead : .char '\x1b' ∉ line.lead) (pattern : .char '\x1b' ∉ line.clock.pattern) :
    Decorates format p line ∧
      (line.clock.pattern.isEncodable = true →
        ∃ shown, (Template.ofText format : Template Unit).render line () = (.ok shown, ())) := by
  have fitting : Fitting format := by
    refine ⟨closed, fun u member brace => ?_, fun body member => ?_⟩
    · obtain ⟨t, inside, within⟩ := Segment.exists_of_literal_mem_flatMap_scatter member
      exact hosted _ inside (within brace)
    · exact (hosted _ (Segment.field_mem_flatMap_scatter.1 member)).2.2
  have fields (body : Text) (member : .field body ∈ Segment.scattered format) : body ≠ [] ∧ Literal.Writable body :=
    ⟨(hosted _ (Segment.field_mem_flatMap_scatter.1 member)).1,
      (hosted _ (Segment.field_mem_flatMap_scatter.1 member)).2.1⟩
  constructor
  · obtain ⟨t, l, theme, runs, full, compiled, made⟩ := exists_compile fitting fields decorative writable short
    have output (level : Level) (part : Part) : Text.ErasesTo (fragmentOutput true ((p level).fragment part)) [] := by
      obtain ⟨sequence, ran, erases⟩ := (decorative level part).exists_outcome Style.plain
      have same : fragmentOutput true ((p level).fragment part) = sequence := by
        rw [fragmentOutput, ran]
        rfl
      rwa [same]
    have style : Text.ErasesTo (labelStyle p line.level) [] := by
      cases line.level with
      | error => exact output .error .label
      | fatal => exact output .fatal .label
      | trace | debug | info | warning => exact Text.erasesTo_nil
    -- Cut at the seams the format shows what it shows as a whole, for no field stands across one.
    have whole :
        line.rendered format = Sequel.joined ((stretches format).map fun stretch => line.rendered stretch.text) := by
      rw [← rendered_flatMap_text closed, flatMap_text_stretches]
    have stretchPlain (stretch : Stretch) (member : stretch ∈ stretches format) (u : Text)
        (shows : line.rendered stretch.text = .ok u) : .char '\x1b' ∉ u := by
      refine Line.escape_not_mem_of_rendered lead pattern (fun inside => plain ?_) shows
      rw [← flatMap_text_stretches format]
      exact List.mem_flatMap.2 ⟨stretch, member, inside⟩
    refine ⟨theme, compiled, ?_⟩
    rw [made, render_of_runsAll fitting runs full line {}, Line.render_ofText, whole]
    exact (erasesTo_closedForm (output line.level .first) style stretchPlain).map_erase
  · intro encodable
    rw [Line.render_ofText]
    have shows : ∀ segment ∈ Segment.split format, ¬ segment.Unencodable line.clock := by
      intro segment member
      cases segment with
      | literal u => exact id
      | field body => exact Segment.not_unencodable_of_encodable encodable (hosted _ member).2.1.encodable
    obtain ⟨shown, shows⟩ := Line.exists_rendered shows
    exact ⟨shown, by rw [shows]⟩

section

attribute [local instance] CharNames.none

/-- The built-in palettes only decorate a line with a label, a time and a dollar sign. -/
theorem decorates_of_builtin :
    let format : Text := "$\x7btime\x7d $\x7blevel:[%s]\x7d $5 %s"
    let line := Line.plain .error
    Decorates format .dark line ∧ Decorates format .light line ∧ Decorates format .standard line := by
  intro format line
  have fits : ∀ entry ∈ Palette.builtins, ∀ level ∈ Level.all, ∀ part ∈ Part.all,
      Literal.Writable ((entry.2 level).fragment part) := by decide
  have decorates (entry : Text × Palette) (member : entry ∈ Palette.builtins) : Decorates format entry.2 line :=
    (decorates_of_closed (by decide +kernel) (Palette.decorative_builtins entry member) (by decide +kernel)
      (fun level part => fits entry member level level.mem_all part part.mem_all) (by decide +kernel)
      (by decide) (by decide) (by decide)).1
  refine ⟨decorates ("dark", .dark) ?_, decorates ("light", .light) ?_, decorates ("default", .standard) ?_⟩
  · exact List.mem_cons_self
  · exact List.mem_cons_of_mem _ List.mem_cons_self
  · exact List.mem_cons_of_mem _ (List.mem_cons_of_mem _ List.mem_cons_self)

/-- A directive is swallowed behind a dollar sign at the end of the format, by one in front of the blanks before a
    label, and by a field that a label begins in; and neither a fragment with a line end in a directive is read nor a
    field with half of a pair in its body. -/
theorem not_decorates_at_seams :
    let fails (format : Text) (p : Palette) : Prop :=
      (∀ segment ∈ Segment.split format, segment.Linewise) ∧ p.Decorative ∧ .char '\x1b' ∉ format ∧
        ¬ Decorates format p (Line.plain .info)
    fails "x$" .dark ∧ fails "$ $\x7blevel\x7d" .dark ∧ fails "$\x7bx $\x7blevel\x7d" .dark ∧
      fails "%s" (Palette.empty.set .info { first := "\x7bfg\n5\x7d" }) ∧
      fails (Segment.fieldText [.surrogate 0x4ff]) .dark := by
  decide +kernel

end

end Theme

end LogStyle
