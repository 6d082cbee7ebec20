import LogStyle.Proofs.Formatter.Mark
import LogStyle.Proofs.Template.Field

/-! # Marks on a line

What a mark puts in a template is split off by itself when the template is split, whatever the marks around it put
there. So the row of steps of a line is made of one row for each mark.
-/

namespace LogStyle

namespace LineStep

/-- The row of steps of a text in a template. -/
def ofText (conditionals : List Conditional) (line : Line) (t : Text) : List LineStep :=
  (Segment.scattered t).map (ofSegment conditionals line)

variable (conditionals : List Conditional) (line : Line)

theorem ofText_nil : ofText conditionals line [] = [] := by
  rw [ofText, Segment.scattered_nil]
  rfl

theorem ofText_append {t u : Text} (noneOpen : Segment.NoneOpen t) (seam : u.head? ≠ some (.char '\x7b')) :
    ofText conditionals line (t ++ u) = ofText conditionals line t ++ ofText conditionals line u := by
  rw [ofText, Segment.scattered_append noneOpen fun _ => seam, List.map_append]
  rfl

theorem runAll_plain (t : Text) (r : Restore) :
    runAll ((Segment.plain t).map (ofSegment conditionals line)) r = (.ok t, r) := by
  induction t with
  | nil => rfl
  | cons c rest ih =>
      have first : Segment.plain (c :: rest) = .literal [c] :: Segment.plain rest := rfl
      rw [first, List.map_cons, runAll, ofSegment, run, Sequel.andThen_ok, ih]
      rfl

theorem runAll_ofText {t : Text} (plain : .char '\x7b' ∉ t) (r : Restore) :
    runAll (ofText conditionals line t) r = (.ok t, r) := by
  rw [ofText, Segment.scattered_of_fieldless (Segment.fieldless_of_brace plain), runAll_plain]

end LineStep

theorem Formatter.render_eq_ofText (t : Text) (conditionals : List Conditional) (line : Line) (r : Restore) :
    (ofTemplate t conditionals).render line r = LineStep.runAll (LineStep.ofText conditionals line t) r.forget := by
  have text : (ofTemplate t conditionals).template.text = t := rfl
  rw [render, Template.render_eq_scattered, renderSegments_ofTemplate, text]
  rfl

namespace Segment

theorem noneOpen_fieldText (body : Text) : NoneOpen (fieldText body) :=
  noneOpen_of_close (.char '$' :: .char '\x7b' :: body) List.not_mem_nil

end Segment

namespace Ledger

theorem noneOpen_diagnostic (stage message : Text) : Segment.NoneOpen (diagnostic stage message) :=
  Segment.noneOpen_of_close ("#\x7b" ++ stage ++ " ERROR: " ++ message) List.not_mem_nil

end Ledger

namespace Mark

/-- A mark that keeps to itself in every template. -/
def Apart (mark : Mark) : Prop :=
  ∀ colors count, Segment.NoneOpen (mark.written colors count) ∧ (mark.written colors count).head? ≠ some (.char '\x7b')

variable {marks : List Mark}

theorem head?_writtenAll (apart : ∀ mark ∈ marks, mark.Apart) (colors : Bool) (count : Nat) :
    (writtenAll colors count marks).head? ≠ some (.char '\x7b') := by
  induction marks generalizing count with
  | nil => simp [writtenAll]
  | cons mark rest ih =>
      have here := (apart mark List.mem_cons_self colors count).2
      rw [writtenAll]
      cases written : mark.written colors count with
      | nil => exact ih (fun other member => apart other (List.mem_cons_of_mem _ member)) _
      | cons c t =>
          rw [written] at here
          exact here

theorem ofText_writtenAll_cons {mark : Mark} (apart : ∀ other ∈ mark :: marks, other.Apart)
    (conditionals : List Conditional) (line : Line) (colors : Bool) (count : Nat) :
    LineStep.ofText conditionals line (writtenAll colors count (mark :: marks)) =
      LineStep.ofText conditionals line (mark.written colors count) ++
        LineStep.ofText conditionals line (writtenAll colors (count + (mark.entered colors).length) marks) := by
  rw [writtenAll]
  apply LineStep.ofText_append
  · exact (apart mark List.mem_cons_self colors count).1
  · exact head?_writtenAll (fun other member => apart other (List.mem_cons_of_mem _ member)) colors _

theorem ofText_writtenAll_append {front back : List Mark} (apart : ∀ mark ∈ front ++ back, mark.Apart)
    (conditionals : List Conditional) (line : Line) (colors : Bool) (count : Nat) :
    LineStep.ofText conditionals line (writtenAll colors count (front ++ back)) =
      LineStep.ofText conditionals line (writtenAll colors count front) ++
        LineStep.ofText conditionals line (writtenAll colors (count + (enteredAll colors front).length) back) := by
  induction front generalizing count with
  | nil =>
      rw [writtenAll, LineStep.ofText_nil]
      rfl
  | cons mark rest ih =>
      rw [List.cons_append] at apart
      have early : ∀ other ∈ mark :: rest, other.Apart := fun other member => apart other (List.mem_append_left _ member)
      have later :=
        ih (fun other member => apart other (List.mem_cons_of_mem _ member)) (count + (mark.entered colors).length)
      rw [List.cons_append, ofText_writtenAll_cons apart, ofText_writtenAll_cons early, later, List.append_assoc]
      simp only [enteredAll, List.flatMap_cons, List.length_append, Nat.add_assoc]

theorem runAll_writtenAll_append {front back : List Mark} (apart : ∀ mark ∈ front ++ back, mark.Apart)
    (conditionals : List Conditional) (line : Line) (colors : Bool) (count : Nat) (r : Restore) :
    LineStep.runAll (LineStep.ofText conditionals line (writtenAll colors count (front ++ back))) r =
      Sequel.andThen (LineStep.runAll (LineStep.ofText conditionals line (writtenAll colors count front)) r)
        (LineStep.runAll (LineStep.ofText conditionals line
          (writtenAll colors (count + (enteredAll colors front).length) back))) := by
  rw [ofText_writtenAll_append apart, LineStep.runAll_append]

end Mark

namespace Node

def glyphs : Node → List Text
  | .text _ => []
  | .call name args _ => if name = Directive.leave.name ∨ name = Directive.enter.name then Arg.texts args else []

theorem mem_glyphs_of_effect? {n : Node} {effect : Effect} (found : n.effect? = some effect) {glyph : Text}
    {color : Int} (drawn : effect = .leave glyph color ∨ effect = .enter color glyph) : glyph ∈ n.glyphs := by
  cases n with
  | text t => cases found
  | call name args position =>
      obtain ⟨d, known, fits⟩ := Option.bind_eq_some_iff.1 found
      obtain rfl : d.name = name := by simpa using List.find?_some known
      have transition : d.name = Directive.leave.name ∨ d.name = Directive.enter.name := by
        rcases drawn with rfl | rfl
        · exact .inl (congrArg Directive.name (Directive.of_effect?_leave fits).1)
        · exact .inr (congrArg Directive.name (Directive.of_effect?_enter fits).1)
      rw [glyphs, if_pos transition]
      exact Directive.mem_texts_of_effect? fits drawn

/-- The nodes of the fragment of a call for a conditional style, if it can be read. -/
def inner [CharNames] (n : Node) : List Node :=
  match n.fragment? with
  | none => []
  | some (_, fragment) =>
    match Program.read (σ := Unit) [] true fragment with
    | .error _ => []
    | .ok p => p.nodes

/-- A node that draws no opening brace, with no escape character in its texts and in those of its fragment. -/
structure Tame [CharNames] (n : Node) : Prop where
  plain : n.EscapeFree
  glyphs : ∀ t ∈ n.glyphs, .char '\x7b' ∉ t
  inner : ∀ node ∈ n.inner, node.EscapeFree

instance [CharNames] : DecidablePred Tame := fun n =>
  decidable_of_iff (n.EscapeFree ∧ (∀ t ∈ n.glyphs, .char '\x7b' ∉ t) ∧ ∀ node ∈ n.inner, node.EscapeFree)
    ⟨fun ⟨plain, glyphs, inner⟩ => ⟨plain, glyphs, inner⟩, fun tame => ⟨tame.plain, tame.glyphs, tame.inner⟩⟩

theorem inner_eq [CharNames] {n : Node} {level : Arg} {fragment : Text} {p : PureProgram}
    (conditional : n.fragment? = some (level, fragment)) (read : Program.read [] true fragment = .ok p) :
    n.inner = p.nodes := by
  simp only [inner, conditional, read]

variable {n : Node} {s final : Style} {mark : Mark}

theorem escape_not_mem_glyph (plain : n.EscapeFree) {t : Text} (drawn : t ∈ n.glyphs) : .char '\x1b' ∉ t := by
  cases n with
  | text u => cases drawn
  | call name args position =>
      rw [glyphs] at drawn
      split at drawn
      · exact plain t drawn
      · cases drawn

theorem brace_not_mem_output {effect : Effect} (found : n.effect? = some effect)
    (glyphs : ∀ t ∈ n.glyphs, .char '\x7b' ∉ t)
    (colors : Bool) (s : Style) : .char '\x7b' ∉ effect.output colors s := by
  apply Effect.brace_not_mem_output
  intro glyph color drawn
  exact glyphs glyph (mem_glyphs_of_effect? found drawn)

theorem Leaves.apart [CharNames] (leaves : Leaves n s mark final) (outside : ∀ t, n = .text t → .char '\x7b' ∉ t)
    (glyphs : ∀ t ∈ n.glyphs, .char '\x7b' ∉ t) : mark.Apart := by
  have plain {t : Text} (absent : .char '\x7b' ∉ t) : Segment.NoneOpen t ∧ t.head? ≠ some (.char '\x7b') :=
    ⟨(Segment.fieldless_of_brace absent).noneOpen, fun first => absent (List.mem_of_head? first)⟩
  have field (body : Text) : Segment.NoneOpen (Segment.fieldText body) ∧ (Segment.fieldText body).head? ≠ some (.char '\x7b') :=
    ⟨Segment.noneOpen_fieldText body, by simp [Segment.fieldText]⟩
  have diagnostic (stage message : Text) : Segment.NoneOpen (Ledger.diagnostic stage message) ∧
      (Ledger.diagnostic stage message).head? ≠ some (.char '\x7b') :=
    ⟨Ledger.noneOpen_diagnostic stage message, by simp [Ledger.diagnostic]⟩
  intro colors count
  cases leaves with
  | text t => exact plain (outside t rfl)
  | effect found colored => exact plain (brace_not_mem_output found glyphs colors s)
  | field _ arg => exact field arg.toValue.shown
  | store => exact field Ledger.storeName
  | restore => exact field Ledger.restoreName
  | unread => exact diagnostic "COMPILE" _
  | broken => exact diagnostic "EXECUTE" _
  | entered => exact field _

theorem LeavesAll.apart [CharNames] {parsed : List Node} {marks : List Mark} (leaves : LeavesAll parsed s marks final)
    (outside : ∀ t, .text t ∈ parsed → .char '\x7b' ∉ t) (glyphs : ∀ n ∈ parsed, ∀ t ∈ n.glyphs, .char '\x7b' ∉ t) :
    ∀ mark ∈ marks, mark.Apart := by
  induction leaves with
  | nil => simp
  | cons here _ ih =>
      intro mark member
      rcases List.mem_cons.1 member with rfl | later
      · exact here.apart (fun t same => outside t (same ▸ List.mem_cons_self)) (glyphs _ List.mem_cons_self)
      · exact ih (fun t inside => outside t (List.mem_cons_of_mem _ inside))
          (fun n inside => glyphs n (List.mem_cons_of_mem _ inside)) mark later

theorem exists_of_fragment? {level : Arg} {fragment : Text} (conditional : n.fragment? = some (level, fragment)) :
    ∃ name args position, n = .call name args position ∧ fragment ∈ Arg.texts args := by
  cases n with
  | text t => cases conditional
  | call name args position =>
      refine ⟨name, args, position, rfl, ?_⟩
      obtain ⟨a, -, found⟩ := Option.bind_eq_some_iff.1 conditional
      unfold Ledger.Action.fragment? at found
      split at found
      · cases found
        simp
      · cases found
        simp
      · cases found

theorem escape_not_mem_fragment {level : Arg} {fragment : Text} (plain : n.EscapeFree)
    (conditional : n.fragment? = some (level, fragment)) : .char '\x1b' ∉ fragment := by
  obtain ⟨name, args, position, rfl, member⟩ := exists_of_fragment? conditional
  exact plain fragment member

theorem Leaves.effect_or_plain [CharNames] (leaves : Leaves n s mark final) (plain : n.EscapeFree) :
    (∃ effect, n.effect? = some effect ∧ (∀ color ∈ effect.color?, Style.IsColor color) ∧
      mark = .shown fun colors => effect.output colors s) ∨
    ∀ count, .char '\x1b' ∉ mark.written true count ∧ mark.written false count = mark.written true count := by
  have field {body : Text} (absent : .char '\x1b' ∉ body) : .char '\x1b' ∉ Segment.fieldText body := by
    simp [Segment.fieldText, absent]
  have diagnostic {stage message : Text} (words : .char '\x1b' ∉ stage) (absent : .char '\x1b' ∉ message) :
      .char '\x1b' ∉ Ledger.diagnostic stage message := by
    have middle : .char '\x1b' ∉ (" ERROR: " : Text) := by decide
    exact List.not_mem_append (List.not_mem_append (List.not_mem_append (List.not_mem_append (by decide) words)
      middle) absent) (by decide)
  cases leaves with
  | effect found colored => exact .inl ⟨_, found, colored, rfl⟩
  | text t => exact .inr fun _ => ⟨plain, rfl⟩
  | field _ arg =>
      refine .inr fun _ => ⟨field ?_, rfl⟩
      cases arg with
      | text t => exact plain t (by simp)
      | number n => exact (Text.worded_ofInt n).not_mem (by decide)
  | store => exact .inr fun _ => ⟨field (by decide), rfl⟩
  | restore => exact .inr fun _ => ⟨field (by decide), rfl⟩
  | unread conditional read =>
      have message := Program.escape_not_mem_of_read (escape_not_mem_fragment plain conditional) read
      exact .inr fun _ => ⟨diagnostic (by decide) message, rfl⟩
  | broken conditional read failed =>
      have ran := congrArg Prod.fst (failed true)
      rw [Program.withColors_of_read read] at ran
      have message := Program.worded_of_execute (Program.builtin_of_read read) ran
      exact .inr fun _ => ⟨diagnostic (by decide) (message.not_mem (by decide)), rfl⟩
  | entered =>
      refine .inr fun count => ⟨field ?_, rfl⟩
      exact List.not_mem_append (List.not_mem_append (by decide) (by decide))
        ((Text.worded_ofNat count).not_mem (by decide))

end Node

end LogStyle
