import LogStyle.Proofs.Formatter.MarkRow
import LogStyle.Proofs.Template.Slot

/-! # What nodes put in a template

Each node of a format puts a text in the template: its own, what its effect writes, a field, or a diagnostic. Which texts
can hold a slot, and which can meet a neighbour, is told by that shape.
-/

namespace LogStyle

namespace Text

/-- A text that neither starts with the second character of a slot nor ends with the first. -/
def Fenced (t : Text) : Prop :=
  ∃ (first : CodePoint) (inner : Text) (last : CodePoint), t = first :: (inner ++ [last]) ∧ first ≠ 's' ∧ last ≠ '%'

theorem Fenced.ne {t : Text} (fenced : Fenced t) (u : Text) : t ≠ [] ∧ t ≠ .char 's' :: u ∧ t ≠ u ++ [.char '%'] := by
  obtain ⟨first, inner, last, rfl, starts, ends⟩ := fenced
  refine ⟨by simp, by simp [starts], ?_⟩
  rw [← List.cons_append]
  intro same
  exact ends (by simpa using (List.append_inj' same rfl).2)

end Text

theorem Text.slotless_quoted (c : CodePoint) : Slotless (quoted [c]) := by
  by_cases percent : c = '%'
  · subst percent
    decide
  · apply slotless_of_not_mem
    intro member
    rcases worded_of_mem_quoted member with same | word
    · exact percent same.symm
    · exact absurd word (by decide)

theorem CompileError.slotless_message {e : CompileError} (quotable : e.Quotable Text.Slotless) :
    e.fault.message.Slotless := by
  rcases exists_quotation Text.slotless_quoted quotable with
    worded | ⟨front, quotation, back, message, before, slotless, behind, ends⟩
  · exact Text.slotless_of_not_mem (worded.not_mem (by decide))
  · rw [message]
    refine slotless.between (before.not_mem (by decide)) (behind.not_mem (by decide)) ?_
    rcases ends with blank | mark
    · simp [blank]
    · simp [mark]

theorem Program.slotless_of_read [CharNames] {colors : Bool} {source : Text} {e : CompileError}
    (slotless : source.Slotless)
    (failed : read (σ := Unit) [] colors source = .error e) : e.fault.message.Slotless :=
  CompileError.slotless_message (quotable_of_read (fun _ inside => slotless.of_infix inside) failed)

theorem Ledger.slotless_diagnostic {message : Text} (slotless : message.Slotless) :
    (diagnostic "COMPILE" message).Slotless := by
  have early : .char '%' ∉ ("#\x7bCOMPILE ERROR: " : Text) := by decide
  exact slotless.between early (by decide) (by decide)

namespace Effect

theorem slotless_output {effect : Effect} (drawn : effect.glyph.Slotless) (colors : Bool) (s : Style) :
    (effect.output colors s).Slotless := by
  obtain ⟨front, back, written, before, behind⟩ := effect.exists_output colors s
  have noLetter : .char 's' ∉ back := behind.not_mem rfl
  rw [written]
  exact drawn.between (before.not_mem rfl) (behind.not_mem rfl) fun first => noLetter (List.mem_of_head? first)

theorem output_false (effect : Effect) (s : Style) : effect.output false s = effect.glyph := by
  cases effect <;> simp [output, glyph, Style.sequence]

theorem fenced_output_true (effect : Effect) (s : Style) : (effect.output true s).Fenced := by
  have sequence (parameters : Text) : Style.sequence true parameters = .char '\x1b' :: .char '[' :: (parameters ++ [.char 'm']) := rfl
  have fence {front : Text} (parameters : Text) (starts : front = [] ∨ front.head? = some (.char '\x1b')) :
      (front ++ Style.sequence true parameters).Fenced := by
    rw [sequence]
    cases front with
    | nil => exact ⟨'\x1b', .char '[' :: parameters, 'm', rfl, by decide, by decide⟩
    | cons c front =>
        obtain rfl : c = '\x1b' := by simpa using starts
        exact ⟨'\x1b', front ++ .char '\x1b' :: .char '[' :: parameters, 'm', by simp, by decide, by decide⟩
  cases effect with
  | foreground | background | bold | reverse | reset => exact fence _ (.inl rfl)
  | leave | enter => exact fence _ (.inr rfl)

end Effect

namespace Node

/-- The names of the fields that a node inserts. -/
def fieldNames : Node → List Text
  | .text _ => []
  | .call name args _ => if name = Ledger.Action.field.name then args.map (·.toValue.shown) else []

/-- A node that draws no slot and no opening brace, and inserts no field that ends early. -/
structure Tidy (n : Node) : Prop where
  glyphs : ∀ t ∈ n.glyphs, .char '\x7b' ∉ t ∧ t.Slotless
  fields : ∀ name ∈ n.fieldNames, .char '\x7d' ∉ name

instance : DecidablePred Tidy := fun n =>
  decidable_of_iff ((∀ t ∈ n.glyphs, .char '\x7b' ∉ t ∧ t.Slotless) ∧ ∀ name ∈ n.fieldNames, .char '\x7d' ∉ name)
    ⟨fun ⟨glyphs, fields⟩ => ⟨glyphs, fields⟩, fun tidy => ⟨tidy.glyphs, tidy.fields⟩⟩

/-- What a node puts in a template. -/
inductive Shape [CharNames] (colors : Bool) : Node → Text → Prop where
  | text (t : Text) : Shape colors (.text t) t
  | effect {n : Node} {effect : Effect} (found : n.effect? = some effect) (s : Style) :
      Shape colors n (effect.output colors s)
  | field {n : Node} {body : Text} (closed : .char '\x7d' ∉ body) : Shape colors n (Segment.fieldText body)
  | unread {n : Node} {level : Arg} {fragment : Text} {e : CompileError}
      (conditional : n.fragment? = some (level, fragment))
      (read : Program.read (σ := Unit) [] colors fragment = .error e) :
      Shape colors n (Ledger.diagnostic "COMPILE" e.fault.message)
  | broken {n : Node} {message : Text} (worded : message.Worded) : Shape colors n (Ledger.diagnostic "EXECUTE" message)

variable {n : Node} {s final : Style} {mark : Mark} {colors : Bool} {t : Text}

theorem Leaves.shape [CharNames] (leaves : Leaves n s mark final) (tidy : n.Tidy) (colors : Bool) (count : Nat) :
    n.Shape colors (mark.written colors count) := by
  cases leaves with
  | text t => exact .text t
  | effect found colored => exact .effect found s
  | @field name named arg position =>
      have same : Ledger.Action.field.name = name := by simpa using List.find?_some named
      refine .field (tidy.fields _ ?_)
      simp [fieldNames, ← same]
  | store => exact .field (by decide)
  | restore => exact .field (by decide)
  | unread conditional read =>
      refine .unread conditional ?_
      rw [Program.read_withColors [] true, read]
      rfl
  | broken conditional read failed =>
      have ran := congrArg Prod.fst (failed true)
      rw [Program.withColors_of_read read] at ran
      exact .broken (Program.worded_of_execute (Program.builtin_of_read read) ran)
  | entered => exact .field (Walk.close_not_mem_numbered count)

/-- What a node writes outside of escape sequences and braces, so that it can meet what others write. -/
def bare? (colors : Bool) : Node → Option Text
  | .text t => some t
  | .call name args position => if colors then none else ((Node.call name args position).effect?).map Effect.glyph

theorem Shape.bare_or_fenced [CharNames] (shape : n.Shape colors t) : n.bare? colors = some t ∨ t.Fenced := by
  cases shape with
  | text t => exact .inl rfl
  | @effect _ effect found s =>
      cases n with
      | text u => cases found
      | call name args position =>
          cases colors with
          | false => exact .inl (by simp [bare?, found, Effect.output_false])
          | true => exact .inr (effect.fenced_output_true s)
  | @field _ body closed => exact .inr ⟨'$', .char '\x7b' :: body, '\x7d', rfl, by decide, by decide⟩
  | @unread _ _ _ e => exact .inr ⟨'#', "\x7bCOMPILE ERROR: " ++ e.fault.message, '\x7d', rfl, by decide, by decide⟩
  | @broken _ message => exact .inr ⟨'#', "\x7bEXECUTE ERROR: " ++ message, '\x7d', rfl, by decide, by decide⟩

/-- What a node of a format puts in the template keeps its shape there, and keeps to itself. -/
structure Sits [CharNames] (colors : Bool) (n : Node) (t : Text) : Prop where
  tidy : n.Tidy
  outside : ∀ u, n = .text u → .char '\x7b' ∉ u
  shape : n.Shape colors t
  noneOpen : Segment.NoneOpen t
  head : t.head? ≠ some (.char '\x7b')

theorem Sits.text_or_unread [CharNames] (sits : n.Sits colors t) {early late : List Segment}
    (inside : Segment.scattered t = early ++ (Segment.plain Handler.slot ++ late)) :
    n = .text t ∧ t = early.flatMap Segment.source ++ Handler.slot ++ late.flatMap Segment.source ∨
    ∃ level fragment e, n.fragment? = some (level, fragment) ∧
      Program.read (σ := Unit) [] colors fragment = .error e ∧ t = Ledger.diagnostic "COMPILE" e.fault.message := by
  have whole : t = early.flatMap Segment.source ++ Handler.slot ++ late.flatMap Segment.source := by
    rw [← Segment.flatMap_source_scattered t, inside]
    simp [Segment.flatMap_source_plain]
  have slotted : Handler.slot <:+: t := ⟨_, _, whole.symm⟩
  obtain ⟨tidy, outside, shape, -, -⟩ := sits
  cases shape with
  | text t => exact .inl ⟨rfl, whole⟩
  | @effect _ effect found s =>
      have drawn : effect.glyph.Slotless := by
        cases effect with
        | leave glyph color => exact (tidy.glyphs glyph (mem_glyphs_of_effect? found (.inl rfl))).2
        | enter color glyph => exact (tidy.glyphs glyph (mem_glyphs_of_effect? found (.inr rfl))).2
        | foreground | background | bold | reverse | reset => exact Text.slotless_of_not_mem List.not_mem_nil
      exact absurd slotted (Effect.slotless_output drawn colors s)
  | @field _ body closed =>
      have alone := Segment.scattered_fieldText closed []
      rw [List.append_nil, inside, Segment.scattered_nil] at alone
      have length := congrArg List.length alone
      simp [Segment.plain, Handler.slot_eq] at length
      omega
  | unread conditional read => exact .inr ⟨_, _, _, conditional, read, rfl⟩
  | broken worded =>
      have absent : .char '%' ∉ Ledger.diagnostic "EXECUTE" _ :=
        List.not_mem_append (List.not_mem_append (by decide) (worded.not_mem (by decide))) (by decide)
      exact absurd slotted (Text.slotless_of_not_mem absent)

end Node

namespace Program

variable {σ : Type} (p : Program σ)

/-- The nodes of a run, each with what it writes, up to the first that fails. -/
def outputs : List Node → Reached σ → List (Node × Text)
  | [], _ => []
  | n :: rest, at_ =>
    match p.runNode n at_ with
    | (.ok t, reached) => (n, t) :: outputs rest reached
    | (.error _, _) => []

variable {p} {nodes : List Node} {at_ reached : Reached σ} {t : Text}

theorem outputs_of_runNodes (ran : p.runNodes nodes at_ = (.ok t, reached)) :
    (p.outputs nodes at_).map Prod.fst = nodes ∧ (p.outputs nodes at_).flatMap Prod.snd = t := by
  induction nodes generalizing at_ t with
  | nil =>
      cases ran
      exact ⟨rfl, rfl⟩
  | cons n rest ih =>
      rw [runNodes_cons, Sequel.andThen_eq_ok] at ran
      obtain ⟨u, v, between, here, onward, rfl⟩ := ran
      obtain ⟨same, written⟩ := ih onward
      simp only [outputs, here, List.map_cons, List.flatMap_cons, same, written, and_self]

end Program

namespace Formatter

open Node

theorem sits_of_mem_outputs [CharNames] {colors : Bool} {all nodes : List Node} {s : Style} {l : Ledger} {t : Text}
    {reached : Program.Reached Ledger} (inRange : s.InRange) (tidy : ∀ n ∈ nodes, n.Tidy)
    (outside : ∀ t, .text t ∈ nodes → .char '\x7b' ∉ t) (ran : (program colors all).runNodes nodes (s, l) = (.ok t, reached)) :
    ∀ entry ∈ (program colors all).outputs nodes (s, l), entry.1.Sits colors entry.2 := by
  induction nodes generalizing s l t with
  | nil => simp [Program.outputs]
  | cons n rest ih =>
      rw [Program.runNodes_cons, Sequel.andThen_eq_ok] at ran
      obtain ⟨u, v, ⟨between, l'⟩, here, onward, rfl⟩ := ran
      -- The colours in force stay in range, so what a node writes is the mark that it leaves.
      obtain ⟨mark, leaves, -, rfl, -⟩ := exists_leaves inRange here
      have tame := tidy n List.mem_cons_self
      have closed : ∀ u, n = .text u → .char '\x7b' ∉ u := fun u same => outside u (same ▸ List.mem_cons_self)
      obtain ⟨noneOpen, head⟩ := leaves.apart closed (fun t member => (tame.glyphs t member).1) colors l.conditionals.length
      have later := ih (leaves.inRange inRange) (fun n member => tidy n (List.mem_cons_of_mem _ member))
        (fun t member => outside t (List.mem_cons_of_mem _ member)) onward
      simp only [Program.outputs, here, List.forall_mem_cons]
      exact ⟨⟨tame, closed, leaves.shape tame colors _, noneOpen, head⟩, later⟩

end Formatter

end LogStyle
