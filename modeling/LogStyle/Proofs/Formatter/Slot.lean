import LogStyle.Proofs.Formatter.Shape
import LogStyle.Proofs.Program.Grammar
import LogStyle.Proofs.Template.Around
import LogStyle.Proofs.Text.Neighbours

/-! # Where slots come from

The slot of the message is looked for in the template, where what the nodes of a format write stands side by side. So
besides the slots that a text of the format holds there are others: the diagnostic of a broken fragment may quote one,
and without colours the end of one text may meet the beginning of the next.
-/

namespace LogStyle

namespace Formatter

open Node

/-- A slot in a text of a format, with what the template holds in front of it and behind it. -/
def OwnSlot (written : List (Node × Text)) (front back : Text) : Prop :=
  ∃ passed before after rest,
    written = passed ++ (.text (before ++ Handler.slot ++ after), before ++ Handler.slot ++ after) :: rest ∧
    front = passed.flatMap Prod.snd ++ before ∧ back = after ++ rest.flatMap Prod.snd

/-- A slot in the diagnostic of a fragment that cannot be read. -/
def QuotedSlot [CharNames] (colors : Bool) (written : List (Node × Text)) (front back : Text) : Prop :=
  ∃ passed n level fragment e before after rest, n.fragment? = some (level, fragment) ∧
    Program.read (σ := Unit) [] colors fragment = .error e ∧
    written = passed ++ (n, Ledger.diagnostic "COMPILE" e.fault.message) :: rest ∧
    Segment.SlotAt (Segment.split (Ledger.diagnostic "COMPILE" e.fault.message)) before after ∧
    front = passed.flatMap Prod.snd ++ before ∧ back = after ++ rest.flatMap Prod.snd

/-- A slot that is made where the ends of two nodes meet. -/
def MetSlot (colors : Bool) (written : List (Node × Text)) (front back : Text) : Prop :=
  ∃ passed n before between n' after rest,
    written = passed ++ (n, before ++ [.char '%']) :: (between ++ (n', .char 's' :: after) :: rest) ∧
    n.bare? colors = some (before ++ [.char '%']) ∧ n'.bare? colors = some (.char 's' :: after) ∧
    (∀ entry ∈ between, entry.2 = [] ∧ entry.1.bare? colors = some []) ∧
    front = passed.flatMap Prod.snd ++ before ∧ back = after ++ rest.flatMap Prod.snd

theorem scattered_flatMap_snd [CharNames] {colors : Bool} {written : List (Node × Text)}
    (sits : ∀ entry ∈ written, entry.1.Sits colors entry.2) :
    Segment.scattered (written.flatMap Prod.snd) = written.flatMap (Segment.scattered ·.2) := by
  induction written with
  | nil => exact Segment.scattered_nil
  | cons entry rest ih =>
      have later := fun other member => sits other (List.mem_cons_of_mem entry member)
      have seam : (rest.flatMap Prod.snd).head? ≠ some (.char '\x7b') := by
        intro first
        obtain ⟨more, whole⟩ := List.head?_eq_some_iff.1 first
        obtain ⟨passed, other, rest, inner, rfl, -, starts, -⟩ := exists_of_flatMap_eq_cons whole
        exact (later other (List.mem_append_right _ List.mem_cons_self)).head (by rw [starts]; rfl)
      rw [List.flatMap_cons, List.flatMap_cons, ← ih later]
      exact Segment.scattered_append (sits entry List.mem_cons_self).noneOpen fun _ => seam

theorem flatMap_source_rows [CharNames] (written : List (Node × Text)) :
    (written.flatMap (Segment.scattered ·.2)).flatMap Segment.source = written.flatMap Prod.snd := by
  rw [List.flatMap_assoc]
  simp only [Segment.flatMap_source_scattered]

variable {colors : Bool} {written : List (Node × Text)}

section
variable [CharNames] (sits : ∀ entry ∈ written, entry.1.Sits colors entry.2)
include sits

theorem slotAt_iff_row {front back : Text} :
    Segment.SlotAt (Segment.split (written.flatMap Prod.snd)) front back ↔
      ∃ early late, written.flatMap (Segment.scattered ·.2) = early ++ .literal [.char '%'] :: .literal [.char 's'] :: late ∧
        front = early.flatMap Segment.source ∧ back = late.flatMap Segment.source := by
  rw [Segment.slotAt_split_iff, scattered_flatMap_snd sits]
  rfl

theorem slotAt_of_entry {passed rest : List (Node × Text)} {n : Node} {t before after : Text}
    (split : written = passed ++ (n, t) :: rest) (slot : Segment.SlotAt (Segment.split t) before after) :
    Segment.SlotAt (Segment.split (written.flatMap Prod.snd)) (passed.flatMap Prod.snd ++ before)
      (after ++ rest.flatMap Prod.snd) := by
  obtain ⟨early, late, inside, rfl, rfl⟩ := Segment.slotAt_split_iff.1 slot
  refine (slotAt_iff_row sits).2
    ⟨passed.flatMap (Segment.scattered ·.2) ++ early, late ++ rest.flatMap (Segment.scattered ·.2), ?_, ?_, ?_⟩
  · simp [split, inside, Handler.slot_eq, Segment.plain]
  · rw [List.flatMap_append, flatMap_source_rows]
  · rw [List.flatMap_append, flatMap_source_rows]

variable {front back : Text}

theorem OwnSlot.slotAt (own : OwnSlot written front back) :
    Segment.SlotAt (Segment.split (written.flatMap Prod.snd)) front back := by
  obtain ⟨passed, before, after, rest, split, rfl, rfl⟩ := own
  have here := sits (.text _, _) (split ▸ List.mem_append_right _ List.mem_cons_self)
  apply slotAt_of_entry sits split
  rw [Segment.slotAt_split_iff, Segment.scattered_of_fieldless (Segment.fieldless_of_brace (here.outside _ rfl)),
    List.append_assoc, Segment.plain_append, Segment.plain_append]
  exact ⟨_, _, rfl, (Segment.flatMap_source_plain _).symm, (Segment.flatMap_source_plain _).symm⟩

theorem QuotedSlot.slotAt (quoted : QuotedSlot colors written front back) :
    Segment.SlotAt (Segment.split (written.flatMap Prod.snd)) front back := by
  obtain ⟨passed, n, level, fragment, e, before, after, rest, -, -, split, slot, rfl, rfl⟩ := quoted
  exact slotAt_of_entry sits split slot

theorem MetSlot.slotAt (met : MetSlot colors written front back) :
    Segment.SlotAt (Segment.split (written.flatMap Prod.snd)) front back := by
  obtain ⟨passed, n, before, between, n', after, rest, rfl, -, -, empty, rfl, rfl⟩ := met
  have nothing : between.flatMap (Segment.scattered ·.2) = [] := by
    rw [List.flatMap_eq_nil_iff]
    intro entry member
    rw [(empty entry member).1, Segment.scattered_nil]
  refine (slotAt_iff_row sits).2 ⟨passed.flatMap (Segment.scattered ·.2) ++ Segment.scattered before,
    Segment.scattered after ++ rest.flatMap (Segment.scattered ·.2), ?_, ?_, ?_⟩
  · rw [List.flatMap_append, List.flatMap_cons, List.flatMap_append, List.flatMap_cons, nothing,
      Segment.scattered_append_plain _ (by decide), Segment.scattered_cons (by decide)]
    simp [Segment.plain]
  · rw [List.flatMap_append, flatMap_source_rows, Segment.flatMap_source_scattered]
  · rw [List.flatMap_append, flatMap_source_rows, Segment.flatMap_source_scattered]

theorem own_or_quoted_of_within {early late : List Segment}
    (within : NeighboursWithin (Segment.scattered ·.2) written (.literal [.char '%']) (.literal [.char 's']) early late) :
    OwnSlot written (early.flatMap Segment.source) (late.flatMap Segment.source) ∨
      QuotedSlot colors written (early.flatMap Segment.source) (late.flatMap Segment.source) := by
  obtain ⟨passed, ⟨n, t⟩, rest, inner, behind, rfl, inside, rfl, rfl⟩ := within
  have here : n.Sits colors t := sits (n, t) (List.mem_append_right _ List.mem_cons_self)
  simp only [List.flatMap_append, flatMap_source_rows]
  rcases here.text_or_unread inside with ⟨rfl, whole⟩ | ⟨level, fragment, e, conditional, read, rfl⟩
  · exact .inl ⟨passed, _, _, rest, by rw [← whole], rfl, rfl⟩
  · exact .inr ⟨passed, n, level, fragment, e, _, _, rest, conditional, read, rfl,
      Segment.slotAt_split_iff.2 ⟨inner, behind, inside, rfl, rfl⟩, rfl, rfl⟩

theorem met_of_across {early late : List Segment}
    (across : NeighboursAcross (Segment.scattered ·.2) written (.literal [.char '%']) (.literal [.char 's']) early late) :
    MetSlot colors written (early.flatMap Segment.source) (late.flatMap Segment.source) := by
  obtain ⟨passed, ⟨n, t⟩, between, ⟨n', u⟩, rest, inner, behind, rfl, last, empty, first, rfl, rfl⟩ := across
  have text {t : Text} {row : List Segment} (same : Segment.scattered t = row) : t = row.flatMap Segment.source := by
    rw [← same, Segment.flatMap_source_scattered]
  have ends : t = inner.flatMap Segment.source ++ [.char '%'] := by simpa [Segment.source] using text last
  have starts : u = .char 's' :: behind.flatMap Segment.source := by simpa [Segment.source] using text first
  have here : n.Sits colors t := sits (n, t) (by simp)
  have next : n'.Sits colors u := sits (n', u) (by simp)
  simp only [List.flatMap_append, flatMap_source_rows]
  refine ⟨passed, n, _, between, n', _, rest, by rw [ends, starts], ?_, ?_, ?_, rfl, rfl⟩
  · rw [← ends]
    exact here.shape.bare_or_fenced.resolve_right fun fenced => (fenced.ne _).2.2 ends
  · rw [← starts]
    exact next.shape.bare_or_fenced.resolve_right fun fenced => (fenced.ne _).2.1 starts
  · intro entry member
    have nothing : entry.2 = [] := text (empty entry member)
    have silent := (sits entry (by simp [member])).shape
    rw [nothing] at silent
    exact ⟨nothing, silent.bare_or_fenced.resolve_right fun fenced => (fenced.ne []).1 rfl⟩

/-- The slots of a template are those in the texts of its format, those that diagnostics quote, and those where the
    ends of two nodes meet. -/
theorem slotAt_iff :
    Segment.SlotAt (Segment.split (written.flatMap Prod.snd)) front back ↔
      OwnSlot written front back ∨ QuotedSlot colors written front back ∨ MetSlot colors written front back := by
  constructor
  · intro slot
    obtain ⟨early, late, cut, rfl, rfl⟩ := (slotAt_iff_row sits).1 slot
    -- Both characters come from one node, or from two with nothing written in between.
    rcases flatMap_eq_neighbours_iff.1 cut with within | across
    · exact or_assoc.1 (.inl (own_or_quoted_of_within sits within))
    · exact .inr (.inr (met_of_across sits across))
  · rintro (own | quoted | met)
    · exact own.slotAt sits
    · exact quoted.slotAt sits
    · exact met.slotAt sits

end

/-- With colours no slot is made where nodes meet: what a directive writes ends in escape sequences, and texts of a
    format do not stand side by side. -/
theorem not_metSlot [CharNames] {format : Text} {parsed : List Node} (read : nodes true format = .ok parsed)
    (all : written.map Prod.fst = parsed) (front back : Text) : ¬ MetSlot true written front back := by
  have text {n : Node} {t : Text} (bare : n.bare? true = some t) : n = .text t := by
    cases n with
    | text u => exact congrArg Node.text (Option.some.inj bare)
    | call name args position => cases bare
  obtain ⟨nonempty, apart⟩ := (Grammar.source_of_readAt read).texts_apart
  rintro ⟨passed, n, before, between, n', after, rest, rfl, bare, bare', empty, -, -⟩
  subst all
  cases between with
  | nil =>
      refine apart (before ++ [.char '%']) (.char 's' :: after) ⟨passed.map Prod.fst, rest.map Prod.fst, ?_⟩
      simp [text bare, text bare']
  | cons entry between =>
      apply nonempty
      rw [← text (empty entry List.mem_cons_self).2]
      exact List.mem_map_of_mem (by simp)

theorem not_quotedSlot [CharNames] (slotless : ∀ n ∈ written.map Prod.fst, ∀ call ∈ n.fragment?, call.2.Slotless)
    (front back : Text) : ¬ QuotedSlot colors written front back := by
  rintro ⟨passed, n, level, fragment, e, before, after, rest, conditional, read, rfl, slot, -, -⟩
  have absent : fragment.Slotless := slotless n (by simp) (level, fragment) conditional
  have whole := slot.source_eq
  rw [Segment.flatMap_source_split] at whole
  exact Ledger.slotless_diagnostic (Program.slotless_of_read absent read) ⟨before, after, whole.symm⟩

/-- The first slot that a text of a format holds. -/
def FirstOwnSlot (written : List (Node × Text)) (front back : Text) : Prop :=
  OwnSlot written front back ∧ ∀ front' back', OwnSlot written front' back' → front.length ≤ front'.length

theorem exists_firstOwnSlot {front back : Text} (slot : OwnSlot written front back) :
    ∃ front back, FirstOwnSlot written front back := by
  induction length : front.length using Nat.strong_induction_on generalizing front back with
  | _ n ih =>
    by_cases earlier : ∃ front' back', OwnSlot written front' back' ∧ front'.length < front.length
    · obtain ⟨front', back', slot', less⟩ := earlier
      exact ih _ (length ▸ less) slot' rfl
    · exact ⟨front, back, slot, fun front' back' slot' => not_lt.1 fun less => earlier ⟨front', back', slot', less⟩⟩

/-- A template is divided at the first slot that a text of its format holds, and is not divided if none does. -/
def SplitsAtOwn (t : Template Restore) (written : List (Node × Text)) : Prop :=
  (∀ front back, FirstOwnSlot written front back → ∀ line r, t.RendersAround front back line r) ∧
  ((∀ front back, ¬ OwnSlot written front back) → ∀ line r, t.RendersUnsplit line r)

section
variable {t : Template Restore} (own : ∀ front back, OwnSlot written front back → Segment.SlotAt t.segments front back)
include own

theorem splitsAtOwn_of_first
    (first : ∀ front back, Segment.FirstSlotAt t.segments front back → OwnSlot written front back) :
    SplitsAtOwn t written := by
  constructor
  · intro front back leads line r
    obtain ⟨front', back', first'⟩ := Segment.exists_firstSlotAt (own front back leads.1)
    have before := leads.2 front' back' (first front' back' first')
    exact Template.rendersAround_of_firstSlotAt
      ⟨own front back leads.1, fun _ _ slot => before.trans (first'.2 _ _ slot)⟩ line r
  · intro absent line r
    refine Template.rendersUnsplit_of_no_slot (fun front back slot => ?_) line r
    obtain ⟨front', back', first'⟩ := Segment.exists_firstSlotAt slot
    exact absent front' back' (first front' back' first')

theorem first_of_splitsAtOwn (splits : SplitsAtOwn t written) {line : Line} {r after : Restore} {text front back : Text}
    (renders : t.render line r = (.ok text, after)) (first : Segment.FirstSlotAt t.segments front back) :
    OwnSlot written front back := by
  have around := Template.rendersAround_of_firstSlotAt first line r
  by_cases some : ∃ front back, OwnSlot written front back
  · obtain ⟨front', back', slot⟩ := some
    obtain ⟨front', back', leads⟩ := exists_firstOwnSlot slot
    obtain ⟨rfl, rfl⟩ := Template.RendersAround.unique renders around first.1 (splits.1 _ _ leads line r) (own _ _ leads.1)
    exact leads.1
  · have unsplit := splits.2 (fun front back slot => some ⟨front, back, slot⟩) line r
    exact absurd unsplit (around.not_unsplit renders)

end

theorem slots_of_compile [CharNames] {colors : Bool} {format : Text} {f : Formatter} {parsed : List Node}
    (compiled : (compile colors format).outcome.1 = .ok f) (read : nodes colors format = .ok parsed)
    (tidy : ∀ n ∈ parsed, n.Tidy) :
    let written := (program colors parsed).outputs parsed (Style.plain, {})
    written.map Prod.fst = parsed ∧ written.flatMap Prod.snd = f.template.text ∧
    ∀ front back, Segment.SlotAt f.template.segments front back ↔
      OwnSlot written front back ∨ QuotedSlot colors written front back ∨ MetSlot colors written front back := by
  obtain ⟨parsed', text, reached, read', ran, rfl⟩ := outcome_compile_eq_ok.1 compiled
  obtain rfl : parsed = parsed' := Except.ok.inj (read.symm.trans read')
  have outside : ∀ t, .text t ∈ parsed → .char '\x7b' ∉ t := fun t member =>
    Node.brace_not_mem_of_readFrom (d := none) rfl read member
  obtain ⟨all, whole⟩ := Program.outputs_of_runNodes ran
  refine ⟨all, whole, fun front back => ?_⟩
  rw [← slotAt_iff (sits_of_mem_outputs Style.inRange_plain tidy outside ran), whole]
  rfl

/-- A compiled format is divided at the first slot of its template, at every level and with every lead. Each slot
    there is one that a text of the format holds, or one that the diagnostic of an unreadable fragment quotes, or
    one that is made where two nodes meet. The last do not occur with colours, and the second not without a slot in
    a fragment. That the slot of the message is the first one of the format itself, is that the first slot of the
    template is one of its own. -/
theorem renderParts_at_own_slot [CharNames] {colors : Bool} {format : Text} {f : Formatter} {parsed : List Node}
    (compiled : (compile colors format).outcome.1 = .ok f) (read : nodes colors format = .ok parsed)
    (tidy : ∀ n ∈ parsed, n.Tidy) :
    let written := (program colors parsed).outputs parsed (Style.plain, {})
    written.map Prod.fst = parsed ∧ written.flatMap Prod.snd = f.template.text ∧
    (∀ front back, Segment.SlotAt f.template.segments front back ↔
      OwnSlot written front back ∨ QuotedSlot colors written front back ∨ MetSlot colors written front back) ∧
    (∀ front back, Segment.FirstSlotAt f.template.segments front back →
      ∀ line r, f.template.RendersAround front back line r) ∧
    ((∀ front back, ¬ Segment.SlotAt f.template.segments front back) → ∀ line r, f.template.RendersUnsplit line r) ∧
    (colors = true → ∀ front back, ¬ MetSlot colors written front back) ∧
    ((∀ n ∈ parsed, ∀ call ∈ n.fragment?, call.2.Slotless) → ∀ front back, ¬ QuotedSlot colors written front back) ∧
    ((∀ front back, Segment.FirstSlotAt f.template.segments front back → OwnSlot written front back) →
      SplitsAtOwn f.template written) ∧
    ((∃ line r text after, f.template.render line r = (.ok text, after)) → SplitsAtOwn f.template written →
      ∀ front back, Segment.FirstSlotAt f.template.segments front back → OwnSlot written front back) := by
  intro written
  obtain ⟨all, whole, slots⟩ := slots_of_compile compiled read tidy
  have own (front back : Text) (slot : OwnSlot written front back) : Segment.SlotAt f.template.segments front back :=
    (slots front back).2 (.inl slot)
  refine ⟨all, whole, slots, fun _ _ => Template.rendersAround_of_firstSlotAt, Template.rendersUnsplit_of_no_slot,
    ?_, ?_, splitsAtOwn_of_first own, ?_⟩
  · rintro rfl
    exact not_metSlot read all
  · intro slotless
    exact not_quotedSlot (all.symm ▸ slotless)
  · rintro ⟨line, r, text, after, renders⟩ splits front back
    exact first_of_splitsAtOwn own splits renders

section

attribute [local instance] CharNames.none

/-- One style of the format is good, one cannot be read and one cannot be run. -/
theorem renderParts_at_own_slot_past_broken_styles :
    let format : Text := "\x7bonerror \"\x7bbold\x7d\"\x7d\x7boninfo \"\x7bblink\x7d\"\x7d$\x7blevel\x7d [%s] 100%" ++
      "\x7bonerror \"\x7bfg 999\x7d\"\x7d"
    ∃ f parsed, (compile true format).outcome.1 = .ok f ∧ nodes true format = .ok parsed ∧ (∀ n ∈ parsed, n.Tidy) ∧
      SplitsAtOwn f.template ((program true parsed).outputs parsed (Style.plain, {})) ∧
      (f.renderParts (Line.plain .info) {}).1.toOption = some
        ⟨"#\x7bCOMPILE ERROR: function \"blink\" not defined (directive at position 0)\x7dINFO [",
          "] 100%#\x7bEXECUTE ERROR: color index 999 out of range 0-255\x7d"⟩ := by
  intro format
  obtain ⟨f, compiled, shown⟩ := exists_of_any (compile true format).outcome.1
    (fun f => (f.renderParts (Line.plain .info) {}).1.toOption = some
      ⟨"#\x7bCOMPILE ERROR: function \"blink\" not defined (directive at position 0)\x7dINFO [",
        "] 100%#\x7bEXECUTE ERROR: color index 999 out of range 0-255\x7d"⟩) (by decide +kernel)
  obtain ⟨parsed, read, tested⟩ := exists_of_any (nodes true format)
    (fun parsed => (∀ n ∈ parsed, n.Tidy) ∧ ∀ n ∈ parsed, ∀ call ∈ n.fragment?, call.2.Slotless) (by decide +kernel)
  obtain ⟨tidy, slotless⟩ := of_decide_eq_true tested
  obtain ⟨-, -, slots, -, -, apart, unquoted, splits, -⟩ := renderParts_at_own_slot compiled read tidy
  refine ⟨f, parsed, compiled, read, tidy, splits fun front back first => ?_, of_decide_eq_true shown⟩
  exact ((slots front back).1 first.1).resolve_right
    (not_or_intro (unquoted slotless front back) (apart rfl front back))

end

theorem not_ownSlot {written : List (Node × Text)} (slotless : ∀ entry ∈ written, entry.2.Slotless) {front back : Text} :
    ¬ OwnSlot written front back := by
  rintro ⟨passed, before, after, rest, rfl, -⟩
  exact slotless _ (List.mem_append_right _ List.mem_cons_self) ⟨before, after, rfl⟩

section

attribute [local instance] CharNames.none

/-- A format whose own slot comes behind a quoted one, and a format without a slot of its own in which two texts meet
    because the directive between them writes nothing. -/
theorem not_splitsAtOwn :
    (let format : Text := "\x7bonerror \"\x7bfg \\\"\\\\x%s\\\"\x7d\"\x7d %s"
      ∃ f parsed, (compile true format).outcome.1 = .ok f ∧ nodes true format = .ok parsed ∧
        (∀ n ∈ parsed, n.Tidy) ∧
        ¬ SplitsAtOwn f.template ((program true parsed).outputs parsed (Style.plain, {}))) ∧
    (let format : Text := "100%\x7bbold\x7dsure"
      ∃ f parsed, (compile false format).outcome.1 = .ok f ∧ nodes false format = .ok parsed ∧
        (∀ n ∈ parsed, n.Tidy) ∧
        ¬ SplitsAtOwn f.template ((program false parsed).outputs parsed (Style.plain, {}))) := by
  constructor
  · intro format
    let front : Text := "#\x7bCOMPILE ERROR: bad string \"\\x"
    let back : Text := "\" at position 4: (unicode error) 'unicodeescape' codec can't decode bytes in position 0-1: " ++
      "truncated \\xXX escape (<unknown>, line 1)\x7d"
    let call : Node := .call "onerror" [.text "\x7bfg \"\\x%s\"\x7d"] 0
    obtain ⟨f, compiled, shown⟩ := exists_of_any (compile true format).outcome.1
      (fun f => (f.template.render (Line.plain .info) {}).1.toOption.isSome ∧
        f.template.segments = [.literal (front ++ Handler.slot ++ (back ++ (" %s" : Text)))]) (by decide +kernel)
    obtain ⟨parsed, read, tested⟩ := exists_of_any (nodes true format)
      (fun parsed => (∀ n ∈ parsed, n.Tidy) ∧ (program true parsed).outputs parsed (Style.plain, {}) =
        [(call, front ++ Handler.slot ++ back), (.text " %s", " %s")]) (by decide +kernel)
    obtain ⟨rendered, segments⟩ := of_decide_eq_true shown
    obtain ⟨tidy, outputs⟩ := of_decide_eq_true tested
    refine ⟨f, parsed, compiled, read, tidy, fun splits => ?_⟩
    obtain ⟨-, -, slots⟩ := slots_of_compile compiled read tidy
    obtain ⟨text, renders⟩ := Option.isSome_iff_exists.1 rendered
    have first : Segment.FirstSlotAt f.template.segments front (back ++ (" %s" : Text)) := by
      have found : Text.cutAt? Handler.slot (front ++ Handler.slot ++ (back ++ (" %s" : Text))) =
          some (front, back ++ (" %s" : Text)) := by decide +kernel
      have none : List.any [] Segment.hasSlot = false := rfl
      rw [segments]
      simpa using Segment.firstSlotAt_of_cutAt? none found []
    have own := first_of_splitsAtOwn (fun front back slot => (slots front back).2 (.inl slot)) splits
      (Prod.ext (eq_ok_of_toOption renders) rfl) first
    rw [outputs] at own
    obtain ⟨passed, before, after, rest, whole, early, -⟩ := own
    cases passed with
    | nil => simp [call] at whole
    | cons entry passed =>
        obtain ⟨rfl, -⟩ := List.cons.inj whole
        have length := congrArg List.length early
        simp [Handler.slot_eq] at length
  · intro format
    obtain ⟨f, compiled, shown⟩ := exists_of_any (compile false format).outcome.1
      (fun f => (f.template.renderParts (Line.plain .info) {}).1.toOption = some ⟨"100", "ure"⟩) (by decide +kernel)
    obtain ⟨parsed, read, tested⟩ := exists_of_any (nodes false format)
      (fun parsed => (∀ n ∈ parsed, n.Tidy) ∧
        ∀ entry ∈ (program false parsed).outputs parsed (Style.plain, {}), entry.2.Slotless) (by decide +kernel)
    obtain ⟨tidy, slotless⟩ := of_decide_eq_true tested
    refine ⟨f, parsed, compiled, read, tidy, fun splits => ?_⟩
    have unsplit := splits.2 (fun _ _ => not_ownSlot slotless) (Line.plain .info) {}
    cases unsplit.tail _ _ (Prod.ext (eq_ok_of_toOption (of_decide_eq_true shown)) rfl)

end

end Formatter

end LogStyle
