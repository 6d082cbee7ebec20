import LogStyle.Proofs.Formatter.MarkRow

/-! # What a line remembers of its format

Where a line has got to in its format, it remembers the last conditional style for its level that it has met: the
style in force before that, and the one that its fragment leads to. What the line stores is what it remembers there.
-/

namespace LogStyle

namespace Node

def Calls (name : Text) : Node → Prop
  | .text _ => False
  | .call name' _ _ => name' = name

instance (name : Text) : DecidablePred (Calls name)
  | .text _ => inferInstanceAs (Decidable False)
  | .call _ _ _ => inferInstanceAs (Decidable (_ = _))

/-- A node whose texts start no field, and that inserts none of the fields that restore styles. The name of a field
    ends where the template ends it. -/
def Hosted : Node → Prop
  | .text _ => True
  | .call name args _ =>
    (∀ t ∈ Arg.texts args, Segment.Fieldless t) ∧
    (name = Ledger.Action.field.name → ∀ arg ∈ args, (Segment.nameAndValue (Text.cut '\x7d' arg.toValue.shown).1).1 ∉
      [Ledger.conditionalName, Ledger.storeName, Ledger.restoreName])

instance : DecidablePred Hosted
  | .text _ => inferInstanceAs (Decidable True)
  | .call _ _ _ => inferInstanceAs (Decidable (_ ∧ _))

/-- The conditional style that a node enters for the lines of a level, given the style in force: that style, and the
    one that its fragment leads to. -/
def entrance? [CharNames] (level : Level) (n : Node) (s : Style) : Option (Style × Style) :=
  match n.fragment? with
  | some (.text target, fragment) =>
    match Program.read (σ := Unit) [] true fragment with
    | .error _ => none
    | .ok p =>
      match PureProgram.execute p s with
      | (.error _, _) => none
      | (.ok _, final) => if target.lower = level.lower then some (s, final) else none
  | _ => none

end Node

/-- The last conditional style that nodes enter for the lines of a level. -/
def Program.lastEntrance? [CharNames] (p : Program Ledger) (level : Level) :
    List Node → Reached Ledger → Option (Style × Style)
  | [], _ => none
  | n :: rest, at_ => (p.lastEntrance? level rest (p.runNode n at_).2).or (n.entrance? level at_.1)

namespace Restore

/-- What is remembered of a conditional style: the way back to the style before, and a text that leads from there to
    the style of the fragment. -/
structure Remembers (r : Restore) (before final : Style) : Prop where
  inRange : before.InRange
  previous : r.previous = before.spelled true
  current : ∃ cells, Terminal.Reads before r.current cells final

/-- What becomes of a memory where a conditional style may have applied. -/
structure Tracks (entry : Option (Style × Style)) (r r' : Restore) : Prop where
  kept : entry = none → r'.previous = r.previous ∧ r'.current = r.current
  remembered : ∀ before final, entry = some (before, final) → r'.Remembers before final

variable {r r' r'' : Restore} {entry later : Option (Style × Style)}

theorem tracks_none (same : r'.previous = r.previous ∧ r'.current = r.current) : Tracks none r r' := by
  constructor
  · exact fun _ => same
  · intro before final none
    cases none

theorem tracks_some {before final : Style} (remembers : r'.Remembers before final) :
    Tracks (some (before, final)) r r' := by
  constructor
  · intro none
    cases none
  · rintro _ _ ⟨rfl, rfl⟩
    exact remembers

theorem Tracks.trans (here : Tracks entry r r') (onward : Tracks later r' r'') : Tracks (later.or entry) r r'' := by
  cases later with
  | none =>
      obtain ⟨previous, current⟩ := onward.kept rfl
      constructor
      · intro none
        obtain ⟨previous', current'⟩ := here.kept none
        exact ⟨previous.trans previous', current.trans current'⟩
      · intro before final entered
        have known := here.remembered before final entered
        exact ⟨known.inRange, previous.trans known.previous, current ▸ known.current⟩
  | some pair =>
      constructor
      · intro none
        cases none
      · exact onward.remembered

end Restore

namespace Segment

theorem exists_scattered_fieldText {body : Text} (fieldless : Fieldless body) :
    ∃ rest, scattered (fieldText body) = .field (Text.cut '\x7d' body).1 :: plain rest := by
  cases found : Text.cut? '\x7d' body with
  | none =>
      have whole := scattered_fieldText (Text.cut?_eq_none.1 found) []
      rw [List.append_nil, scattered_nil] at whole
      exact ⟨[], by rw [whole, Text.cut, found]; rfl⟩
  | some parts =>
      obtain ⟨before, after⟩ := parts
      obtain rfl := Lexeme.append_of_cut? found
      have behind : Fieldless (after ++ [.char '\x7d']) := by
        have suffix : Fieldless after := fieldless.of_suffix ⟨before ++ [.char '\x7d'], by simp⟩
        exact suffix.append (fieldless_of_dollar (by decide)) (by simp)
      have whole := scattered_fieldText (Text.not_mem_of_cut? found) (after ++ [.char '\x7d'])
      rw [scattered_of_fieldless behind] at whole
      have written : fieldText (before ++ .char '\x7d' :: after) = fieldText before ++ (after ++ [.char '\x7d']) := by
        simp [fieldText]
      exact ⟨after ++ [.char '\x7d'], by rw [written, whole, Text.cut, found]; rfl⟩

theorem not_misread_of_mem_plain {t : Text} {segment : Segment} (member : segment ∈ plain t) : ¬ segment.Misread := by
  obtain ⟨c, -, rfl⟩ := List.mem_map.1 member
  exact id

theorem not_misread_of_fieldless {t : Text} (fieldless : Fieldless t) : ∀ segment ∈ scattered t, ¬ segment.Misread := by
  rw [scattered_of_fieldless fieldless]
  exact fun segment => not_misread_of_mem_plain

end Segment

theorem Ledger.Action.name_of_ofName? {name : Text} {a : Action} (named : ofName? name = some a) : a.name = name := by
  simpa using List.find?_some named

theorem LineStep.ofText_fieldText (conditionals : List Conditional) (line : Line) {body : Text}
    (inner : .char '\x7d' ∉ body) :
    ofText conditionals line (Segment.fieldText body) = [ofField conditionals line body] := by
  have split := Segment.scattered_fieldText inner []
  rw [List.append_nil, Segment.scattered_nil] at split
  rw [ofText, split]
  rfl

theorem LineStep.ofText_style {conditionals : List Conditional} {count : Nat} {target : Text} {sequence : Bool → Text}
    {outer : Style} (numbered : (Mark.style target sequence outer).Numbered count)
    (entered : (Mark.style target sequence outer).entered true <+: conditionals.drop count) (line : Line) :
    let c : Conditional := ⟨target, sequence true, outer.spelled true⟩
    ofText conditionals line ((Mark.style target sequence outer).written true count) =
      [if c.applies line.level then .follow c else .shows []] := by
  intro c
  have found : conditionals[count]? = some c := by
    obtain ⟨more, whole⟩ := entered
    have first : (conditionals.drop count)[0]? = some c := by
      rw [← whole]
      rfl
    simpa using first
  rw [Mark.written, Ledger.placeholder, ofText_fieldText _ _ (Walk.close_not_mem_numbered count),
    Walk.ofField_numbered found numbered line]

namespace Node

open Restore

/-- What a node of a format does to the memory of a line, given the style in force. -/
structure Turns [CharNames] (n : Node) (level : Level) (s : Style) (r r' : Restore) : Prop where
  tracks : Tracks (n.entrance? level s) r r'
  stores : n.Calls Ledger.storeName → r'.stored = r.previous ++ r.current
  keeps : ¬ n.Calls Ledger.storeName → r'.stored = r.stored

variable {n : Node} {s final : Style} {mark : Mark}

theorem turns_self [CharNames] {level : Level} (unentered : n.entrance? level s = none)
    (other : ¬ n.Calls Ledger.storeName)
    (r : Restore) : n.Turns level s r r := by
  refine ⟨?_, fun stores => absurd stores other, fun _ => rfl⟩
  rw [unentered]
  exact tracks_none ⟨rfl, rfl⟩

theorem entrance?_of_fragment? [CharNames] (missing : n.fragment? = none) (level : Level) (s : Style) :
    n.entrance? level s = none := by
  simp only [entrance?, missing]

theorem fragment?_of_effect? {effect : Effect} (found : n.effect? = some effect) :
    n.fragment? = none ∧ ¬ n.Calls Ledger.storeName := by
  cases n with
  | text t => cases found
  | call name args position =>
      obtain ⟨d, known, -⟩ := Option.bind_eq_some_iff.1 found
      obtain rfl : d.name = name := by simpa using List.find?_some known
      have unknown := Ledger.Action.ofName?_directive d
      constructor
      · rw [fragment?, unknown]
        rfl
      · intro same
        rw [show d.name = Ledger.storeName from same] at unknown
        cases unknown

theorem not_calls_of_fragment? {level : Arg} {fragment : Text} (conditional : n.fragment? = some (level, fragment)) :
    ¬ n.Calls Ledger.storeName := by
  cases n with
  | text t => cases conditional
  | call name args position =>
      rintro rfl
      cases conditional

theorem fieldless_fragment {level : Arg} {fragment : Text} (hosted : n.Hosted)
    (conditional : n.fragment? = some (level, fragment)) : Segment.Fieldless fragment := by
  obtain ⟨name, args, position, rfl, member⟩ := exists_of_fragment? conditional
  exact hosted.1 fragment member

theorem runs_field {name : Text} {arg : Arg} {position : Nat} (named : Ledger.Action.ofName? name = some .field)
    (hosted : (Node.call name [arg] position).Hosted) :
    (∀ conditionals line r,
      (LineStep.runAll (LineStep.ofText conditionals line (Segment.fieldText arg.toValue.shown)) r).2 = r) ∧
      ∀ segment ∈ Segment.scattered (Segment.fieldText arg.toValue.shown), ¬ segment.Misread := by
  have fieldless : Segment.Fieldless arg.toValue.shown := by
    cases arg with
    | text t => exact hosted.1 t (by simp)
    | number n => exact Segment.fieldless_of_dollar ((Text.worded_ofInt n).not_mem (by decide))
  have host := hosted.2 (Ledger.Action.name_of_ofName? named).symm arg List.mem_cons_self
  obtain ⟨rest, split⟩ := Segment.exists_scattered_fieldText fieldless
  simp only [List.mem_cons, List.not_mem_nil, or_false, not_or] at host
  refine ⟨fun conditionals line r => ?_, fun segment member misread => ?_⟩
  · rw [LineStep.ofText, split, List.map_cons, LineStep.runAll, LineStep.ofSegment, LineStep.ofField]
    simp only [if_neg host.1, if_neg host.2.1, if_neg host.2.2, LineStep.run_ofOutcome]
    cases line.fieldText (Text.cut '\x7d' arg.toValue.shown).1 with
    | error fault => rfl
    | ok shown => rw [Sequel.andThen_ok, LineStep.runAll_plain]
  · rw [split] at member
    rcases List.mem_cons.1 member with rfl | behind
    · exact host.1 misread.1
    · exact Segment.not_misread_of_mem_plain behind misread

theorem fieldless_diagnostic {stage message : Text} (plain : .char '$' ∉ stage) (fieldless : Segment.Fieldless message) :
    Segment.Fieldless (Ledger.diagnostic stage message) := by
  have front : .char '$' ∉ ("#\x7b" : Text) ++ stage ++ (" ERROR: " : Text) :=
    List.not_mem_append (List.not_mem_append (by decide) plain) (by decide)
  exact fieldless.between front (by decide)

theorem runAll_of_fieldless {t : Text} (fieldless : Segment.Fieldless t) (conditionals : List Conditional) (line : Line)
    (r : Restore) : LineStep.runAll (LineStep.ofText conditionals line t) r = (.ok t, r) := by
  rw [LineStep.ofText, Segment.scattered_of_fieldless fieldless, LineStep.runAll_plain]

theorem turns_entered [CharNames] {target fragment : Text} {p : PureProgram} {sequence : Bool → Text}
    (conditional : n.fragment? = some (.text target, fragment)) (read : Program.read [] true fragment = .ok p)
    (ran : ∀ colors, PureProgram.execute (p.withColors colors) s = (.ok (sequence colors), final))
    (plain : ∀ node ∈ n.inner, node.EscapeFree) (inRange : s.InRange) {conditionals : List Conditional} {count : Nat}
    (numbered : (Mark.style target.lower sequence s).Numbered count)
    (entered : (Mark.style target.lower sequence s).entered true <+: conditionals.drop count) (line : Line)
    (r : Restore) :
    n.Turns line.level s r
      (LineStep.runAll (LineStep.ofText conditionals line ((Mark.style target.lower sequence s).written true count)) r).2 := by
  have once := ran true
  rw [Program.withColors_of_read read] at once
  have other := not_calls_of_fragment? conditional
  have entry : n.entrance? line.level s = if target.lower = line.level.lower then some (s, final) else none := by
    simp only [entrance?, conditional, read, once]
  rw [LineStep.ofText_style numbered entered, Conditional.applies, Text.lower_lower]
  by_cases applies : target.lower = line.level.lower
  · have followed : r.follow ⟨target.lower, sequence true, s.spelled true⟩ |>.Remembers s final := by
      rw [inner_eq conditional read] at plain
      exact ⟨inRange, rfl, _, (Terminal.realizes_execute read plain inRange once).reads⟩
    rw [if_pos applies] at entry
    rw [if_pos (by simpa using applies)]
    refine ⟨?_, fun calls => absurd calls other, fun _ => rfl⟩
    rw [entry]
    exact tracks_some followed
  · rw [if_neg applies] at entry
    rw [if_neg (by simpa using applies)]
    exact turns_self entry other r

/-- A node whose mark does on a line what the node says. -/
structure Fits [CharNames] (n : Node) : Prop where
  tame : n.Tame
  hosted : n.Hosted
  outside : ∀ t, n = .text t → .char '\x7b' ∉ t

/-- What a mark does on a line: the line remembers the conditional style that the node enters for its level, and
    stores what it remembers if the node says so. -/
theorem Leaves.turns [CharNames] (leaves : Leaves n s mark final) (fits : n.Fits) (inRange : s.InRange) {count : Nat}
    (numbered : mark.Numbered count) {conditionals : List Conditional}
    (entered : mark.entered true <+: conditionals.drop count) (line : Line)
    (r : Restore) :
    n.Turns line.level s r (LineStep.runAll (LineStep.ofText conditionals line (mark.written true count)) r).2 := by
  cases leaves with
  | text t =>
      rw [Mark.written, LineStep.runAll_ofText _ _ (fits.outside t rfl)]
      exact turns_self (n := .text t) (entrance?_of_fragment? rfl _ _) not_false r
  | effect found colored =>
      obtain ⟨missing, other⟩ := fragment?_of_effect? found
      rw [Mark.written, LineStep.runAll_ofText _ _ (brace_not_mem_output found fits.tame.glyphs true s)]
      exact turns_self (entrance?_of_fragment? missing _ _) other r
  | @field name named arg position =>
      rw [Mark.written, Ledger.placeholder, (runs_field named fits.hosted).1]
      obtain rfl := Ledger.Action.name_of_ofName? named
      exact turns_self (entrance?_of_fragment? rfl _ _) (by simp only [Calls]; decide) r
  | @store name named position =>
      obtain rfl := Ledger.Action.name_of_ofName? named
      rw [Mark.written, Ledger.placeholder, LineStep.ofText_fieldText _ _ (by decide)]
      refine ⟨?_, fun _ => rfl, fun other => absurd rfl other⟩
      rw [entrance?_of_fragment? rfl]
      exact tracks_none ⟨rfl, rfl⟩
  | @restore name named position =>
      obtain rfl := Ledger.Action.name_of_ofName? named
      rw [Mark.written, Ledger.placeholder, LineStep.ofText_fieldText _ _ (by decide)]
      exact turns_self (entrance?_of_fragment? rfl _ _) (by simp only [Calls]; decide) r
  | @unread _ level _ _ _ conditional read =>
      have fieldless := Program.fieldless_of_read (fieldless_fragment fits.hosted conditional) read
      rw [Mark.written, runAll_of_fieldless (fieldless_diagnostic (by decide) fieldless)]
      refine turns_self ?_ (not_calls_of_fragment? conditional) r
      cases level <;> simp only [entrance?, conditional, read]
  | @broken _ level _ _ _ _ _ conditional read failed =>
      have ran := failed true
      rw [Program.withColors_of_read read] at ran
      have message := Program.fieldless_of_execute (Program.builtin_of_read read) (congrArg Prod.fst ran)
      rw [Mark.written, runAll_of_fieldless (fieldless_diagnostic (by decide) message)]
      refine turns_self ?_ (not_calls_of_fragment? conditional) r
      cases level <;> simp only [entrance?, conditional, read, ran]
  | entered conditional read ran =>
      exact turns_entered conditional read ran fits.tame.inner inRange numbered entered line r

theorem Leaves.not_misread [CharNames] (leaves : Leaves n s mark final) (fits : n.Fits) {count : Nat}
    (numbered : mark.Numbered count) : ∀ segment ∈ Segment.scattered (mark.written true count), ¬ segment.Misread := by
  have alone {body : Text} (inner : .char '\x7d' ∉ body) (sound : ¬ (Segment.field body).Misread) :
      ∀ segment ∈ Segment.scattered (Segment.fieldText body), ¬ segment.Misread := by
    have split := Segment.scattered_fieldText inner []
    rw [List.append_nil, Segment.scattered_nil] at split
    rw [split]
    simpa using sound
  cases leaves with
  | text t => exact Segment.not_misread_of_fieldless (Segment.fieldless_of_brace (fits.outside t rfl))
  | effect found colored =>
      exact Segment.not_misread_of_fieldless
        (Segment.fieldless_of_brace (brace_not_mem_output found fits.tame.glyphs true s))
  | field named arg position => exact (runs_field named fits.hosted).2
  | store named => exact alone (by decide) (by decide)
  | restore named => exact alone (by decide) (by decide)
  | unread conditional read =>
      have fieldless := Program.fieldless_of_read (fieldless_fragment fits.hosted conditional) read
      exact Segment.not_misread_of_fieldless (fieldless_diagnostic (by decide) fieldless)
  | broken conditional read failed =>
      have ran := failed true
      rw [Program.withColors_of_read read] at ran
      have message := Program.fieldless_of_execute (Program.builtin_of_read read) (congrArg Prod.fst ran)
      exact Segment.not_misread_of_fieldless (fieldless_diagnostic (by decide) message)
  | entered conditional read ran =>
      exact alone (Walk.close_not_mem_numbered count) fun misread => (Restore.names_ofNat numbered).2.1 misread.2.2.2

/-- Nodes of a format, with the marks they leave behind a ledger, in a template that ends up with some conditional
    styles. -/
structure Placed [CharNames] (conditionals : List Conditional) (parsed : List Node) (s : Style) (l : Ledger) (marks : List Mark)
    (final : Style) : Prop where
  leaves : LeavesAll parsed s marks final
  fits : ∀ n ∈ parsed, n.Fits
  inRange : s.InRange
  numbered : Mark.NumberedAll l.conditionals.length marks
  entered : l.conditionals ++ Mark.enteredAll true marks <+: conditionals

namespace Placed

variable {conditionals : List Conditional} {parsed front tail : List Node} {l : Ledger} {marks : List Mark}

section

variable [CharNames]

theorem apart (placed : Placed conditionals parsed s l marks final) : ∀ mark ∈ marks, mark.Apart :=
  placed.leaves.apart (fun t member => (placed.fits _ member).outside t rfl) fun n member => (placed.fits n member).tame.glyphs

theorem not_misread (placed : Placed conditionals parsed s l marks final) :
    ∀ segment ∈ Segment.scattered (Mark.writtenAll true l.conditionals.length marks), ¬ segment.Misread := by
  have apart := placed.apart
  obtain ⟨leaves, fits, -, numbered, -⟩ := placed
  generalize l.conditionals.length = count at numbered
  induction leaves generalizing count with
  | nil => simp [Mark.writtenAll]
  | @cons n rest s between final mark more here later ih =>
      have behind := ih (fun other member => apart other (List.mem_cons_of_mem _ member))
        (fun other member => fits other (List.mem_cons_of_mem _ member)) _ numbered.2
      have first := here.not_misread (fits n List.mem_cons_self) numbered.1
      rw [Mark.writtenAll, Segment.scattered_append (apart mark List.mem_cons_self true count).1 fun _ =>
        Mark.head?_writtenAll (fun other member => apart other (List.mem_cons_of_mem _ member)) true _]
      intro segment member
      rcases List.mem_append.1 member with inside | inside
      · exact first segment inside
      · exact behind segment inside

theorem exists_turns (placed : Placed conditionals (n :: tail) s l marks final) (all : List Node) (line : Line) :
    ∃ row between l' more, (∀ r, n.Turns line.level s r (LineStep.runAll row r).2) ∧
      Placed conditionals tail between l' more final ∧
      ((Formatter.program true all).runNode n (s, l)).2 = (between, l') ∧
      ∀ r, LineStep.runAll (LineStep.ofText conditionals line (Mark.writtenAll true l.conditionals.length marks)) r =
        Sequel.andThen (LineStep.runAll row r)
          (LineStep.runAll (LineStep.ofText conditionals line (Mark.writtenAll true l'.conditionals.length more))) := by
  have apart := placed.apart
  have first := placed.entered
  cases placed.leaves with
  | @cons _ _ _ between _ mark more here later =>
      obtain ⟨l', ran, entered⟩ := Formatter.runs_of_leaves true all placed.inRange here l placed.numbered.1
      rw [Mark.enteredAll, List.flatMap_cons, ← List.append_assoc] at first
      have known : mark.entered true <+: conditionals.drop l.conditionals.length := by
        obtain ⟨behind, rfl⟩ := first
        rw [List.append_assoc, List.append_assoc, List.drop_left]
        exact List.prefix_append _ _
      refine ⟨_, between, l', more,
        here.turns (placed.fits n List.mem_cons_self) placed.inRange placed.numbered.1 known line,
        ⟨later, ?_, here.inRange placed.inRange, ?_, ?_⟩, by rw [ran], fun r => ?_⟩
      · exact fun other member => placed.fits other (List.mem_cons_of_mem _ member)
      · rw [entered, List.length_append]
        exact placed.numbered.2
      · rwa [entered]
      · rw [Mark.ofText_writtenAll_cons apart, LineStep.runAll_append, entered, List.length_append]

theorem exists_of_append (placed : Placed conditionals (front ++ tail) s l marks final) (all : List Node) :
    ∃ early late between l', marks = early ++ late ∧ Placed conditionals front s l early between ∧
      (Formatter.program true all).runNodes front (s, l) =
        (.ok (Mark.writtenAll true l.conditionals.length early), between, l') ∧
      l'.conditionals = l.conditionals ++ Mark.enteredAll true early ∧ Placed conditionals tail between l' late final := by
  obtain ⟨early, late, between, rfl, before, behind⟩ := exists_leavesAll_of_append placed.leaves
  obtain ⟨numbered, numbered'⟩ := Mark.numberedAll_append.1 placed.numbered
  obtain ⟨l', ran, entered⟩ := Formatter.runs_of_leavesAll true all before placed.inRange l numbered
  have whole := placed.entered
  rw [Mark.enteredAll, List.flatMap_append, ← List.append_assoc] at whole
  have here : Placed conditionals front s l early between := by
    refine ⟨before, ?_, placed.inRange, numbered, (List.prefix_append _ _).trans whole⟩
    exact fun other member => placed.fits other (List.mem_append_left _ member)
  refine ⟨early, late, between, l', rfl, here, ran, entered, behind, ?_, before.inRange placed.inRange, ?_, ?_⟩
  · exact fun other member => placed.fits other (List.mem_append_right _ member)
  · rwa [entered, List.length_append]
  · rwa [entered]

theorem tracks (placed : Placed conditionals parsed s l marks final) (all : List Node) {line : Line}
    {r r' : Restore} {shown : Text}
    (runs : LineStep.runAll (LineStep.ofText conditionals line (Mark.writtenAll true l.conditionals.length marks)) r =
      (.ok shown, r')) :
    Tracks ((Formatter.program true all).lastEntrance? line.level parsed (s, l)) r r' ∧
      ((∀ n ∈ parsed, ¬ n.Calls Ledger.storeName) → r'.stored = r.stored) := by
  -- Each starts in the style that those before it leave, and from what they remember.
  induction parsed generalizing s l marks r shown with
  | nil =>
      cases placed.leaves
      cases (LineStep.runAll_ofText conditionals line List.not_mem_nil r).symm.trans runs
      exact ⟨tracks_none ⟨rfl, rfl⟩, fun _ => rfl⟩
  | cons n rest ih =>
      obtain ⟨row, between, l', more, turns, later, ran, whole⟩ := placed.exists_turns all line
      rw [whole] at runs
      obtain ⟨first, behind, r₁, here, onward, rfl⟩ := Sequel.andThen_eq_ok.1 runs
      have turned := turns r
      rw [here] at turned
      obtain ⟨tracks, keeps⟩ := ih later onward
      constructor
      · rw [Program.lastEntrance?, ran]
        exact turned.tracks.trans tracks
      · intro unstored
        rw [keeps fun n member => unstored n (List.mem_cons_of_mem _ member),
          turned.keeps (unstored n List.mem_cons_self)]

theorem stored_of_last {head : List Node} (placed : Placed conditionals (head ++ n :: tail) s l marks final)
    (calls : n.Calls Ledger.storeName) (unstored : ∀ other ∈ tail, ¬ other.Calls Ledger.storeName) (all : List Node)
    {line : Line} {before after : Style}
    (entrance : (Formatter.program true all).lastEntrance? line.level head (s, l) = some (before, after)) {r r' : Restore}
    {shown : Text}
    (runs : LineStep.runAll (LineStep.ofText conditionals line (Mark.writtenAll true l.conditionals.length marks)) r =
      (.ok shown, r')) :
    ∃ r₁ : Restore, r₁.Remembers before after ∧ r'.stored = r₁.previous ++ r₁.current := by
  obtain ⟨early, late, between, l₁, rfl, front, -, entered, behind⟩ := placed.exists_of_append all
  rw [Mark.runAll_writtenAll_append placed.apart, ← List.length_append, ← entered] at runs
  obtain ⟨shown₁, shown₂, r₁, runs₁, runs₂, rfl⟩ := Sequel.andThen_eq_ok.1 runs
  obtain ⟨row, _, l₂, more, turns, later, -, whole⟩ := behind.exists_turns all line
  rw [whole] at runs₂
  obtain ⟨_, _, r₂, here, runs₃, -⟩ := Sequel.andThen_eq_ok.1 runs₂
  have stores := (turns r₁).stores calls
  rw [here] at stores
  exact ⟨r₁, (front.tracks all runs₁).1.remembered before after entrance,
    ((later.tracks all runs₃).2 unstored).trans stores⟩

end

end Placed

end Node

end LogStyle
