import LogStyle.Proofs.Formatter.Memory

/-! # Where a way back leads

A terminal that reads a line up to a restoring field is in a style that the format fixes: the one that is stored, or
the one before the last conditional style that applied. Neither what has been shown before nor the style the terminal
was in makes a difference, since a way back spells its style out.
-/

namespace LogStyle

namespace Terminal

theorem reads_spelled {s : Style} (inRange : s.InRange) (start : Style) : Reads start (s.spelled true) [] s :=
  (reads_foreground start inRange.1).append ((reads_background _ inRange.2).append
    ((reads_bold _ s.bold).append (reads_reverse _ s.reversed)))

theorem final_read_append_spelled {s final : Style} {u : Text} {cells : List Cell} (inRange : s.InRange)
    (reads : Reads s u cells final) (start : Style) (t : Text) :
    (Terminal.read start (t ++ (s.spelled true ++ u))).2 = final := by
  have whole := ((reads_spelled inRange (Terminal.read start t).2).append reads).read_eq
  obtain ⟨rest, first⟩ : ∃ rest, s.spelled true ++ u = .char '\x1b' :: rest := ⟨_, rfl⟩
  rw [first] at whole ⊢
  rw [read_append, whole]
  rfl

end Terminal

namespace Restore

variable {r : Restore} {before final : Style}

theorem Remembers.final_read_stored {r' : Restore} (remembers : r.Remembers before final)
    (stored : r'.stored = r.previous ++ r.current) (start : Style) (t : Text) :
    (Terminal.read start (t ++ r'.wayBack)).2 = final := by
  obtain ⟨cells, reads⟩ := remembers.current
  have kept : r'.stored ≠ [] := by
    rw [stored, remembers.previous]
    simp [Style.spelled, Style.sequence]
  rw [Restore.wayBack, if_neg kept, stored, remembers.previous]
  exact Terminal.final_read_append_spelled remembers.inRange reads start t

theorem Remembers.final_read_previous (remembers : r.Remembers before final) (unstored : r.stored = []) (start : Style)
    (t : Text) : (Terminal.read start (t ++ r.wayBack)).2 = before := by
  have whole := Terminal.final_read_append_spelled remembers.inRange (Terminal.reads_nil before) start t
  rw [List.append_nil] at whole
  rwa [Restore.wayBack, if_pos unstored, remembers.previous]

end Restore

def Mark.restore : Mark :=
  .shown fun _ => Ledger.placeholder Ledger.restoreName

theorem Mark.runAll_restore (conditionals : List Conditional) (line : Line) (count : Nat) (r : Restore) :
    LineStep.runAll (LineStep.ofText conditionals line (writtenAll true count [restore])) r = (.ok r.wayBack, r) := by
  have written : writtenAll true count [restore] = Segment.fieldText Ledger.restoreName := rfl
  rw [written, LineStep.ofText_fieldText _ _ (by decide)]
  exact Sequel.andThen_done (.ok r.wayBack, r)

theorem Node.LeavesAll.of_restore [CharNames] {s final : Style} {marks : List Mark} {position : Nat}
    (leaves : LeavesAll [.call Ledger.restoreName [] position] s marks final) : marks = [.restore] := by
  cases leaves with
  | cons here later =>
      cases later
      cases here with
      | effect found => cases found
      | store named => cases named
      | restore named => rfl
      | unread conditional | broken conditional | entered conditional => cases conditional

namespace Formatter

open Node

variable {format : Text} {f : Formatter}

theorem exists_placed [CharNames] {parsed : List Node} (compiled : (compile true format).outcome.1 = .ok f)
    (read : nodes true format = .ok parsed) (tame : ∀ n ∈ parsed, n.Tame) (hosted : ∀ n ∈ parsed, n.Hosted) :
    ∃ marks final conditionals, f = ofTemplate (Mark.writtenAll true 0 marks) conditionals ∧
      Placed conditionals parsed Style.plain {} marks final := by
  obtain ⟨parsed', marks, final, read', leaves, numbered, same⟩ := compile_iff_leavesAll.1 compiled
  obtain rfl : parsed = parsed' := Except.ok.inj (read.symm.trans read')
  refine ⟨marks, final, _, same, leaves, ?_, Style.inRange_plain, numbered, List.prefix_rfl⟩
  intro n member
  refine ⟨tame n member, hosted n member, ?_⟩
  rintro t rfl
  exact brace_not_mem_of_readFrom (d := none) rfl read member

/-- Up to a restoring field a line that has stored something brings a terminal to the style of the last fragment
    for its level before that; a line that has stored nothing brings it to the style before the last fragment. This
    does not depend on where the terminal starts. The line is shown unless it shows the time by a pattern that
    cannot be encoded. -/
theorem read_restored [CharNames] {front back : List Node} {position : Nat}
    (compiled : (compile true format).outcome.1 = .ok f)
    (read : nodes true format = .ok (front ++ .call Ledger.restoreName [] position :: back))
    (tame : ∀ n ∈ front ++ .call Ledger.restoreName [] position :: back, n.Tame)
    (hosted : ∀ n ∈ front ++ .call Ledger.restoreName [] position :: back, n.Hosted) (line : Line) (r : Restore) :
    let p := program true (front ++ .call Ledger.restoreName [] position :: back)
    ((∃ whole, (f.render line r).1 = .ok whole) ↔ f.Encodable line.clock) ∧
    ∃ t, (p.runNodes front (Style.plain, {})).1 = .ok t ∧
      (∀ whole, (f.render line r).1 = .ok whole → ∃ shown after, whole = shown ++ after ∧
        ((ofTemplate (t ++ Ledger.placeholder Ledger.restoreName) f.conditionals).render line r).1 = .ok shown) ∧
      ∀ shown, ((ofTemplate (t ++ Ledger.placeholder Ledger.restoreName) f.conditionals).render line r).1 = .ok shown →
        (∀ head n tail before final, front = head ++ n :: tail → n.Calls Ledger.storeName →
          (∀ other ∈ tail, ¬ other.Calls Ledger.storeName) →
          p.lastEntrance? line.level head (Style.plain, {}) = some (before, final) →
          ∀ start, (Terminal.read start shown).2 = final) ∧
        ((∀ n ∈ front, ¬ n.Calls Ledger.storeName) → ∀ before final,
          p.lastEntrance? line.level front (Style.plain, {}) = some (before, final) →
          ∀ start, (Terminal.read start shown).2 = before) := by
  intro p
  obtain ⟨marks, last, conditionals, rfl, placed⟩ := exists_placed compiled read tame hosted
  have readable : (ofTemplate (Mark.writtenAll true 0 marks) conditionals).Readable := by
    intro segment member
    cases segment with
    | literal u => exact id
    | field body => exact placed.not_misread _ (Segment.field_mem_flatMap_scatter.2 member)
  have apart := placed.apart
  obtain ⟨early, late, between, l₁, rfl, inFront, ran, entered, behind⟩ := placed.exists_of_append p.nodes
  have behind : Placed _ ([.call Ledger.restoreName [] position] ++ back) between l₁ late last := behind
  obtain ⟨single, more, _, l₂, rfl, alone, -, entered', inBack⟩ := behind.exists_of_append p.nodes
  obtain rfl := alone.leaves.of_restore
  rw [← List.append_assoc] at apart
  have first : ∀ mark ∈ early ++ [Mark.restore], mark.Apart :=
    fun mark member => apart mark (List.mem_append_left _ member)
  -- Up to the restoring field the line is what the nodes before it show, and the way back behind that.
  have upTo : LineStep.runAll (LineStep.ofText conditionals line (Mark.writtenAll true 0 (early ++ [Mark.restore])))
      r.forget = Sequel.andThen (LineStep.runAll (LineStep.ofText conditionals line (Mark.writtenAll true 0 early)) r.forget)
        fun r => (.ok r.wayBack, r) := by
    rw [Mark.runAll_writtenAll_append first]
    exact congrArg _ (funext fun r => Mark.runAll_restore _ _ _ r)
  have part : (ofTemplate (Mark.writtenAll true 0 early ++ Ledger.placeholder Ledger.restoreName) conditionals).render line r =
      LineStep.runAll (LineStep.ofText conditionals line (Mark.writtenAll true 0 (early ++ [Mark.restore]))) r.forget := by
    rw [render_eq_ofText, Mark.writtenAll_append]
    rfl
  refine ⟨(render_ofTemplate_isOk _ _ line r).trans (and_iff_right readable), _, congrArg Prod.fst ran, ?_, ?_⟩
  · intro whole shows
    have whole_ := Mark.runAll_writtenAll_append apart conditionals line true 0 r.forget
    rw [List.append_assoc] at whole_
    rw [render_eq_ofText, whole_] at shows
    obtain ⟨shown, after, r₁, here, -, same⟩ := Sequel.andThen_eq_ok.1 (Prod.ext shows rfl)
    exact ⟨shown, after, same, congrArg Prod.fst (part.trans here)⟩
  · intro shown shows
    have shows := (congrArg Prod.fst (part.trans upTo)).symm.trans shows
    obtain ⟨written, back, r₁, runs, same, rfl⟩ := Sequel.andThen_eq_ok.1 (Prod.ext shows rfl)
    obtain rfl : r₁.wayBack = back := Except.ok.inj (congrArg Prod.fst same)
    constructor
    · intro head n tail before final split calls unstored entrance start
      subst split
      obtain ⟨r₀, remembers, stored⟩ := inFront.stored_of_last calls unstored p.nodes entrance runs
      exact remembers.final_read_stored stored start written
    · intro unstored before final entrance start
      obtain ⟨tracks, keeps⟩ := inFront.tracks p.nodes runs
      exact (tracks.remembered before final entrance).final_read_previous (keeps unstored) start written

section

attribute [local instance] CharNames.none

/-- A line of information that stores its style and meets that of another level before it restores. -/
theorem read_restored_of_stored :
    let format : Text :=
      "\x7bfg 3\x7d\x7boninfo \"\x7bbold\x7d!\"\x7d\x7bstore\x7d\x7bfg 4\x7d\x7boninfo \"\x7breverse\x7d\"\x7dx\x7brestore\x7dy"
    let head : List Node := [.call "fg" [.number 3] 0, .call "oninfo" [.text "\x7bbold\x7d!"] 6]
    let tail : List Node := [.call "fg" [.number 4] 31, .call "oninfo" [.text "\x7breverse\x7d"] 37, .text "x"]
    let front := head ++ .call Ledger.storeName [] 24 :: tail
    ∃ f shown after, (compile true format).outcome.1 = .ok f ∧
      nodes true format = .ok (front ++ .call Ledger.restoreName [] 58 :: [.text "y"]) ∧
      (∀ n ∈ front ++ .call Ledger.restoreName [] 58 :: [.text "y"], n.Tame ∧ n.Hosted) ∧
      (f.render (Line.plain .info) {}).1 = .ok (shown ++ after) ∧
      ∀ start, (Terminal.read start shown).2 = { foreground := some 3, bold := true } := by
  intro format head tail front
  obtain ⟨f, compiled, encodable⟩ := exists_of_any (compile true format).outcome.1
    (fun f => decide (f.Encodable (Line.plain .info).clock)) (by decide +kernel)
  have read : nodes true format = .ok (front ++ .call Ledger.restoreName [] 58 :: [.text "y"]) :=
    eq_ok_of_toOption (by decide +kernel)
  have fits : ∀ n ∈ front ++ .call Ledger.restoreName [] 58 :: [.text "y"], n.Tame ∧ n.Hosted := by decide +kernel
  obtain ⟨shows, t, -, parts, restored⟩ := read_restored compiled read (fun n member => (fits n member).1)
    (fun n member => (fits n member).2) (Line.plain .info) {}
  obtain ⟨whole, renders⟩ := shows.2 (of_decide_eq_true encodable)
  obtain ⟨shown, after, rfl, upTo⟩ := parts whole renders
  refine ⟨f, shown, after, compiled, read, fits, renders, ?_⟩
  exact (restored shown upTo).1 head _ tail { foreground := some 3 } _ rfl rfl (by decide +kernel) (by decide +kernel)

end

end Formatter

end LogStyle
