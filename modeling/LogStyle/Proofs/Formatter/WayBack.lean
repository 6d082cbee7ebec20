import LogStyle.Proofs.Program.Style

/-! # Running again, and the way back

A program can be run again from where its last run has stopped, at its end or at a failure. The colours in force
stay those that the terminal has, whatever is run how often, so the style in force can be written out at every
point of a format where a conditional style may ask for the way back.
-/

namespace LogStyle

namespace Program

variable {σ : Type} (p : Program σ)

/-- Where so many runs lead, each from where the run before it has stopped. -/
def reachedAfter (seed : Reached σ) : Nat → Reached σ
  | 0 => seed
  | runs + 1 => (p.execute (reachedAfter seed runs)).2

theorem inRange_reachedAfter {seed : Reached σ} (inRange : seed.1.InRange) (runs : Nat) :
    (p.reachedAfter seed runs).1.InRange := by
  induction runs with
  | zero => exact inRange
  | succ runs ih => exact p.inRange_of_runNodes p.nodes ih

end Program

theorem Ledger.wayBack_eq [CharNames] (colors : Bool) {outer : Style} (inRange : outer.InRange) (l : Ledger) :
    (wayBack colors outer l).1 = .ok (outer.spelled colors) := by
  apply eq_ok_of_toOption
  rw [Walk.toOption_wayBack, Walk.wayBack_eq colors inRange]

/-- After each node of each run of a program the terminal has the colours in force; and after each node of a
    format, what leads back to the style in force can be read and run. -/
theorem Formatter.wayBack_at_every_node [CharNames] :
    (∀ {σ : Type} (p : Program σ) (seed : Program.Reached σ), seed.1.InRange →
      ∀ runs count, (p.runNodes (p.nodes.take count) (p.reachedAfter seed runs)).2.1.InRange) ∧
    ∀ colors format parsed, nodes colors format = .ok parsed → ∀ count,
      let outer := ((program colors parsed).runNodes (parsed.take count) (Style.plain, {})).2.1
      (PureProgram.compileAndExecute [] colors outer.directives Style.plain).outcome.1 = .ok (outer.spelled colors) ∧
        ∀ l, (Ledger.wayBack colors outer l).1 = .ok (outer.spelled colors) := by
  constructor
  · intro σ p seed inRange runs count
    exact p.inRange_of_runNodes _ (p.inRange_reachedAfter inRange runs)
  · intro colors format parsed _ count outer
    have inRange : outer.InRange := (program colors parsed).inRange_of_runNodes _ Style.inRange_plain
    exact ⟨PureProgram.outcome_directives colors inRange, Ledger.wayBack_eq colors inRange⟩

section

attribute [local instance] CharNames.none

/-- The program fails at its second call, each time it is run; the format has a broken style between two others. -/
theorem Formatter.wayBack_after_failures :
    let p : PureProgram := ⟨Registry.builtins, [.call "fg" [.number 5] 0, .call "bg" [.number 300] 6], true⟩
    let seed : Program.Reached Unit := (⟨some 7, none, true, false⟩, ())
    let format : Text := "\x7bfg 5\x7d\x7bonerror \"\x7bbold\x7d\"\x7d\x7boninfo \"\x7bfg\"\x7d\x7bbg 200\x7d\x7bonerror \"\"\x7d"
    (Program.execute p (p.reachedAfter seed 2)).1 = .error (.noSuchColor 300) ∧
      (p.runNodes (p.nodes.take 1) (p.reachedAfter seed 2)).2.1.InRange ∧
      ∃ parsed, nodes true format = .ok parsed ∧
        let outer := ((program true parsed).runNodes (parsed.take 4) (Style.plain, {})).2.1
        outer = ⟨some 5, some 200, false, false⟩ ∧
          (PureProgram.compileAndExecute [] true outer.directives Style.plain).outcome.1 = .ok (outer.spelled true) := by
  intro p seed format
  have inRange : seed.1.InRange := ⟨by simp [seed, Style.IsColor], by simp [seed]⟩
  obtain ⟨stays, found⟩ := wayBack_at_every_node
  have tested : (nodes true format).toOption.any (fun parsed =>
      ((program true parsed).runNodes (parsed.take 4) (Style.plain, {})).2.1 = ⟨some 5, some 200, false, false⟩) = true := by
    decide +kernel
  obtain ⟨parsed, read, reached⟩ := exists_of_any (nodes true format) _ tested
  refine ⟨by decide +kernel, stays p seed inRange 2 1, parsed, read, of_decide_eq_true reached, ?_⟩
  exact (found true format parsed read 4).1

end

end LogStyle
