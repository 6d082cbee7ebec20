import LogStyle.Proofs.Formatter.Compile
import LogStyle.Proofs.Formatter.LineStep
import LogStyle.Proofs.Template.Parts

/-! # What lines carry over

A formatter remembers the last conditional style that applied, and forgets at the beginning of a line what
the line before has stored. So all that earlier lines leave to a later one is the last conditional style
that applied on them. A line depends on it exactly when one of its restoring fields reads what the line has
not set itself.
-/

namespace LogStyle

namespace Restore

@[simp] theorem forget_forget (r : Restore) : r.forget.forget = r.forget := rfl

theorem foldl_follow (r : Restore) (cs : List Conditional) :
    cs.foldl follow r = match cs.getLast? with
      | none => r
      | some c => r.follow c := by
  induction cs generalizing r with
  | nil => rfl
  | cons c rest ih =>
      rw [List.foldl_cons, ih, List.getLast?_cons]
      cases rest.getLast? <;> rfl

end Restore

namespace LineStep

/-- The conditional styles that apply in a row of steps, up to the first failure. -/
def applied : List LineStep → List Conditional
  | [] => []
  | follow c :: rest => c :: applied rest
  | fail _ :: _ => []
  | _ :: rest => applied rest

theorem forget_runAll (row : List LineStep) (r : Restore) :
    (runAll row r).2.forget = (applied row).foldl Restore.follow r.forget := by
  induction row generalizing r with
  | nil => rfl
  | cons step rest ih =>
      cases step with
      | shows text => exact ih r
      | follow c => exact ih (r.follow c)
      | store => exact ih r.store
      | restore => exact ih r
      | fail fault => rfl

/-- How much of what is remembered a line has set itself. -/
structure Own where
  /-- A conditional style has applied on the line. -/
  followed : Bool := false
  /-- What is stored was stored by the line before any conditional style applied on it. -/
  storedForeign : Bool := false
  deriving Repr, DecidableEq

def own : LineStep → Own → Own
  | follow _, o => { o with followed := true }
  | store, o => { o with storedForeign := !o.followed }
  | _, o => o

/-- Whether a step reads what earlier lines have left. -/
def readsCarried : LineStep → Own → Bool
  | restore, o => o.storedForeign || !o.followed
  | _, _ => false

def anyReadsCarried : List LineStep → Own → Bool
  | [], _ => false
  | step :: rest, o => step.readsCarried o || anyReadsCarried rest (step.own o)

/-- Two memories that agree on what a line has set itself. -/
structure Agree (o : Own) (r r' : Restore) : Prop where
  previous : o.followed = true → r.previous = r'.previous
  current : o.followed = true → r.current = r'.current
  stored : o.storedForeign = false → r.stored = r'.stored

theorem Agree.start (r r' : Restore) : Agree {} r.forget r'.forget :=
  ⟨by simp, by simp, fun _ => rfl⟩

/-- A step that reads nothing carried shows the same from memories that agree, and leaves memories that
    agree. -/
theorem Agree.step {o : Own} {r r' : Restore} (agree : Agree o r r') (step : LineStep)
    (reads : step.readsCarried o = false) :
    (step.run r).1 = (step.run r').1 ∧ Agree (step.own o) (step.run r).2 (step.run r').2 := by
  cases step with
  | shows text => exact ⟨rfl, agree⟩
  | follow c => exact ⟨rfl, fun _ => rfl, fun _ => rfl, agree.stored⟩
  | store =>
      refine ⟨rfl, agree.previous, agree.current, fun known => ?_⟩
      have followed : o.followed = true := by simpa [own] using known
      simp only [run, Restore.store, agree.previous followed, agree.current followed]
  | restore =>
      simp only [readsCarried, Bool.or_eq_false_iff, Bool.not_eq_false'] at reads
      refine ⟨?_, agree⟩
      simp only [run, Restore.wayBack, agree.stored reads.1, agree.previous reads.2]
  | fail fault => exact ⟨rfl, agree⟩

/-- A row in which nothing carried is read shows the same from memories that agree. -/
theorem Agree.runAll {row : List LineStep} {o : Own} {r r' : Restore} (agree : Agree o r r')
    (reads : anyReadsCarried row o = false) : (runAll row r).1 = (runAll row r').1 := by
  induction row generalizing o r r' with
  | nil => rfl
  | cons step rest ih =>
      simp only [anyReadsCarried, Bool.or_eq_false_iff] at reads
      obtain ⟨same, next⟩ := agree.step step reads.1
      simp only [LineStep.runAll]
      rcases left : step.run r with ⟨shown, s⟩
      rcases right : step.run r' with ⟨shown', s'⟩
      simp only [left, right] at same next
      subst same
      cases shown with
      | error fault => rfl
      | ok text =>
          simp only [Sequel.andThen_ok]
          rw [ih next reads.2]

/-- Two memories of which one comes from the past and the other is empty, as far as a line has not set what
    is remembered itself. What the line has set leads back by less than the past does. -/
structure Differ (past : Restore) (o : Own) (r r' : Restore) : Prop where
  unset : o.followed = false →
    (r.previous = past.previous ∧ r.current = past.current) ∧ r'.previous = [] ∧ r'.current = []
  set : o.followed = true → r.previous = r'.previous ∧ r.current = r'.current ∧
    r'.previous.length < past.previous.length
  foreign : o.storedForeign = true → r.stored = past.previous ++ past.current ∧ r'.stored = []
  stored : o.storedForeign = false → r.stored = r'.stored ∧ (o.followed = false → r.stored = [])

theorem Differ.start (past : Restore) : Differ past {} past.forget (Restore.forget {}) :=
  ⟨fun _ => ⟨⟨rfl, rfl⟩, rfl, rfl⟩, by simp, by simp, fun _ => ⟨rfl, fun _ => rfl⟩⟩

theorem Differ.wayBack {past : Restore} {o : Own} {r r' : Restore} (differ : Differ past o r r')
    (long : 0 < past.previous.length) :
    r'.wayBack.length ≤ r.wayBack.length ∧
      (restore.readsCarried o = true → r'.wayBack.length < r.wayBack.length) := by
  have shorter : r'.previous.length < past.previous.length := by
    cases followed : o.followed with
    | false => rw [(differ.unset followed).2.1]; exact long
    | true => exact (differ.set followed).2.2
  cases storedForeign : o.storedForeign with
  | true =>
      obtain ⟨left, right⟩ := differ.foreign storedForeign
      have kept : past.previous ++ past.current ≠ [] := by
        simp [List.length_pos_iff.1 long]
      have whole : r.wayBack = past.previous ++ past.current := by
        simp only [Restore.wayBack, left, if_neg kept]
      have fresh : r'.wayBack = r'.previous := by simp only [Restore.wayBack, right, if_pos]
      rw [whole, fresh, List.length_append]
      exact ⟨by omega, fun _ => by omega⟩
  | false =>
      obtain ⟨same, empty⟩ := differ.stored storedForeign
      cases followed : o.followed with
      | false =>
          have none : r'.stored = [] := by rw [← same, empty followed]
          simp only [Restore.wayBack, empty followed, none, if_pos, (differ.unset followed).1.1]
          exact ⟨Nat.le_of_lt shorter, fun _ => shorter⟩
      | true =>
          simp only [Restore.wayBack, same, (differ.set followed).1]
          exact ⟨Nat.le_refl _, by simp [readsCarried, storedForeign, followed]⟩

/-- What a row shows is longer where the past is remembered and leads back by more than all that the row sets
    itself, provided the row reads what is carried. -/
theorem Differ.runAll {past : Restore} {row : List LineStep} {o : Own} {r r' : Restore}
    (differ : Differ past o r r') (long : 0 < past.previous.length) (safe : ∀ fault, fail fault ∉ row)
    (longer : ∀ c, follow c ∈ row → c.previous.length < past.previous.length) :
    ∃ t t', (runAll row r).1 = .ok t ∧ (runAll row r').1 = .ok t' ∧ t'.length ≤ t.length ∧
      (anyReadsCarried row o = true → t'.length < t.length) := by
  induction row generalizing o r r' with
  | nil => exact ⟨[], [], rfl, rfl, Nat.le_refl _, by simp [anyReadsCarried]⟩
  | cons step rest ih =>
      -- Each step shows no less where the past is remembered, and more where it reads the past.
      have onward {s s' : Restore} (next : Differ past (step.own o) s s') :=
        ih next (fun fault member => safe fault (List.mem_cons_of_mem _ member))
          fun c member => longer c (List.mem_cons_of_mem _ member)
      have both {u u' : Text} {s s' : Restore} (left : step.run r = (.ok u, s))
          (right : step.run r' = (.ok u', s')) (next : Differ past (step.own o) s s')
          (le : u'.length ≤ u.length) (lt : step.readsCarried o = true → u'.length < u.length) :
          ∃ t t', (LineStep.runAll (step :: rest) r).1 = .ok t ∧
            (LineStep.runAll (step :: rest) r').1 = .ok t' ∧ t'.length ≤ t.length ∧
            (anyReadsCarried (step :: rest) o = true → t'.length < t.length) := by
        obtain ⟨v, v', hv, hv', vle, vlt⟩ := onward next
        refine ⟨u ++ v, u' ++ v', ?_, ?_, ?_, ?_⟩
        · simp only [LineStep.runAll, left, Sequel.andThen_ok, hv, Except.map]
        · simp only [LineStep.runAll, right, Sequel.andThen_ok, hv', Except.map]
        · simp only [List.length_append]; omega
        · intro reads
          simp only [anyReadsCarried, Bool.or_eq_true] at reads
          simp only [List.length_append]
          rcases reads with reads | reads
          · have := lt reads; omega
          · have := vlt reads; omega
      cases step with
      | shows text => exact both rfl rfl differ (Nat.le_refl _) (by simp [readsCarried])
      | follow c =>
          refine both rfl rfl ⟨by simp [own], fun _ => ⟨rfl, rfl, longer c List.mem_cons_self⟩,
            differ.foreign, fun known => ⟨(differ.stored known).1, by simp [own]⟩⟩
            (Nat.le_refl _) (by simp [readsCarried])
      | store =>
          refine both rfl rfl ⟨differ.unset, differ.set, fun foreign => ?_, fun known => ?_⟩
            (Nat.le_refl _) (by simp [readsCarried])
          · obtain ⟨⟨p, c⟩, p', c'⟩ := differ.unset (by simpa [own] using foreign)
            simp [Restore.store, p, c, p', c']
          · have followed : o.followed = true := by simpa [own] using known
            obtain ⟨p, c, -⟩ := differ.set followed
            exact ⟨by simp only [Restore.store, p, c], fun unset => by simp [own, followed] at unset⟩
      | restore =>
          obtain ⟨le, lt⟩ := differ.wayBack long
          exact both rfl rfl differ le lt
      | fail fault => exact absurd List.mem_cons_self (safe fault)

end LineStep

namespace Formatter

/-- One use of a formatter. -/
inductive Call where
  | whole (line : Line)
  /-- A line rendered in parts around its message. -/
  | parts (line : Line)
  deriving Repr, DecidableEq

def Call.line : Call → Line
  | whole line | parts line => line

def use (f : Formatter) (r : Restore) : Call → Restore
  | .whole line => (f.render line r).2
  | .parts line => (f.renderParts line r).2

/-- What a formatter remembers after it has been used for a history of lines. -/
def after (f : Formatter) (history : List Call) : Restore :=
  history.foldl f.use {}

/-- The conditional styles that applied in a history, in order. -/
def applied (f : Formatter) (history : List Call) : List Conditional :=
  history.flatMap fun call => LineStep.applied (LineStep.ofLine f call.line)

/-- What a history leaves to the next line: the last conditional style that applied. -/
def carried (f : Formatter) (history : List Call) : Restore :=
  match (f.applied history).getLast? with
  | none => {}
  | some c => Restore.follow {} c

/-- A line that reads nothing an earlier line has left: every restoring field it reaches comes after a
    conditional style that applies on it, and so does the last storing field before that, if there is
    one. A line that cannot be rendered reads nothing either. -/
def Settled (f : Formatter) (line : Line) : Prop :=
  (∃ fault, LineStep.fail fault ∈ LineStep.ofLine f line) ∨
    LineStep.anyReadsCarried (LineStep.ofLine f line) {} = false

section
variable (text : Text) (conditionals : List Conditional)

theorem forget_use (call : Call) (r : Restore) :
    ((ofTemplate text conditionals).use r call).forget =
      (LineStep.applied (LineStep.ofLine (ofTemplate text conditionals) call.line)).foldl Restore.follow
        r.forget := by
  cases call with
  | whole line =>
      rw [use, render_ofTemplate, LineStep.forget_runAll, Restore.forget_forget]
      rfl
  | parts line =>
      rw [use, renderParts, Template.renderParts_state]
      change ((ofTemplate text conditionals).render line r).2.forget = _
      rw [render_ofTemplate, LineStep.forget_runAll, Restore.forget_forget]
      rfl

/-- After any history a line starts from the last conditional style that applied in it, and from nothing
    else. -/
theorem forget_after (history : List Call) :
    ((ofTemplate text conditionals).after history).forget =
      (ofTemplate text conditionals).carried history := by
  have run (history : List Call) (r : Restore) :
      (history.foldl (ofTemplate text conditionals).use r).forget =
        ((ofTemplate text conditionals).applied history).foldl Restore.follow r.forget := by
    induction history generalizing r with
    | nil => rfl
    | cons call rest ih =>
        rw [List.foldl_cons, ih, forget_use, applied, ← List.foldl_append]
        rfl
  rw [after, run, Restore.foldl_follow]
  rfl

end

/-- Earlier lines leave the last conditional style that applied, and nothing else. A settled line shows what
    it shows on a formatter that has not been used. Any other line shows something else wherever the
    remembered style leads back by more than all that the line itself sets. -/
theorem render_after [CharNames] {colors : Bool} {format : Text} {f : Formatter}
    (compiled : (compile colors format).outcome.1 = .ok f) (line : Line) :
    (∀ history, f.render line (f.after history) = f.render line (f.carried history)) ∧
      (f.Settled line → ∀ history, (f.render line (f.after history)).1 = (f.render line {}).1) ∧
      (¬ f.Settled line → ∀ r : Restore,
        (∀ c, LineStep.follow c ∈ LineStep.ofLine f line → c.previous.length < r.previous.length) →
        r.previous ≠ [] → (f.render line r).1 ≠ (f.render line {}).1) := by
  obtain ⟨-, text, reached, -, -, rfl⟩ := outcome_compile_eq_ok.1 compiled
  generalize reached.2.conditionals = conditionals
  refine ⟨fun history => ?_, fun settled history => ?_, fun unsettled r longer kept => ?_⟩
  · rw [render_ofTemplate, render_ofTemplate, forget_after]
    congr 1
    unfold carried
    cases ((ofTemplate text conditionals).applied history).getLast? <;> rfl
  · rw [render_ofTemplate, render_ofTemplate]
    rcases settled with ⟨fault, fails⟩ | reads
    · obtain ⟨first, error⟩ := LineStep.runAll_of_fail fails
      rw [error, error]
    · exact (LineStep.Agree.start _ _).runAll reads
  · simp only [Settled, not_or, not_exists, Bool.not_eq_false] at unsettled
    obtain ⟨t, t', shown, shown', -, lt⟩ :=
      (LineStep.Differ.start r).runAll (List.length_pos_iff.2 kept) unsettled.1 longer
    rw [render_ofTemplate, render_ofTemplate, shown, shown']
    intro same
    have length := lt unsettled.2
    simp only [Except.ok.injEq] at same
    rw [same] at length
    omega

section

attribute [local instance] CharNames.none

/-- A line of errors that stores after its own style has applied is settled, whatever came before. -/
theorem render_after_stored_error :
    ∃ f, (compile true "\x7bonerror \"\x7bbold\x7d\"\x7d\x7bstore\x7dx\x7brestore\x7d").outcome.1 = .ok f ∧
      f.Settled (Line.plain .error) ∧
      (f.render (Line.plain .error) (f.after [.whole (Line.plain .info), .parts (Line.plain .error)])).1 =
        (f.render (Line.plain .error) {}).1 := by
  obtain ⟨f, compiled, reads⟩ := exists_of_any
    ((compile true "\x7bonerror \"\x7bbold\x7d\"\x7d\x7bstore\x7dx\x7brestore\x7d").outcome.1)
    (fun f => !LineStep.anyReadsCarried (LineStep.ofLine f (Line.plain .error)) {})
    (by decide +kernel)
  have settled : f.Settled (Line.plain .error) := .inr (by simpa using reads)
  exact ⟨f, compiled, settled, (render_after compiled (Line.plain .error)).2.1 settled _⟩

end

section

attribute [local instance] CharNames.none

/-- A line of information that restores shows what leads back to the style before the last line of errors. -/
theorem render_differs_after_error :
    ∃ f, (compile true "\x7bonerror \"\x7bbold\x7d\"\x7dx\x7brestore\x7d").outcome.1 = .ok f ∧
      (f.render (Line.plain .info) (f.after [.whole (Line.plain .error)])).1 ≠
        (f.render (Line.plain .info) {}).1 := by
  obtain ⟨f, compiled, differs⟩ := exists_of_any
    ((compile true "\x7bonerror \"\x7bbold\x7d\"\x7dx\x7brestore\x7d").outcome.1)
    (fun f => (f.render (Line.plain .info) (f.after [.whole (Line.plain .error)])).1.toOption !=
      (f.render (Line.plain .info) {}).1.toOption)
    (by decide +kernel)
  refine ⟨f, compiled, fun same => ?_⟩
  rw [same] at differs
  simp at differs

end

end Formatter

end LogStyle
