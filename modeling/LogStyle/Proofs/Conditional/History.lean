import LogStyle.Proofs.Formatter.Readable
import Mathlib.Data.List.Induction

/-! # The history of what is remembered

What is remembered at a point can be told from the calls up to there. The last conditional style that applied gives
both of its texts, never one without the other, and what is stored is what was remembered at the last store, unless
it has been forgotten since.
-/

namespace LogStyle

namespace Restore

/-- A use of what is remembered. -/
inductive Call where
  /-- Resolve a field that stands for a conditional style. -/
  | onLevel (line : Line) (value : Text)
  | store
  | restore
  /-- Begin a line. -/
  | forget

namespace Call

section
variable (conditionals : List Conditional)

def run : Call → Restore → Except Fault Text × Restore
  | onLevel line value, r => Restore.onLevel conditionals line value r
  | store, r => (.ok [], r.store)
  | restore, r => (.ok r.wayBack, r)
  | forget, r => (.ok [], r.forget)

/-- A call names a conditional style by its number, and the style is one for the level of the line. -/
def Matches : Call → Conditional → Prop
  | onLevel line value, c => ∃ n, Names value n ∧ conditionals[n]? = some c ∧ c.applies line.level = true
  | _, _ => False

end

/-- A call with one property that no call with another property follows, and the calls in front of it. -/
def Last (P Q : Call → Prop) (calls front : List Call) : Prop :=
  ∃ call back, calls = front ++ call :: back ∧ P call ∧ ∀ d ∈ back, ¬ Q d

theorem last_concat {P Q : Call → Prop} {calls front : List Call} {call : Call} :
    Last P Q (calls ++ [call]) front ↔ P call ∧ front = calls ∨ ¬ Q call ∧ Last P Q calls front := by
  constructor
  · rintro ⟨d, back, whole, has, none⟩
    rcases List.eq_nil_or_concat back with rfl | ⟨back, e, rfl⟩
    · obtain ⟨rfl, same⟩ := List.append_inj' whole rfl
      obtain rfl := List.singleton_inj.1 same
      exact .inl ⟨has, rfl⟩
    · rw [List.concat_eq_append, ← List.cons_append, ← List.append_assoc] at whole
      obtain ⟨rfl, same⟩ := List.append_inj' whole rfl
      obtain rfl := List.singleton_inj.1 same
      have behind : ¬ Q call := none call (by simp)
      exact .inr ⟨behind, d, back, rfl, has, fun e member => none e (by simp [member])⟩
  · rintro (⟨has, rfl⟩ | ⟨lacks, d, back, rfl, has, none⟩)
    · exact ⟨call, [], rfl, has, fun d => List.not_mem_nil.elim⟩
    · refine ⟨d, back ++ [call], by simp, has, fun e member => ?_⟩
      rcases List.mem_append.1 member with inner | last
      · exact none e inner
      · exact List.mem_singleton.1 last ▸ lacks

end Call

section
variable (conditionals : List Conditional)

/-- What is remembered after some calls, where nothing was remembered before. -/
def after (calls : List Call) : Restore :=
  calls.foldl (fun r call => (call.run conditionals r).2) {}

/-- A conditional style is the last that has matched. -/
def MatchedLast (calls : List Call) (c : Conditional) : Prop :=
  ∃ front, Call.Last (·.Matches conditionals c) (fun d => ∃ c', d.Matches conditionals c') calls front

/-- The last store, if nothing has been forgotten since: the calls in front of it. -/
def StoredSince (calls front : List Call) : Prop :=
  Call.Last (· = .store) (fun d => d = .store ∨ d = .forget) calls front

/-- A memory is what calls have left, told from the calls. -/
structure Told (calls : List Call) (r : Restore) : Prop where
  unmatched : (∀ c, ¬ MatchedLast conditionals calls c) → r.previous = [] ∧ r.current = []
  matched : ∀ c, MatchedLast conditionals calls c → r.previous = c.previous ∧ r.current = c.sequence
  unstored : (∀ front, ¬ StoredSince calls front) → r.stored = []
  stored : ∀ front, StoredSince calls front →
    r.stored = (after conditionals front).previous ++ (after conditionals front).current

variable {conditionals}

@[simp] theorem after_concat (calls : List Call) (call : Call) :
    after conditionals (calls ++ [call]) = (call.run conditionals (after conditionals calls)).2 := by
  simp [after, List.foldl_append]

namespace Call

theorem named_of_matches {line : Line} {value : Text} {c : Conditional}
    (found : (onLevel line value).Matches conditionals c) :
    named conditionals value = .ok (some c) ∧ c.applies line.level = true := by
  obtain ⟨n, names, entry, applies⟩ := found
  exact ⟨entry ▸ named_of_names names conditionals, applies⟩

theorem matches_of_named {line : Line} {value : Text} {c : Conditional}
    (found : named conditionals value = .ok (some c)) (applies : c.applies line.level = true) :
    (onLevel line value).Matches conditionals c := by
  have sound : ¬ Misread value := by
    intro misread
    obtain ⟨fault, failed⟩ := named_of_misread misread conditionals
    rw [failed] at found
    cases found
  by_cases number : ∃ n, Names value n
  · obtain ⟨n, names⟩ := number
    rw [named_of_names names] at found
    exact ⟨n, names, Except.ok.inj found, applies⟩
  · rw [named_of_other sound (not_exists.1 number)] at found
    cases found

theorem run_of_matches {call : Call} {c : Conditional} (found : call.Matches conditionals c) (r : Restore) :
    call.run conditionals r = (.ok c.sequence, r.follow c) := by
  cases call with
  | onLevel line value =>
      obtain ⟨known, applies⟩ := named_of_matches found
      simp only [run, Restore.onLevel, known, applies, if_true]
  | store | restore | forget => exact found.elim

theorem run_of_not_matches {line : Line} {value : Text}
    (none : ∀ c, ¬ (onLevel line value).Matches conditionals c) (r : Restore) :
    ((onLevel line value).run conditionals r).2 = r ∧
      ∀ t, ((onLevel line value).run conditionals r).1 = .ok t → t = [] := by
  cases found : named conditionals value with
  | error fault => simp [run, Restore.onLevel, found]
  | ok entry =>
      cases entry with
      | none => simp [run, Restore.onLevel, found]
      | some c =>
          have other : ¬ c.applies line.level = true := fun applies => none c (matches_of_named found applies)
          simp [run, Restore.onLevel, found, other]

theorem run_frame (call : Call) (r : Restore) :
    ((∀ c, ¬ call.Matches conditionals c) →
      (call.run conditionals r).2.previous = r.previous ∧ (call.run conditionals r).2.current = r.current) ∧
    (call ≠ .store → call ≠ .forget → (call.run conditionals r).2.stored = r.stored) := by
  cases call with
  | store => exact ⟨fun _ => ⟨rfl, rfl⟩, fun other => absurd rfl other⟩
  | restore => exact ⟨fun _ => ⟨rfl, rfl⟩, fun _ _ => rfl⟩
  | forget => exact ⟨fun _ => ⟨rfl, rfl⟩, fun _ other => absurd rfl other⟩
  | onLevel line value =>
      by_cases found : ∃ c, (onLevel line value).Matches conditionals c
      · obtain ⟨c, found⟩ := found
        rw [run_of_matches found]
        exact ⟨fun none => absurd found (none c), fun _ _ => rfl⟩
      · rw [(run_of_not_matches (not_exists.1 found) r).1]
        exact ⟨fun _ => ⟨rfl, rfl⟩, fun _ _ => rfl⟩

end Call

theorem Told.step {calls : List Call} (told : Told conditionals calls (after conditionals calls)) (call : Call) :
    Told conditionals (calls ++ [call]) (call.run conditionals (after conditionals calls)).2 := by
  obtain ⟨pair, kept⟩ := @Call.run_frame conditionals call (after conditionals calls)
  constructor
  · intro none
    have here : ∀ c, ¬ call.Matches conditionals c := by
      intro c found
      exact none c ⟨calls, Call.last_concat.2 (.inl ⟨found, rfl⟩)⟩
    rw [(pair here).1, (pair here).2]
    apply told.unmatched
    rintro c ⟨front, last⟩
    exact none c ⟨front, Call.last_concat.2 (.inr ⟨not_exists.2 here, last⟩)⟩
  · rintro c ⟨front, last⟩
    rcases Call.last_concat.1 last with ⟨found, -⟩ | ⟨other, last⟩
    · rw [Call.run_of_matches found]
      exact ⟨rfl, rfl⟩
    · rw [(pair (not_exists.1 other)).1, (pair (not_exists.1 other)).2]
      exact told.matched c ⟨front, last⟩
  · intro none
    by_cases forgets : call = .forget
    · rw [forgets]
      rfl
    have other : call ≠ .store := fun stores => none calls (Call.last_concat.2 (.inl ⟨stores, rfl⟩))
    rw [kept other forgets]
    exact told.unstored fun front last => none front (Call.last_concat.2 (.inr ⟨by simp [other, forgets], last⟩))
  · intro front last
    rcases Call.last_concat.1 last with ⟨rfl, rfl⟩ | ⟨other, last⟩
    · rfl
    · rw [not_or] at other
      rw [kept other.1 other.2]
      exact told.stored front last

/-- What is remembered after any calls is told by them: the texts of the last conditional style that matched, and what
    was remembered at the last store, unless it has been forgotten since. What is restored is what is stored, or else
    what leads back to the style before. -/
theorem told_after (conditionals : List Conditional) (calls : List Call) :
    Told conditionals calls (after conditionals calls) ∧
    (let r := after conditionals calls
     Call.restore.run conditionals r = (.ok (if r.stored ≠ [] then r.stored else r.previous), r) ∧
      (∀ line value, (∀ c, ¬ (Call.onLevel line value).Matches conditionals c) →
        ((Call.onLevel line value).run conditionals r).2 = r ∧
          ∀ t, ((Call.onLevel line value).run conditionals r).1 = .ok t → t = []) ∧
      (Call.forget.run conditionals r).2 = { r with stored := [] }) := by
  refine ⟨?_, ?_, fun line value none => Call.run_of_not_matches none _, rfl⟩
  · induction calls using List.reverseRecOn with
    | nil =>
        refine ⟨fun _ => ⟨rfl, rfl⟩, fun c last => ?_, fun _ => rfl, fun front last => ?_⟩
        · obtain ⟨front, call, back, whole, -⟩ := last
          simp at whole
        · obtain ⟨call, back, whole, -⟩ := last
          simp at whole
    | append_singleton calls call ih =>
        rw [after_concat]
        exact ih.step call
  · simp only [Call.run, wayBack]
    split <;> simp_all

end

end Restore

end LogStyle
