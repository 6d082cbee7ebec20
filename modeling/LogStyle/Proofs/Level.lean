import LogStyle.Level
import LogStyle.Proofs.Number.Binary64
import Mathlib.Data.List.Forall2

/-! # Levels by names and numbers

A name is that of one level at most. A number falls on the highest level that it reaches, and so does a real
number, whether it is compared or cut off first.
-/

namespace LogStyle

namespace Level

/-- A text names a level in any case, whatever blanks stand around it. -/
def IsNamed (name : Text) (level : Level) : Prop :=
  name.strip.upper = level.label

theorem ofName?_eq_some {name : Text} {level : Level} : ofName? name = some level ↔ IsNamed name level := by
  unfold ofName? IsNamed
  constructor
  · intro found
    have same := List.find?_some found
    exact (of_decide_eq_true same).symm
  · intro shown
    rw [shown]
    cases level <;> decide

theorem ofName_eq_ok {name : Text} {level : Level} : ofName name = .ok level ↔ IsNamed name level := by
  rw [← ofName?_eq_some, ofName]
  cases ofName? name <;> simp

theorem exists_ofName_eq_error {name : Text} : (∃ e, ofName name = .error e) ↔ ∀ level, ¬ IsNamed name level := by
  simp only [← ofName_eq_ok]
  cases ofName name <;> simp

theorem mapM_ofName_eq_ok {names : List Text} {levels : List Level} :
    names.mapM ofName = .ok levels ↔ List.Forall₂ IsNamed names levels := by
  induction names generalizing levels with
  | nil =>
      rw [List.mapM_nil, List.forall₂_nil_left_iff]
      exact ⟨fun same => (Except.ok.inj same).symm, fun none => none ▸ rfl⟩
  | cons name rest ih =>
      rw [List.mapM_cons, List.forall₂_cons_left_iff]
      simp only [← ofName_eq_ok, ← ih]
      cases ofName name with
      | error e => simp [bind, Except.bind]
      | ok level =>
          cases rest.mapM ofName with
          | error e => simp [bind, Except.bind]
          | ok others => simp [bind, Except.bind, pure, Except.pure, eq_comm]

theorem exists_mapM_ofName_eq_error {names : List Text} :
    (∃ e, names.mapM ofName = .error e) ↔ ∃ name ∈ names, ∀ level, ¬ IsNamed name level := by
  induction names with
  | nil => simp [pure, Except.pure]
  | cons name rest ih =>
      rw [List.mapM_cons, List.exists_mem_cons_iff, ← ih, ← exists_ofName_eq_error]
      cases ofName name with
      | error e => simp [bind, Except.bind]
      | ok level => cases rest.mapM ofName <;> simp [bind, Except.bind, pure, Except.pure]

theorem exists_named {names : List Text} (all : ¬ ∃ name ∈ names, ∀ level, ¬ IsNamed name level) :
    ∃ levels, List.Forall₂ IsNamed names levels := by
  simp only [← mapM_ofName_eq_ok]
  cases outcome : names.mapM ofName with
  | error e => exact absurd (exists_mapM_ofName_eq_error.1 ⟨e, outcome⟩) all
  | ok levels => exact ⟨levels, rfl⟩

/-! ## Numbers -/

/-- A level is the highest one with a property that holds of severities from some number down; the lowest level
    need not have it. -/
structure IsHighest (reaches : Nat → Prop) (level : Level) : Prop where
  reached : level = .trace ∨ reaches level.severity
  last : ∀ higher : Level, level.severity < higher.severity → ¬ reaches higher.severity

theorem five_le_severity (level : Level) : 5 ≤ level.severity := by
  cases level <;> decide

theorem IsHighest.unique {reaches : Nat → Prop} {level other : Level} (one : IsHighest reaches level)
    (two : IsHighest reaches other) : level = other := by
  have apart {a b : Level} (high : IsHighest reaches a) (low : IsHighest reaches b) :
      ¬ b.severity < a.severity := by
    intro below
    rcases high.reached with rfl | reached
    · exact absurd (Nat.lt_of_lt_of_le below (Nat.le_refl 5)) (Nat.not_lt.2 (five_le_severity b))
    · exact low.last a below reached
  have same : level.severity = other.severity := by
    have := apart one two
    have := apart two one
    omega
  cases level <;> cases other <;> first | rfl | simp [severity] at same

theorem isHighest_highest (reaches : Nat → Bool) : IsHighest (reaches · = true) (highest reaches) := by
  have shown : highest reaches = if reaches 50 then .fatal else if reaches 40 then .error else
      if reaches 30 then .warning else if reaches 20 then .info else if reaches 10 then .debug else .trace := by
    simp only [highest, all, List.reverse_cons, List.reverse_nil, List.nil_append, List.cons_append, List.find?,
      severity]
    cases reaches 50 <;> cases reaches 40 <;> cases reaches 30 <;> cases reaches 20 <;> cases reaches 10 <;>
      cases reaches 5 <;> rfl
  rw [shown]
  split_ifs <;> refine ⟨?_, fun higher above => ?_⟩ <;> first | (cases higher <;> simp_all [severity]) | simp_all [severity]

theorem ofSeverity_eq_iff {n : Int} {level : Level} :
    ofSeverity n = level ↔ IsHighest (fun threshold => (threshold : Int) ≤ n) level := by
  have spec := isHighest_highest fun threshold => (threshold : Int) ≤ n
  simp only [decide_eq_true_eq] at spec
  exact ⟨fun same => same ▸ spec, IsHighest.unique spec⟩

theorem ofSeverity_severity (level : Level) : ofSeverity level.severity = level :=
  ofSeverity_eq_iff.2 ⟨.inr (Int.le_refl _), fun _ above reached => by omega⟩

/-- A greater number falls on no lower level. -/
theorem severity_ofSeverity_mono {m n : Int} (le : m ≤ n) : (ofSeverity m).severity ≤ (ofSeverity n).severity := by
  have low := ofSeverity_eq_iff.1 (rfl : ofSeverity m = _)
  have high := ofSeverity_eq_iff.1 (rfl : ofSeverity n = _)
  by_contra above
  rcases low.reached with least | reached
  · rw [least] at above
    exact above (five_le_severity _)
  · exact high.last _ (by omega) (Int.le_trans reached le)

theorem exists_wholeAt (level : Level) : ∃ p, Binary64.ofInt level.severity = .wholeAt level.severity p := by
  cases level
  · exact ⟨50, by decide +kernel⟩
  · exact ⟨49, by decide +kernel⟩
  · exact ⟨48, by decide +kernel⟩
  · exact ⟨48, by decide +kernel⟩
  · exact ⟨47, by decide +kernel⟩
  · exact ⟨47, by decide +kernel⟩

/-- A real number that has a whole part falls on the level that the whole part falls on. -/
theorem ofSeverityValue_of_truncate? {x : Binary64} {n : Int} (cut : x.truncate? = some n) :
    ofSeverityValue (.scalar (.real x)) = .ok (ofSeverity n) := by
  obtain ⟨negative, m, e, rfl⟩ : ∃ negative m e, x = .finite negative m e := by
    cases x with
    | finite negative m e => exact ⟨negative, m, e, rfl⟩
    | infinite => cases cut
    | nan => cases cut
  have spec := isHighest_highest fun threshold =>
    Binary64.finite negative m e ≠ .nan && !(Binary64.finite negative m e).below (Binary64.ofInt threshold)
  have meets (level : Level) : (Binary64.finite negative m e ≠ .nan &&
      !(Binary64.finite negative m e).below (Binary64.ofInt level.severity)) = true ↔ (level.severity : Int) ≤ n := by
    obtain ⟨p, exact_⟩ := exists_wholeAt level
    have compare := Binary64.below_wholeAt (p := p) (show 0 < level.severity by cases level <;> decide) cut
    rw [exact_, Bool.and_eq_true, Bool.not_eq_true', ← Bool.not_eq_true, compare]
    simp
  refine congrArg Except.ok (ofSeverity_eq_iff.2 ?_).symm
  exact ⟨spec.reached.imp_right (meets _).1, fun higher above reached => spec.last higher above ((meets _).2 reached)⟩

/-! ## Requests -/

theorem ofNameValue_eq_ok {v : Value} {level : Level} :
    ofNameValue v = .ok level ↔ ∃ name, v = .ofText name ∧ IsNamed name level := by
  unfold ofNameValue
  split
  · next name =>
      rw [ofName_eq_ok]
      exact ⟨fun named => ⟨name, rfl, named⟩, fun ⟨_, same, named⟩ => by cases same; exact named⟩
  · next noText =>
      refine ⟨fun failed => (by cases failed), fun ⟨name, same, _⟩ => absurd same (noText name)⟩

/-- What a request asks for: a level, the level that a text names, or the one that a number falls on. -/
inductive Request.Asks : Request → Level → Prop where
  | level (level : Level) : Asks (.level level) level
  | name {name : Text} {level : Level} (named : IsNamed name level) : Asks (.value (.scalar (.text name))) level
  | number (n : Int) : Asks (.value (.scalar (.int n))) (ofSeverity n)
  | truth (b : Bool) : Asks (.value (.scalar (.bool b))) (ofSeverity (if b then 1 else 0))
  | real {x : Binary64} {n : Int} (cut : x.truncate? = some n) : Asks (.value (.scalar (.real x))) (ofSeverity n)

theorem ofRequest_eq_ok {request : Request} {level : Level} : ofRequest request = .ok level ↔ request.Asks level := by
  constructor
  · intro granted
    unfold ofRequest at granted
    split at granted
    · cases granted
      exact .level _
    · exact .name (ofName_eq_ok.1 granted)
    · cases granted
      exact .number _
    · cases granted
      exact .truth _
    · next x =>
        split at granted
        · cases granted
        · cases granted
        · next notNan finite =>
            cases x with
            | nan => exact absurd rfl notNan
            | infinite negative => exact absurd rfl (finite negative)
            | finite negative m e =>
                cases granted
                exact .real rfl
    · cases granted
  · rintro (⟨⟩ | ⟨named⟩ | ⟨⟩ | ⟨⟩ | @⟨x, n, cut⟩)
    · rfl
    · exact ofName_eq_ok.2 named
    · rfl
    · rfl
    · cases x with
      | nan => cases cut
      | infinite => cases cut
      | finite negative m e =>
          cases cut
          rfl


/-- What is taken for a name is granted as a request too. -/
theorem ofRequest_of_ofNameValue {v : Value} {level : Level} (named : ofNameValue v = .ok level) :
    ofRequest (.value v) = .ok level := by
  obtain ⟨name, rfl, isNamed⟩ := ofNameValue_eq_ok.1 named
  exact ofRequest_eq_ok.2 (.name isNamed)

end Level

end LogStyle
