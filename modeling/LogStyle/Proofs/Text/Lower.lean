import LogStyle.Text.Case

/-! # Lower case is final

What lower-casing writes is left alone when it is lower-cased again. For the characters that move by runs
this is a fact about the table: no run moves a character to where another run starts from.
-/

namespace LogStyle

namespace CaseRun

/-- All code points that lower-casing does not leave alone: those that move by runs, the one that becomes
    several characters, and the capital sigma, which depends on its place. -/
def lowered : List CaseRun :=
  ⟨0x130, 0x130, 1, 0⟩ :: ⟨0x3A3, 0x3A3, 1, 0⟩ :: lowerRuns

/-- Whether a run moves none of the code points from `a` to `b` in steps of `step`. The answer may err on the
    side of no. -/
def misses (a b step : Nat) (r : CaseRun) : Bool :=
  Nat.blt b r.first || Nat.blt r.last a ||
    ((Nat.beq step 2 || Nat.beq a b) && Nat.beq r.step 2 && Nat.beq ((a + r.first) % 2) 1)

/-- Whether no run moves what another run has moved. -/
def settles (r : CaseRun) : Bool :=
  (fun a b => lowered.all (misses a b r.step)) (r.first + r.shift).toNat (r.last + r.shift).toNat

theorem settles_lowerRuns : lowerRuns.all settles = true := by decide +kernel

theorem shift_lowerRuns : ∀ r ∈ lowerRuns, 0 ≤ r.first + r.shift ∧ 0 < r.step ∧ r.step ≤ 2 := by decide +kernel

theorem covers_iff {r : CaseRun} {n : Nat} :
    r.covers n = true ↔ r.first ≤ n ∧ n ≤ r.last ∧ (n - r.first) % r.step = 0 := by
  simp [covers, and_assoc]

theorem covers_single {k n : Nat} {shift : Int} (covered : covers ⟨k, k, 1, shift⟩ n = true) : n = k := by
  obtain ⟨first, last, -⟩ := covers_iff.1 covered
  exact Nat.le_antisymm last first

theorem not_covers_of_misses {a b step n : Nat} {r : CaseRun} (missed : misses a b step r = true)
    (low : a ≤ n) (high : n ≤ b) (place : step = 2 → (n - a) % 2 = 0) : r.covers n = false := by
  rw [Bool.eq_false_iff]
  intro covered
  obtain ⟨first, last, apart⟩ := covers_iff.1 covered
  simp only [misses, Bool.or_eq_true, Bool.and_eq_true, Nat.blt_eq, Nat.beq_eq] at missed
  rcases missed with (below | above) | ⟨⟨even, two⟩, odd⟩
  · omega
  · omega
  · rw [two] at apart
    rcases even with even | same
    · have := place even
      omega
    · omega

end CaseRun

/-- A character that lower-casing leaves alone wherever it stands. -/
def IsLowered (c : CodePoint) : Prop :=
  ∀ r ∈ CaseRun.lowered, r.covers c.toNat = false

instance (c : CodePoint) : Decidable (IsLowered c) :=
  inferInstanceAs (Decidable (∀ r ∈ CaseRun.lowered, _))

theorem isLowered_ofNat {n : Nat} (missed : ∀ r ∈ CaseRun.lowered, r.covers n = false) :
    IsLowered (CodePoint.ofNat n) := by
  rcases CodePoint.toNat_ofNat n with code | null
  · rwa [IsLowered, code]
  · rw [null]
    decide +kernel

theorem isLowered_shift {r : CaseRun} (run : r ∈ lowerRuns) {n : Nat} (covered : r.covers n = true) :
    IsLowered (CodePoint.ofNat (n + r.shift).toNat) := by
  obtain ⟨first, last, apart⟩ := CaseRun.covers_iff.1 covered
  obtain ⟨inside, -, -⟩ := CaseRun.shift_lowerRuns r run
  have settled := List.all_eq_true.1 CaseRun.settles_lowerRuns r run
  refine isLowered_ofNat fun q member => ?_
  refine CaseRun.not_covers_of_misses (List.all_eq_true.1 settled q member) (by omega) (by omega) ?_
  intro two
  rw [two] at apart
  omega

theorem isLowered_of_mem_caseMap {c d : CodePoint} (notSigma : c ≠ 'Σ')
    (written : d ∈ caseMap lowerRuns lowerExpansions c) : IsLowered d := by
  have expanded : ∀ e ∈ lowerExpansions, ∀ n ∈ e.2, IsLowered (CodePoint.ofNat n) := by decide +kernel
  unfold caseMap at written
  split at written
  · next codes found =>
      obtain ⟨n, member, rfl⟩ := List.mem_map.1 written
      obtain ⟨before, after, table, -⟩ := List.lookup_eq_some_iff.1 found
      refine expanded (c.toNat, codes) ?_ n member
      rw [table]
      exact List.mem_append_right _ List.mem_cons_self
  · next missing =>
      rw [List.mem_singleton.1 written, CaseRun.move]
      split
      · next r found =>
          exact isLowered_shift (List.mem_of_find?_eq_some found) (by simpa using List.find?_some found)
      · next alone =>
          intro r member
          rw [Bool.eq_false_iff]
          intro covered
          rcases List.mem_cons.1 member with rfl | member
          · have code := CaseRun.covers_single covered
            simp [lowerExpansions, code] at missing
          rcases List.mem_cons.1 member with rfl | member
          · have code : c.toNat = (CodePoint.char 'Σ').toNat := CaseRun.covers_single covered
            exact notSigma (CodePoint.toNat_injective code)
          · exact absurd covered (by simpa using List.find?_eq_none.1 alone r member)

namespace Text

theorem isLowered_of_mem_lowerAfter {passed t : Text} {d : CodePoint} (written : d ∈ lowerAfter passed t) :
    IsLowered d := by
  induction t generalizing passed with
  | nil => simp [lowerAfter] at written
  | cons c rest ih =>
      simp only [lowerAfter, List.mem_append] at written
      rcases written with here | later
      · split at here
        · split at here
          · rw [List.mem_singleton.1 here]
            decide +kernel
          · rw [List.mem_singleton.1 here]
            decide +kernel
        · next other => exact isLowered_of_mem_caseMap other here
      · exact ih later

theorem caseMap_of_isLowered {c : CodePoint} (lowered : IsLowered c) :
    caseMap lowerRuns lowerExpansions c = [c] := by
  have missing : lowerExpansions.lookup c.toNat = none := by
    have other : c.toNat ≠ 0x130 := by
      intro code
      have covered := lowered _ List.mem_cons_self
      rw [code] at covered
      exact absurd covered (by decide)
    simp [lowerExpansions, other]
  have alone : lowerRuns.find? (·.covers c.toNat) = none := by
    rw [List.find?_eq_none]
    intro r member
    simp [lowered r (List.mem_cons_of_mem _ (List.mem_cons_of_mem _ member))]
  rw [caseMap, missing]
  simp only [CaseRun.move, alone]

theorem lowerAfter_of_isLowered {t : Text} (lowered : ∀ c ∈ t, IsLowered c) (passed : Text) :
    lowerAfter passed t = t := by
  induction t generalizing passed with
  | nil => rfl
  | cons c rest ih =>
      have here := lowered c List.mem_cons_self
      have notSigma : c ≠ 'Σ' := by
        rintro rfl
        exact absurd here (by decide)
      rw [lowerAfter, if_neg notSigma, caseMap_of_isLowered here,
        ih fun d member => lowered d (List.mem_cons_of_mem _ member)]
      rfl

theorem lower_lower (t : Text) : t.lower.lower = t.lower :=
  lowerAfter_of_isLowered (fun _ => isLowered_of_mem_lowerAfter) []

end Text

end LogStyle
