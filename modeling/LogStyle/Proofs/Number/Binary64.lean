import LogStyle.Number.Binary64
import Mathlib.Algebra.Order.Ring.Int
import Mathlib.Tactic.Ring

/-! # Comparing numbers with whole ones

A number is below a positive whole number exactly when its whole part is, so that cutting a number off and
comparing it come to the same.
-/

namespace LogStyle

namespace Binary64

/-- A positive number of some binary digits after the point. -/
def wholeAt (n p : Nat) : Binary64 :=
  .finite false (n * 2 ^ p) (-p)

theorem mul_pow_lt_iff {m n k : Nat} : m * 2 ^ k < n * 2 ^ k ↔ m < n :=
  Nat.mul_lt_mul_right (Nat.two_pow_pos k)

theorem below_wholeAt {negative : Bool} {m : Nat} {e : Int} {n p : Nat} (positive : 0 < n) {whole : Int}
    (cut : truncate? (.finite negative m e) = some whole) :
    below (.finite negative m e) (wholeAt n p) = true ↔ whole < n := by
  have right (k : Nat) : 0 < n * 2 ^ p * 2 ^ k :=
    Nat.mul_pos (Nat.mul_pos positive (Nat.two_pow_pos p)) (Nat.two_pow_pos k)
  simp only [truncate?, Option.some.injEq] at cut
  simp only [below, wholeAt, decide_eq_true_eq, if_false, Bool.false_eq_true, Nat.pow_eq]
  cases negative with
  | true =>
      have low : whole ≤ 0 := by
        rw [← cut, if_pos rfl, neg_nonpos]
        exact Int.natCast_nonneg _
      have positive' := right (-(p : Int) - min e (-p)).toNat
      constructor
      · intro _
        omega
      · intro _
        simp only [if_true]
        omega
  | false =>
      simp only [Bool.false_eq_true, if_false] at cut ⊢
      rw [← cut, Int.ofNat_lt, Int.ofNat_lt]
      cases e with
      | ofNat k =>
          have least : min (Int.ofNat k) (-(p : Int)) = -p := by simp only [Int.ofNat_eq_natCast]; omega
          have up : (Int.ofNat k - -(p : Int)).toNat = k + p := by simp only [Int.ofNat_eq_natCast]; omega
          rw [least, up]
          simp only [scaled, Nat.pow_eq, Nat.div_one, sub_self, Int.toNat_zero, pow_zero, mul_one]
          rw [pow_add, ← mul_assoc, mul_pow_lt_iff]
      | negSucc k =>
          simp only [scaled, Nat.pow_eq, one_mul]
          rw [Nat.div_lt_iff_lt_mul (Nat.two_pow_pos _)]
          rcases Nat.le_total p (k + 1) with short | long
          · obtain ⟨more, same⟩ := Nat.exists_eq_add_of_le short
            have least : min (Int.negSucc k) (-(p : Int)) = Int.negSucc k := by omega
            have up : (-(p : Int) - Int.negSucc k).toNat = more := by omega
            rw [least, up, same, pow_add, ← mul_assoc]
            simp
          · obtain ⟨more, same⟩ := Nat.exists_eq_add_of_le long
            have least : min (Int.negSucc k) (-(p : Int)) = -p := by omega
            have up : (Int.negSucc k - -(p : Int)).toNat = more := by omega
            rw [least, up, same, pow_add, ← mul_assoc, sub_self]
            simp only [Int.toNat_zero, pow_zero, mul_one]
            rw [mul_pow_lt_iff]

end Binary64

end LogStyle
