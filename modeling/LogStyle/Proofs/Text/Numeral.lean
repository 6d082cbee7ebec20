import LogStyle.Text.Numeral
import Mathlib.Data.List.TakeWhile

/-! # Numerals that are written and read

What is written for a number is read as that number again, unless it is too long to be read. Of a text of
digits it can be told exactly whether it is read at all.
-/

namespace LogStyle

theorem isBasicDigit_char (c : Char) : isBasicDigit c = c.isDigit := rfl

theorem digitValue?_of_isBasicDigit {c : CodePoint} (digit : isBasicDigit c = true) :
    digitValue? c = some (c.toNat - '0'.toNat) := by
  have bounds : 0x30 ≤ c.toNat ∧ c.toNat < 0x3A := by
    simp only [isBasicDigit, Bool.and_eq_true, decide_eq_true_eq] at digit
    exact ⟨digit.1, Nat.lt_succ_of_le digit.2⟩
  simp [digitValue?, zeroCodes, bounds.1, bounds.2]

theorem of_isBasicDigit {c : CodePoint} (p : CodePoint → Prop) (all : ∀ n : Fin 10, p (.ofNat (0x30 + n)))
    (digit : isBasicDigit c = true) : p c := by
  have bounds : 0x30 ≤ c.toNat ∧ c.toNat < 0x3A := by
    simp only [isBasicDigit, Bool.and_eq_true, decide_eq_true_eq] at digit
    exact ⟨digit.1, Nat.lt_succ_of_le digit.2⟩
  have own := all ⟨c.toNat - 0x30, by omega⟩
  rw [Nat.add_sub_of_le bounds.1, CodePoint.ofNat_toNat] at own
  exact own

theorem isDecimal_of_isBasicDigit {c : CodePoint} (digit : isBasicDigit c = true) : isDecimal c = true := by
  simp [isDecimal, digitValue?_of_isBasicDigit digit]

namespace Text

theorem isBasicDigit_of_mem_ofNat {n : Nat} {c : CodePoint} (member : c ∈ ofNat n) : isBasicDigit c = true := by
  obtain ⟨d, own, rfl⟩ := List.mem_map.1 member
  exact (isBasicDigit_char d).trans (Nat.isDigit_of_mem_toDigits (by decide) (by decide) own)

theorem not_mem_ofNat {c : CodePoint} (notDigit : isBasicDigit c = false) (n : Nat) : c ∉ ofNat n := by
  intro member
  simp [isBasicDigit_of_mem_ofNat member] at notDigit

theorem not_mem_ofInt {c : CodePoint} (notDigit : isBasicDigit c = false) (notMinus : c ≠ '-') (n : Int) :
    c ∉ ofInt n := by
  cases n with
  | ofNat n => exact not_mem_ofNat notDigit n
  | negSucc n =>
      simp only [ofInt, List.mem_cons, not_or]
      exact ⟨notMinus, not_mem_ofNat notDigit _⟩

theorem ofNat_ne_nil (n : Nat) : ofNat n ≠ [] :=
  fun none => Nat.toDigits_ne_nil (List.map_eq_nil_iff.1 none)

theorem head?_ofNat_ne_zero {n : Nat} (positive : 0 < n) : (ofNat n).head? ≠ some (.char '0') := by
  induction n using Nat.strongRecOn with
  | ind n ih =>
      rw [ofNat, Nat.toDigits_eq_if (by decide)]
      split
      · next small =>
          have digits : ∀ d : Fin 10, 0 < d.val → CodePoint.char d.val.digitChar ≠ .char '0' := by decide
          simpa using digits ⟨n, small⟩ positive
      · next large =>
          have front :=
            ih (n / 10) (Nat.div_lt_self positive (by decide)) (Nat.div_pos (Nat.le_of_not_lt large) (by decide))
          obtain ⟨c, rest, first⟩ := List.exists_cons_of_ne_nil (ofNat_ne_nil (n / 10))
          rw [first] at front
          rw [List.map_append, show (Nat.toDigits 10 (n / 10)).map .char = c :: rest from first]
          exact front

theorem eq_nil_of_ofNat {n : Nat} {rest : Text} (spelled : ofNat n = .char '0' :: rest) : rest = [] := by
  rcases Nat.eq_zero_or_pos n with rfl | positive
  · cases spelled
    rfl
  · exact absurd (by rw [spelled]; rfl) (head?_ofNat_ne_zero positive)

theorem ofInt_ne_nil (n : Int) : ofInt n ≠ [] := by
  cases n with
  | ofNat n => exact ofNat_ne_nil n
  | negSucc n => exact List.cons_ne_nil _ _

end Text

namespace Numeral

theorem value_eq_ofDigitChars (digits : List Char) (basic : ∀ c ∈ digits, c.isDigit = true) (n : Nat) :
    (digits.map CodePoint.char).foldl (fun n c => 10 * n + (digitValue? c).getD 0) n =
      Nat.ofDigitChars 10 digits n := by
  induction digits generalizing n with
  | nil => rw [List.map_nil, List.foldl_nil, Nat.ofDigitChars_nil]
  | cons c rest ih =>
      have digit := (isBasicDigit_char c).trans (basic c List.mem_cons_self)
      rw [List.map_cons, List.foldl_cons, Nat.ofDigitChars_cons, digitValue?_of_isBasicDigit digit]
      exact ih (fun d member => basic d (List.mem_cons_of_mem _ member)) _

theorem value_ofNat (n : Nat) : value (Text.ofNat n) = n := by
  rw [value, Text.ofNat, value_eq_ofDigitChars _ fun _ => Nat.isDigit_of_mem_toDigits (by decide) (by decide)]
  exact Nat.ofDigitChars_ten_toDigits

theorem withSign_natAbs (n : Int) : withSign (decide (n < 0)) n.natAbs = n := by
  unfold withSign
  split
  · next negative => rw [Int.ofNat_natAbs_of_nonpos (Int.le_of_lt (of_decide_eq_true negative)), Int.neg_neg]
  · next positive => rw [Int.natAbs_of_nonneg (Int.not_lt.1 (by simpa using positive))]

theorem isLong_natAbs (n : Int) : isLong (n.natAbs : Int) = isLong n := by
  rw [isLong, isLong, Int.natAbs_natCast]

theorem isLong_of_le {m n : Nat} (le : m ≤ n) (short : isLong n = false) : isLong m = false := by
  unfold isLong at short ⊢
  generalize Nat.pow 10 digitLimit = bound at short ⊢
  simp only [Int.natAbs_natCast, decide_eq_false_iff_not, Nat.not_le] at short ⊢
  omega

theorem length_ofNat_le {n : Nat} (short : isLong n = false) : (Text.ofNat n).length ≤ digitLimit := by
  unfold isLong at short
  have positive : 0 < digitLimit := by decide
  -- As a variable the limit keeps the power of ten from being computed.
  generalize digitLimit = limit at short positive ⊢
  rw [Text.ofNat, List.length_map, Nat.length_toDigits_le_iff (by decide) positive]
  exact Nat.lt_of_not_le (of_decide_eq_false short)

/-- A text that is no row of decimal digits, or has too many of them, is not read as a number. -/
def Unreadable (t : Text) : Prop :=
  (∃ c ∈ t, isDecimal c = false) ∨ digitLimit < t.length

instance (t : Text) : Decidable (Unreadable t) :=
  decidable_of_iff (¬ t.all isDecimal ∨ digitLimit < t.length) (by simp [Unreadable])

theorem readNat_of_not_unreadable {t : Text} (readable : ¬ Unreadable t) (some : t ≠ []) :
    readNat t = .ok (value t) := by
  simp only [Unreadable, not_or, not_exists, not_and, Bool.not_eq_false, Nat.not_lt] at readable
  have whole : t.takeWhile isDecimal = t := List.takeWhile_eq_self_iff.2 readable.1
  simp only [readNat, whole, if_neg (Nat.not_lt.2 readable.2), true_and, if_pos some]

theorem readNat_of_unreadable {t : Text} (unreadable : Unreadable t) :
    ∃ fault, readNat t = .error fault := by
  by_cases long : digitLimit < (t.takeWhile isDecimal).length
  · exact ⟨.tooLong (t.takeWhile isDecimal).length, by simp only [readNat, if_pos long]⟩
  · have part : t.takeWhile isDecimal ≠ t := by
      intro whole
      rcases unreadable with ⟨c, member, other⟩ | tooLong
      · rw [List.takeWhile_eq_self_iff.1 whole c member] at other
        simp at other
      · rw [whole] at long
        exact long tooLong
    exact ⟨.notNumeral 10 t, by simp only [readNat, if_neg long, part, false_and, if_false]⟩

theorem not_unreadable_ofNat {n : Nat} (short : isLong n = false) : ¬ Unreadable (Text.ofNat n) := by
  rintro (⟨c, member, other⟩ | long)
  · rw [isDecimal_of_isBasicDigit (Text.isBasicDigit_of_mem_ofNat member)] at other
    simp at other
  · exact Nat.not_lt.2 (length_ofNat_le short) long

end Numeral

end LogStyle
