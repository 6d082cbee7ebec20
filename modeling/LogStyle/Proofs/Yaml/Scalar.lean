import LogStyle.Proofs.Template.Split
import LogStyle.Proofs.Text.Numeral
import LogStyle.Yaml.Scalar

/-! # Plain scalars that are written and read

An integer that is written out has the form of an integer and is read as the number it was. What has the form of a
truth value always is one.
-/

namespace LogStyle

theorem dropWhile_of_all {p : CodePoint → Bool} {t : Text} (stays : ∀ c ∈ t, p c = false) : t.dropWhile p = t :=
  List.dropWhile_eq_self_iff.2 fun inside => by simp [stays _ (List.getElem_mem inside)]

namespace Numeral

variable {n : Nat} {c : CodePoint}

theorem bare_ofNat (n : Nat) : bare (Text.ofNat n) = Text.ofNat n := by
  have digits : ∀ c ∈ Text.ofNat n, isBasicDigit c = true := fun c => Text.isBasicDigit_of_mem_ofNat
  have basics : basic (Text.ofNat n) = Text.ofNat n := by
    refine (List.map_congr_left fun c member => ?_).trans (List.map_id _)
    exact if_pos (of_isBasicDigit (fun c => Literal.isBasic c = true) (by decide) (digits c member))
  have inside : ∀ c ∈ Text.ofNat n, isMargin c = false := fun c member =>
    of_isBasicDigit (fun c => isMargin c = false) (by decide) (digits c member)
  rw [bare, basics, dropWhile_of_all inside, dropWhile_of_all fun c member => inside c (List.mem_reverse.1 member),
    List.reverse_reverse]

theorem digitsValue_ofNat (n : Nat) : Literal.digitsValue 10 (Text.ofNat n) = n := by
  have same : ∀ digits : Text, (∀ c ∈ digits, isBasicDigit c = true) → ∀ start,
      digits.foldl (fun n c => 10 * n + (Literal.hexValue? c).getD 0) start =
        digits.foldl (fun n c => 10 * n + (digitValue? c).getD 0) start := by
    intro digits basic
    induction digits with
    | nil => exact fun _ => rfl
    | cons c rest ih =>
        intro start
        have own : Literal.hexValue? c = digitValue? c :=
          of_isBasicDigit (fun c => Literal.hexValue? c = digitValue? c) (by decide) (basic c List.mem_cons_self)
        rw [List.foldl_cons, List.foldl_cons, own]
        exact ih (fun d member => basic d (List.mem_cons_of_mem _ member)) _
  exact (same _ (fun c => Text.isBasicDigit_of_mem_ofNat) 0).trans (value_ofNat n)

theorem signOf_ofNat (n : Nat) : signOf (Text.ofNat n) = (false, Text.ofNat n) := by
  have digits : ∀ c ∈ Text.ofNat n, isBasicDigit c = true := fun c => Text.isBasicDigit_of_mem_ofNat
  unfold signOf
  split
  · next first => cases digits (.char '-') (by rw [first]; exact List.mem_cons_self)
  · next first => cases digits (.char '+') (by rw [first]; exact List.mem_cons_self)
  · rfl

theorem signOf_ofInt (n : Int) : signOf (Text.ofInt n) = (decide (n < 0), Text.ofNat n.natAbs) := by
  cases n with
  | ofNat n =>
      have positive : ¬ Int.ofNat n < 0 := Int.not_lt.2 (Int.natCast_nonneg n)
      rw [decide_eq_false positive]
      exact signOf_ofNat n
  | negSucc n =>
      rw [decide_eq_true (Int.negSucc_lt_zero n)]
      rfl

theorem read_ofNat (short : isLong n = false) : read 10 (Text.ofNat n) = .ok n := by
  have digits : ∀ c ∈ Text.ofNat n, isBasicDigit c = true := fun c => Text.isBasicDigit_of_mem_ofNat
  have unmarked : withoutMark 10 (Text.ofNat n) = Text.ofNat n := by
    unfold withoutMark
    split
    · next first => rw [first]; rfl
    · rfl
  have run : (Text.ofNat n).takeWhile (isDigitOf 10) = Text.ofNat n := List.takeWhile_eq_self_iff.2 fun c member =>
    of_isBasicDigit (fun c => isDigitOf 10 c = true) (by decide) (digits c member)
  simp [read, bare_ofNat, signOf_ofNat, unmarked, run, Nat.not_lt.2 (length_ofNat_le short), Text.ofNat_ne_nil,
    digitsValue_ofNat, withSign]

end Numeral

namespace Yaml

namespace Tag

theorem unsigned_eq (t : Text) : unsigned t = (Numeral.signOf t).2 := by
  unfold unsigned Numeral.signOf
  split
  · rfl
  · rfl
  · next plus minus =>
      split
      · next rest => exact absurd rfl (minus rest)
      · next rest => exact absurd rfl (plus rest)
      · rfl

theorem isInt_of_unsigned {n : Nat} {t : Text} (spelled : unsigned t = Text.ofNat n) : isInt t = true := by
  have digits : ∀ c ∈ Text.ofNat n, isBasicDigit c = true := fun c => Text.isBasicDigit_of_mem_ofNat
  unfold isInt
  rw [spelled]
  split
  · next first => cases digits (.char 'b') (by rw [first]; simp)
  · next first => cases digits (.char 'x') (by rw [first]; simp)
  · rfl
  · next rest _ _ single first => exact absurd (Text.eq_nil_of_ofNat first) single
  · next c rest _ _ _ _ first =>
      have whole : Text.cut ':' (c :: rest) = (c :: rest, []) := by
        rw [Text.cut, Text.cut?_eq_none.2 (by rw [← first]; exact Text.not_mem_ofNat (by decide) n)]
        rfl
      rw [first] at digits
      have all : rest.all isSpacedDigit = true := List.all_eq_true.2 fun d member => by
        rw [isSpacedDigit, digits d (List.mem_cons_of_mem _ member)]
        rfl
      simp [whole, isDigits, digits c List.mem_cons_self, all]
  · next first => exact absurd first (Text.ofNat_ne_nil n)

/-- An integer that is written out has the form of one. -/
theorem ofPlain_ofInt (n : Int) : ofPlain (Text.ofInt n) = .int := by
  have absent {c : CodePoint} (other : isBasicDigit c = false ∧ c ≠ '-') : c ∉ Text.ofInt n :=
    Text.not_mem_ofInt other.1 other.2 n
  have line : (Text.ofInt n).getLast? ≠ some (.char '\n') := fun last =>
    absent (by decide) (List.mem_of_getLast? last)
  have words : Text.ofInt n ∉ truthWords := by
    have letters : ∀ w ∈ truthWords, ∃ c ∈ w, isBasicDigit c = false ∧ c ≠ '-' := by decide
    intro member
    obtain ⟨c, within, other⟩ := letters _ member
    exact absent other within
  have real : isReal (Text.ofInt n) = false := by
    rw [isReal, Text.cut?_eq_none.2 (absent (by decide))]
  have spelled : unsigned (Text.ofInt n) = Text.ofNat n.natAbs := by
    rw [unsigned_eq, Numeral.signOf_ofInt]
  simp [ofPlain, beforeLineEnd, line, ofForm, words, real, isInt_of_unsigned spelled]

end Tag

namespace Scalar

/-- An integer that is written out is read again. -/
theorem readInt_ofInt {n : Int} (short : Numeral.isLong n = false) : readInt (Text.ofInt n) = .ok n := by
  have bare : (Text.ofInt n).filter (· ≠ .char '_') = Text.ofInt n := by
    refine List.filter_eq_self.2 fun c member => decide_eq_true ?_
    rintro rfl
    exact Text.not_mem_ofInt (by decide) (by decide) n member
  have signed := Numeral.withSign_natAbs n
  have digits : ∀ c ∈ Text.ofNat n.natAbs, isBasicDigit c = true := fun c => Text.isBasicDigit_of_mem_ofNat
  have size := Numeral.read_ofNat ((Numeral.isLong_natAbs n).trans short)
  have base : readBase 10 (Text.ofNat n.natAbs) = .ok (n.natAbs : Int) := by rw [readBase, size]
  unfold readInt
  rw [bare]
  split
  · next none => exact absurd none (Text.ofInt_ne_nil n)
  · simp only [Numeral.signOf_ofInt]
    split
    · next none => exact absurd none (Text.ofNat_ne_nil _)
    · next first =>
        have zero : n.natAbs = 0 := by
          rw [← Numeral.value_ofNat n.natAbs, first]
          rfl
        rw [zero] at signed
        exact congrArg Except.ok signed
    · next first => cases digits (.char 'b') (by rw [first]; simp)
    · next first => cases digits (.char 'x') (by rw [first]; simp)
    · next rest single _ _ first => exact absurd (Text.eq_nil_of_ofNat first) single
    · have plain : (Text.ofNat n.natAbs).contains (.char ':') = false := by
        simpa using Text.not_mem_ofNat (c := .char ':') (by decide) n.natAbs
      simp only [plain, Bool.false_eq_true, if_false, base]
      exact congrArg Except.ok signed

/-- What has the form of a truth value is read as one. -/
theorem exists_readBool {t : Text} (form : Tag.ofForm t = .bool) : ∃ b, readBool t = .ok b := by
  have words : ∀ w ∈ Tag.truthWords, (readBool w).isOk = true := by decide
  have member : t ∈ Tag.truthWords := by
    unfold Tag.ofForm at form
    split at form
    · next word => simpa using word
    · repeat' split at form
      all_goals cases form
  have read := words t member
  cases result : readBool t with
  | ok b => exact ⟨b, rfl⟩
  | error trouble =>
      rw [result] at read
      cases read

end Scalar

end Yaml

end LogStyle
