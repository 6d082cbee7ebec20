import LogStyle.Host.Spec
import LogStyle.Outcome
import LogStyle.Proofs.Text.Numeral

/-! # What a layout gives

A value that is laid out is never narrower than its column, nothing of it is lost to the padding, and the
separators between its digits can be taken out again.
-/

namespace LogStyle

namespace Spec

variable {s : Spec}

theorem length_pad (s : Spec) (side : Align) (t : Text) : (s.pad side t).length = max s.width t.length := by
  have whole : ∀ n m left : Nat, left ≤ n - m → left + m + (n - m - left) = max n m := by
    intro n m left inside
    rcases Nat.le_total n m with le | le
    · rw [Nat.max_eq_right le]
      omega
    · rw [Nat.max_eq_left le]
      omega
  simp only [pad, List.length_append, List.length_replicate]
  refine whole _ _ _ ?_
  split
  · exact Nat.zero_le _
  · exact Nat.le_refl _
  · exact Nat.le_refl _
  · exact Nat.div_le_self _ _

theorem infix_pad (s : Spec) (side : Align) (t : Text) : t <:+: s.pad side t :=
  ⟨_, _, rfl⟩

theorem pad_left {t : Text} (free : s.align = none) :
    s.pad .left t = t ++ List.replicate (s.width - t.length) s.fill := by
  simp [pad, free]

theorem pad_right {t : Text} (free : s.align = none) :
    s.pad .right t = List.replicate (s.width - t.length) s.fill ++ t := by
  simp [pad, free]

/-! ## Groups of digits -/

section
variable (separator : CodePoint) (size width : Nat)

theorem grouped_go_filter {fuel : Nat} (count : Nat) {reversed : Text} (written : Text) (enough : reversed.length ≤ fuel)
    (apart : ∀ c ∈ reversed, c ≠ separator) (zero : separator ≠ '0') :
    ∃ zeros, (grouped.go separator size width fuel count reversed written).filter (· ≠ separator) =
      List.replicate zeros (.char '0') ++ reversed.reverse ++ written.filter (· ≠ separator) := by
  induction fuel generalizing count reversed written with
  | zero =>
      obtain rfl := List.length_eq_zero_iff.1 (Nat.le_zero.1 enough)
      exact ⟨0, rfl⟩
  | succ fuel ih =>
      simp only [grouped.go]
      split
      · next done =>
          obtain rfl : reversed = [] := by
            by_contra some
            simp [some] at done
          exact ⟨0, rfl⟩
      · obtain _ | ⟨c, rest⟩ := reversed
        · -- A zero is put in front, perhaps before a separator.
          have step : ∀ count written, ∃ zeros,
              (grouped.go separator size width fuel count [] ('0' :: written)).filter (· ≠ separator) =
                List.replicate zeros (.char '0') ++ ([] : Text).reverse ++ written.filter (· ≠ separator) := by
            intro count written
            obtain ⟨zeros, all⟩ := ih count ('0' :: written) (Nat.zero_le _)
              (fun _ member => absurd member List.not_mem_nil)
            refine ⟨zeros + 1, ?_⟩
            rw [all, List.replicate_succ']
            simp [zero.symm]
          split
          · obtain ⟨zeros, all⟩ := step 1 (separator :: written)
            exact ⟨zeros, by simpa using all⟩
          · exact step (count + 1) written
        · have own : c ≠ separator := apart c List.mem_cons_self
          have step : ∀ count written, ∃ zeros,
              (grouped.go separator size width fuel count rest (c :: written)).filter (· ≠ separator) =
                List.replicate zeros (.char '0') ++ (c :: rest).reverse ++ written.filter (· ≠ separator) := by
            intro count written
            obtain ⟨zeros, all⟩ := ih count (c :: written) (Nat.le_of_succ_le_succ enough)
              (fun d member => apart d (List.mem_cons_of_mem _ member))
            refine ⟨zeros, ?_⟩
            rw [all]
            simp [own]
          split
          · obtain ⟨zeros, all⟩ := step 1 (separator :: written)
            exact ⟨zeros, by simpa using all⟩
          · exact step (count + 1) written

theorem grouped_go_wide {fuel count : Nat} {reversed written : Text} (enough : width - written.length ≤ fuel) :
    width ≤ (grouped.go separator size width fuel count reversed written).length := by
  induction fuel generalizing count reversed written with
  | zero => exact Nat.le_of_sub_eq_zero (Nat.le_zero.1 enough)
  | succ fuel ih =>
      simp only [grouped.go]
      split
      · next done =>
          have wide : ¬ written.length < width := fun narrow => by simp [narrow] at done
          exact Nat.le_of_not_lt wide
      · split
        · exact ih (by simp only [List.length_cons]; omega)
        · exact ih (by simp only [List.length_cons]; omega)

/-- Without their separators grouped digits are the digits again, with zeros in front. -/
theorem grouped_filter {digits : Text} (apart : ∀ c ∈ digits, c ≠ separator) (zero : separator ≠ '0') :
    ∃ zeros, (grouped separator size width digits).filter (· ≠ separator) =
      List.replicate zeros (.char '0') ++ digits := by
  have enough : digits.reverse.length ≤ digits.length + width + 1 := by
    rw [List.length_reverse]
    omega
  obtain ⟨zeros, all⟩ := grouped_go_filter separator size width 0 [] enough
    (fun c member => apart c (List.mem_reverse.1 member)) zero
  exact ⟨zeros, by simpa [grouped] using all⟩

theorem width_le_grouped (digits : Text) : width ≤ (grouped separator size width digits).length :=
  grouped_go_wide separator size width (by rw [List.length_nil]; omega)

end

/-! ## Widths -/

theorem width_le_pad (side : Align) (t : Text) : s.width ≤ (s.pad side t).length := by
  rw [length_pad]
  exact Nat.le_max_left _ _

theorem width_le_layNumber (size : Nat) (p : Parts) : s.width ≤ (s.layNumber size p).length := by
  rw [layNumber]
  split
  · simp only [List.length_append, List.length_replicate]
    omega
  · exact width_le_pad _ _

section
variable {t u typeName : Text} {n : Int} {x : Binary64}

theorem width_le_of_layText (laid : s.layText t = .ok u) : s.width ≤ u.length := by
  have lay : layText.lay s t = .ok u → s.width ≤ u.length := by
    intro laid
    rw [layText.lay] at laid
    repeat' split at laid
    all_goals cases laid
    all_goals exact width_le_pad _ _
  rw [layText] at laid
  split at laid
  · split at laid
    · exact lay laid
    · cases laid
  · exact lay laid

theorem width_le_of_layChar (laid : s.layChar n = .ok u) : s.width ≤ u.length := by
  rw [layChar] at laid
  repeat' split at laid
  all_goals cases laid
  exact width_le_layNumber _ _

theorem width_le_of_layReal (laid : s.layReal typeName x = .ok u) : s.width ≤ u.length := by
  unfold layReal at laid
  extract_lets known capital percent number parts at laid
  split at laid
  · cases laid
  · split at laid
    · cases laid
    · cases laid
      exact width_le_layNumber _ _

theorem width_le_of_layInt (laid : s.layInt typeName n = .ok u) : s.width ≤ u.length := by
  have whole : ∀ lay : Except Fault Text, (∀ u, lay = .ok u → s.width ≤ u.length) →
      (if s.precision.isSome then fail "Precision not allowed in integer format specifier"
        else if s.plainZero then fail "Negative zero coercion (z) not allowed in integer format specifier"
        else lay) = .ok u → s.width ≤ u.length := by
    intro lay wide laid
    split at laid
    · cases laid
    · split at laid
      · cases laid
      · exact wide u laid
  have base : ∀ b mark capital u, Except.ok (s.layBase b mark capital n) = (.ok u : Except Fault Text) →
      s.width ≤ u.length := by
    rintro b mark capital _ ⟨⟩
    exact width_le_layNumber _ _
  simp only [layInt] at laid
  split at laid
  all_goals first
    | exact whole _ (base _ _ _) laid
    | skip
  · exact whole _ (fun _ => width_le_of_layChar) laid
  · split at laid
    · split at laid
      · cases laid
      · exact width_le_of_layReal laid
    · cases laid

theorem laidOut_eq_ok {number : Bool} {lay : Spec → Except Fault Text}
    (laid : laidOut typeName number t lay = .ok u) :
    ∃ s, read typeName number t = .ok s ∧ s.width ≤ widest ∧ lay s = .ok u := by
  obtain ⟨s, reads, laid⟩ := Outcome.bind_eq_ok.1 laid
  refine ⟨s, reads, ?_⟩
  split at laid
  · obtain ⟨_, _, thrown⟩ := Outcome.bind_eq_ok.1 laid
    exact absurd thrown Outcome.throw_ne_ok
  · next fits => exact ⟨Nat.le_of_not_lt fits, laid⟩

end

/-! ## Layouts that are only widths -/

theorem align?_of_isBasicDigit {c : CodePoint} (digit : isBasicDigit c = true) : align? c = none := by
  unfold align?
  split
  · cases digit
  · cases digit
  · cases digit
  · cases digit
  · rfl

theorem readAlign_of_digits {t : Text} (digits : ∀ c ∈ t, isBasicDigit c = true) :
    readAlign t = (none, none, t) := by
  obtain _ | ⟨c, _ | ⟨d, rest⟩⟩ := t
  · rfl
  · simp [readAlign, align?_of_isBasicDigit (digits c (by simp))]
  · simp [readAlign, align?_of_isBasicDigit (digits c (by simp)), align?_of_isBasicDigit (digits d (by simp))]

theorem readOne_of_head? {chars t : Text} (other : ∀ c ∈ t.head?, c ∉ chars) : readOne chars t = (none, t) := by
  cases t with
  | nil => rfl
  | cons c rest =>
      have free : c ∉ chars := other c rfl
      simp [readOne, free]

theorem number?_ofNat {w : Nat} (fits : w ≤ numberLimit) : number? (Text.ofNat w) = .ok (some w, []) := by
  have all : ∀ c ∈ Text.ofNat w, isDecimal c = true := fun c member =>
    isDecimal_of_isBasicDigit (Text.isBasicDigit_of_mem_ofNat member)
  have whole : (Text.ofNat w).takeWhile isDecimal = Text.ofNat w := List.takeWhile_eq_self_iff.2 all
  have rest : (Text.ofNat w).dropWhile isDecimal = [] := List.dropWhile_eq_nil_iff.2 all
  simp only [number?, whole, rest, Text.ofNat_ne_nil, if_false, Numeral.value_ofNat, if_neg (Nat.not_lt.2 fits)]

theorem read_ofNat {w : Nat} (positive : 0 < w) (fits : w ≤ numberLimit) (typeName : Text) (number : Bool) :
    read typeName number (Text.ofNat w) =
      .ok { width := w, type := if number then none else some (.char 's') } := by
  have digits : ∀ c ∈ Text.ofNat w, isBasicDigit c = true := fun c => Text.isBasicDigit_of_mem_ofNat
  have skips : ∀ {chars : Text}, (∀ c ∈ chars, isBasicDigit c = false) →
      readOne chars (Text.ofNat w) = (none, Text.ofNat w) := by
    intro chars free
    refine readOne_of_head? fun c head member => ?_
    have other := free c member
    rw [digits c (List.mem_of_mem_head? head)] at other
    cases other
  have sign : readOne [.char ' ', .char '+', .char '-'] (Text.ofNat w) = (none, Text.ofNat w) := skips (by decide)
  have plain : readOne [.char 'z'] (Text.ofNat w) = (none, Text.ofNat w) := skips (by decide)
  have hash : readOne [.char '#'] (Text.ofNat w) = (none, Text.ofNat w) := skips (by decide)
  have zero : readOne [.char '0'] (Text.ofNat w) = (none, Text.ofNat w) :=
    readOne_of_head? fun c head member => Text.head?_ofNat_ne_zero positive (by
      rw [← List.mem_singleton.1 member]
      exact head)
  simp only [read, readAlign_of_digits digits, sign, plain, hash, zero, number?_ofNat fits, Option.isNone_none, if_true,
    Option.isSome_none, Bool.false_and, Bool.false_eq_true, if_false]
  cases number <;> rfl

theorem laidOut_ofNat {w : Nat} (positive : 0 < w) (fits : w ≤ widest) (typeName : Text) (number : Bool)
    (lay : Spec → Except Fault Text) :
    laidOut typeName number (Text.ofNat w) lay =
      lay { width := w, type := if number then none else some (.char 's') } := by
  have small : w ≤ numberLimit := Nat.le_trans fits (by decide)
  rw [laidOut, read_ofNat positive small]
  exact if_neg (Nat.not_lt.2 fits)

theorem layBase_ten (w : Nat) (n : Int) :
    layBase { width := w } 10 [] false n = pad { width := w } .right (Text.ofInt n) := by
  cases n with
  | ofNat n =>
      have plain : ¬ (n : Int) < 0 := Int.not_lt.2 (Int.natCast_nonneg n)
      simp [layBase, layNumber, Text.ofInt, Text.ofNat, plain]
  | negSucc n => simp [layBase, layNumber, Text.ofInt, Text.ofNat, Int.negSucc_lt_zero]

end Spec

section
variable {w : Nat} (positive : 0 < w) (fits : w ≤ Spec.widest)
include positive fits

/-- A text is pushed to the left of its column. -/
theorem Value.layout_ofText_ofNat (t : Text) :
    (Value.ofText t).layout (Text.ofNat w) = .ok (t ++ List.replicate (w - t.length) (.char ' ')) := by
  unfold layout
  rw [if_neg (Text.ofNat_ne_nil w)]
  show Spec.laidOut _ _ _ _ = _
  rw [Spec.laidOut_ofNat positive fits]
  exact congrArg Except.ok (Spec.pad_left rfl)

/-- An integer is pushed to the right of its column. -/
theorem Value.layout_int_ofNat (n : Int) :
    (Value.scalar (.int n)).layout (Text.ofNat w) =
      .ok (List.replicate (w - (Text.ofInt n).length) (.char ' ') ++ Text.ofInt n) := by
  unfold layout
  rw [if_neg (Text.ofNat_ne_nil w)]
  show Spec.laidOut _ _ _ _ = _
  rw [Spec.laidOut_ofNat positive fits]
  show Except.ok (Spec.layBase { width := w } 10 [] false n) = _
  rw [Spec.layBase_ten, Spec.pad_right rfl]

end

/-- A value that is laid out is at least as wide as its layout asks for. -/
theorem Value.layout_wide {v : Value} {spec u : Text} (some : spec ≠ []) (laid : v.layout spec = .ok u) :
    ∃ number s, Spec.read v.typeName number spec = .ok s ∧ s.width ≤ u.length := by
  have wide : ∀ {typeName : Text} {number : Bool} {lay : Spec → Except Fault Text},
      (∀ s, lay s = .ok u → s.width ≤ u.length) → Spec.laidOut typeName number spec lay = .ok u →
      ∃ number s, Spec.read typeName number spec = .ok s ∧ s.width ≤ u.length := by
    intro typeName number lay each laid
    obtain ⟨s, reads, -, laid⟩ := Spec.laidOut_eq_ok laid
    exact ⟨number, s, reads, each s laid⟩
  unfold layout at laid
  rw [if_neg some] at laid
  split at laid
  · exact wide (fun _ => Spec.width_le_of_layText) laid
  · exact wide (fun _ => Spec.width_le_of_layInt) laid
  · exact wide (fun _ => Spec.width_le_of_layInt) laid
  · exact wide (fun _ => Spec.width_le_of_layReal) laid
  · cases laid

end LogStyle
