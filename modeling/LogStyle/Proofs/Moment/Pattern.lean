import LogStyle.Moment.Pattern
import LogStyle.Proofs.Program.Error

/-! # Characters of times

A time shown by a pattern holds no escape character unless the pattern does: its parts are names, digits and
marks between them, filled up with spaces and zeros, and no upper-case letter is an escape character.
-/

namespace LogStyle

namespace CaseRun

theorem letters_upperRuns : ∀ r ∈ upperRuns, 65 ≤ (r.first : Int) + r.shift := by decide +kernel

end CaseRun

theorem CodePoint.ofNat_ne_escape {n : Nat} (other : n ≠ 27) : CodePoint.ofNat n ≠ '\x1b' := by
  intro same
  rcases CodePoint.toNat_ofNat n with code | null
  · rw [same] at code
    exact other code.symm
  · rw [same] at null
    exact absurd null (by decide)

namespace Text

variable {t : Text} (plain : .char '\x1b' ∉ t) (width : Nat)
include plain

theorem escape_not_mem_zeroPad : .char '\x1b' ∉ zeroPad width t :=
  List.not_mem_append (fun member => absurd (List.eq_of_mem_replicate member) (by decide)) plain

theorem escape_not_mem_padLeft : .char '\x1b' ∉ padLeft width t :=
  List.not_mem_append (fun member => absurd (List.eq_of_mem_replicate member) (by decide)) plain

theorem escape_not_mem_padRight : .char '\x1b' ∉ padRight width t :=
  List.not_mem_append plain fun member => absurd (List.eq_of_mem_replicate member) (by decide)

end Text

namespace Moment

theorem escape_not_mem_ofNat (n : Nat) : .char '\x1b' ∉ Text.ofNat n :=
  Text.not_mem_ofNat (by decide) n

namespace Manner

variable (f : Manner) {t : Text}

theorem raise_ne_escape {c : CodePoint} (plain : c ≠ '\x1b') : raise c ≠ '\x1b' := by
  unfold raise CaseRun.move
  split
  · next r found =>
      have start := CaseRun.letters_upperRuns r (List.mem_of_find?_eq_some found)
      have covered : r.covers c.toNat = true := by simpa using List.find?_some found
      simp only [CaseRun.covers, Bool.and_eq_true, decide_eq_true_eq] at covered
      exact CodePoint.ofNat_ne_escape (by omega)
  · exact plain

section
variable (plain : .char '\x1b' ∉ t)
include plain

theorem escape_not_mem_place : .char '\x1b' ∉ f.place t := by
  unfold place
  split
  · exact Text.escape_not_mem_zeroPad plain _
  · exact Text.escape_not_mem_padLeft plain _

theorem escape_not_mem_word : .char '\x1b' ∉ f.word t := by
  refine f.escape_not_mem_place ?_
  split
  · intro member
    obtain ⟨c, inside, raised⟩ := List.mem_map.1 member
    exact raise_ne_escape (fun same => plain (same ▸ inside)) raised
  · exact plain

theorem escape_not_mem_name : .char '\x1b' ∉ f.name t :=
  escape_not_mem_word _ plain

theorem escape_not_mem_keep {letter : CodePoint} (other : letter ≠ '\x1b') : .char '\x1b' ∉ f.keep t letter := by
  have whole : .char '\x1b' ∉ t ++ [letter] := List.not_mem_append plain (by simpa using Ne.symm other)
  unfold keep
  split
  · exact f.escape_not_mem_place (by decide)
  split
  · exact f.escape_not_mem_name whole
  · exact f.escape_not_mem_word whole

end

theorem escape_not_mem_number (digits n : Nat) : .char '\x1b' ∉ f.number digits n := by
  have shown := escape_not_mem_ofNat n
  unfold number
  split
  · exact f.escape_not_mem_place shown
  · exact Text.escape_not_mem_padLeft shown _
  · exact Text.escape_not_mem_zeroPad shown _

theorem escape_not_mem_spacedNumber (digits n : Nat) : .char '\x1b' ∉ f.spacedNumber digits n :=
  escape_not_mem_number _ digits n

end Manner

variable (m : Moment)

theorem escape_not_mem_zeros (width n : Nat) : .char '\x1b' ∉ zeros width n :=
  Text.escape_not_mem_zeroPad (escape_not_mem_ofNat n) width

theorem escape_not_mem_hourMinute : .char '\x1b' ∉ m.hourMinute :=
  List.not_mem_append (List.not_mem_append (escape_not_mem_zeros _ _) (by decide)) (escape_not_mem_zeros _ _)

theorem escape_not_mem_clock : .char '\x1b' ∉ m.clock :=
  List.not_mem_append (List.not_mem_append m.escape_not_mem_hourMinute (by decide)) (escape_not_mem_zeros _ _)

theorem escape_not_mem_half : .char '\x1b' ∉ m.half := by
  unfold half
  split <;> decide

theorem escape_not_mem_lower_half : .char '\x1b' ∉ m.half.lower := by
  unfold half
  split <;> decide

theorem escape_not_mem_weekdayName : .char '\x1b' ∉ m.weekdayName := by
  unfold weekdayName
  cases found : weekdayNames[m.date.weekday]? with
  | none => decide
  | some name =>
      have all : ∀ name ∈ weekdayNames, .char '\x1b' ∉ name := by decide
      exact all name (List.mem_of_getElem? found)

theorem escape_not_mem_monthName : .char '\x1b' ∉ m.monthName := by
  unfold monthName
  cases found : monthNames[m.date.month - 1]? with
  | none => decide
  | some name =>
      have all : ∀ name ∈ monthNames, .char '\x1b' ∉ name := by decide
      exact all name (List.mem_of_getElem? found)

theorem escape_not_mem_shortDay : .char '\x1b' ∉ m.shortDay := by
  simp only [shortDay, List.mem_append, escape_not_mem_zeros, or_false, false_or, not_or]
  decide

theorem escape_not_mem_longDay : .char '\x1b' ∉ m.longDay := by
  simp only [longDay, List.mem_append, escape_not_mem_zeros, escape_not_mem_ofNat, or_false, false_or, not_or]
  decide

theorem escape_not_mem_halfDayClock : .char '\x1b' ∉ m.halfDayClock := by
  simp only [halfDayClock, List.mem_append, escape_not_mem_zeros, escape_not_mem_half, or_false, false_or, not_or]
  decide

theorem escape_not_mem_dayAndClock : .char '\x1b' ∉ m.dayAndClock := by
  have weekday : .char '\x1b' ∉ m.weekdayName.take 3 := fun member =>
    m.escape_not_mem_weekdayName (List.mem_of_mem_take member)
  have month : .char '\x1b' ∉ m.monthName.take 3 := fun member => m.escape_not_mem_monthName (List.mem_of_mem_take member)
  have day : .char '\x1b' ∉ blanks m.date.day := Text.escape_not_mem_padLeft (escape_not_mem_ofNat _) 2
  simp only [dayAndClock, List.mem_append, weekday, month, day, escape_not_mem_clock, escape_not_mem_ofNat, or_false,
    false_or, not_or]
  decide

theorem Manner.escape_not_mem_mark_half (f : Manner) : .char '\x1b' ∉ f.mark m.half := by
  unfold mark
  split
  · exact f.escape_not_mem_place m.escape_not_mem_lower_half
  · exact f.escape_not_mem_word m.escape_not_mem_half

theorem escape_not_mem_part? {f : Manner} {letter : CodePoint} {t : Text} (shown : m.part? f letter = some t) :
    .char '\x1b' ∉ t := by
  have number (digits n : Nat) : .char '\x1b' ∉ f.number digits n := f.escape_not_mem_number digits n
  have spaced (digits n : Nat) : .char '\x1b' ∉ f.spacedNumber digits n := f.escape_not_mem_spacedNumber digits n
  have short {t : Text} (plain : .char '\x1b' ∉ t) : .char '\x1b' ∉ t.take 3 :=
    fun member => plain (List.mem_of_mem_take member)
  unfold part? at shown
  simp only at shown
  split at shown
  all_goals simp only [Option.ite_none_left_eq_some, Option.ite_none_right_eq_some, Option.some.injEq,
    reduceCtorEq] at shown
  all_goals obtain ⟨-, rfl⟩ := shown
  all_goals first | exact number _ _ | exact spaced _ _ | skip
  · exact f.escape_not_mem_place (Text.not_mem_ofInt (by decide) (by decide) _)
  · exact f.escape_not_mem_name (short m.escape_not_mem_weekdayName)
  · exact f.escape_not_mem_name m.escape_not_mem_weekdayName
  · exact f.escape_not_mem_name (short m.escape_not_mem_monthName)
  · exact f.escape_not_mem_name (short m.escape_not_mem_monthName)
  · exact f.escape_not_mem_name m.escape_not_mem_monthName
  · exact f.escape_not_mem_mark_half m
  · exact f.escape_not_mem_place m.escape_not_mem_lower_half
  · exact f.escape_not_mem_word m.escape_not_mem_shortDay
  · exact f.escape_not_mem_word m.escape_not_mem_shortDay
  · exact f.escape_not_mem_word m.escape_not_mem_longDay
  · exact f.escape_not_mem_word m.escape_not_mem_hourMinute
  · exact f.escape_not_mem_word m.escape_not_mem_clock
  · exact f.escape_not_mem_word m.escape_not_mem_clock
  · exact f.escape_not_mem_word m.escape_not_mem_halfDayClock
  · exact f.escape_not_mem_word m.escape_not_mem_dayAndClock
  · decide
  · split
    · decide
    · exact f.escape_not_mem_place (by decide)
  · exact f.escape_not_mem_place (by decide)
  · exact f.escape_not_mem_place (by decide)
  · exact f.escape_not_mem_place (by decide)

theorem readFlags_suffix (f : Manner) (t : Text) : (readFlags f t).2 <:+ t := by
  induction t generalizing f with
  | nil => exact List.suffix_rfl
  | cons c rest ih =>
      unfold readFlags
      split
      · exact (ih _).trans (List.suffix_cons c rest)
      split
      · exact (ih _).trans (List.suffix_cons c rest)
      split
      · exact (ih _).trans (List.suffix_cons c rest)
      · exact List.suffix_rfl

theorem readManner_suffix (widest : Nat) (t : Text) : (readManner widest t).2 <:+ t := by
  unfold readManner
  have flags := readFlags_suffix {} t
  generalize readFlags {} t = read at flags ⊢
  obtain ⟨f, rest⟩ := read
  have digits := List.dropWhile_suffix (l := rest) isBasicDigit
  simp only
  split
  · next whole => exact ((List.suffix_cons _ _).trans (whole ▸ digits)).trans flags
  · next whole => exact ((List.suffix_cons _ _).trans (whole ▸ digits)).trans flags
  · exact digits.trans flags

theorem escape_not_mem_piece {pattern : Text} (plain : .char '\x1b' ∉ pattern) (widest : Nat) :
    .char '\x1b' ∉ (m.piece widest pattern).1 ∧ .char '\x1b' ∉ (m.piece widest pattern).2 := by
  unfold piece
  split
  · exact ⟨by decide, by decide⟩
  · next rest =>
      simp only [List.mem_cons, not_or] at plain
      have suffix := readManner_suffix widest rest
      generalize readManner widest rest = read at suffix ⊢
      obtain ⟨f, after⟩ := read
      have later : .char '\x1b' ∉ after := fun member => plain.2 (suffix.subset member)
      have read : .char '\x1b' ∉ .char '%' :: rest.take (rest.length - after.length) := by
        simp only [List.mem_cons, not_or]
        exact ⟨by decide, fun member => plain.2 (List.mem_of_mem_take member)⟩
      cases after with
      | nil => exact ⟨f.escape_not_mem_word read, List.not_mem_nil⟩
      | cons c after =>
          simp only [List.mem_cons, not_or] at later
          refine ⟨?_, later.2⟩
          simp only
          cases shown : m.part? f c with
          | none => exact f.escape_not_mem_keep read (Ne.symm later.1)
          | some t => exact m.escape_not_mem_part? shown
  · simp only [List.mem_cons, not_or] at plain
    exact ⟨by simpa using plain.1, plain.2⟩

theorem escape_not_mem_layout? {fuel room : Nat} {pattern t : Text} (plain : .char '\x1b' ∉ pattern)
    (shown : m.layout? fuel room pattern = some t) : .char '\x1b' ∉ t := by
  induction fuel generalizing room pattern t with
  | zero =>
      cases shown
      decide
  | succ fuel ih =>
      unfold layout? at shown
      split at shown
      · cases shown
        decide
      · obtain ⟨here, later⟩ := m.escape_not_mem_piece plain room
        simp only at shown
        split at shown
        · obtain ⟨rest, found, rfl⟩ := Option.map_eq_some_iff.1 shown
          exact List.not_mem_append here (ih later found)
        · cases shown

theorem escape_not_mem_fillIn {pattern : Text} (plain : .char '\x1b' ∉ pattern) : .char '\x1b' ∉ m.fillIn pattern := by
  induction pattern using fillIn.induct with
  | case1 rest ih =>
      simp only [List.mem_cons, not_or] at plain
      rw [fillIn]
      exact List.not_mem_append (escape_not_mem_zeros _ _) (ih plain.2.2)
  | case2 rest ih | case3 rest ih =>
      simp only [List.mem_cons, not_or] at plain
      rw [fillIn]
      exact ih plain.2.2
  | case4 c rest notMicro notOffset notZone ih =>
      simp only [List.mem_cons, not_or] at plain
      rw [fillIn]
      · simp only [List.mem_cons, not_or]
        exact ⟨plain.1, plain.2.1, ih plain.2.2⟩
      all_goals assumption
  | case5 c rest _ _ _ _ ih =>
      simp only [List.mem_cons, not_or] at plain
      rw [fillIn]
      · simp only [List.mem_cons, not_or]
        exact ⟨plain.1, ih plain.2⟩
      all_goals assumption
  | case6 => exact List.not_mem_nil

theorem escape_not_mem_format {pattern : Text} (plain : .char '\x1b' ∉ pattern) : .char '\x1b' ∉ m.format pattern := by
  have filled : .char '\x1b' ∉ m.fillIn (pattern.takeWhile (· ≠ .char '\x00')) :=
    m.escape_not_mem_fillIn fun member => plain ((List.takeWhile_prefix _).subset member)
  unfold format
  simp only
  cases shown : m.layout? _ _ _ with
  | none => decide
  | some t => exact m.escape_not_mem_layout? filled shown

end Moment

end LogStyle
