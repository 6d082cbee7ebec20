import LogStyle.Outcome
import LogStyle.Proofs.Text.Neighbours
import LogStyle.Yaml.Quoted
import Mathlib.Data.List.TakeWhile

/-! # Quoted scalars that are written and read

Between double quotes every text can be written so that it is read again, and between single quotes every text
without line ends.
-/

namespace LogStyle

namespace Yaml

namespace Quoted

variable {c : CodePoint} {t u rest value after : Text} {fuel : Nat}

/-! ## Double quotes -/

/-- The letter that a character is written with after a backslash, if it is not written as it is. -/
def letter? (c : CodePoint) : Option CodePoint :=
  if c = '"' || c = '\\' || c = ' ' then some c
  else if c = '\t' then some 't'
  else if c = '\n' then some 'n'
  else if c = '\x85' then some 'N'
  else if c = '\u2028' then some 'L'
  else if c = '\u2029' then some 'P'
  else none

/-- A character as it is written between double quotes. -/
def written (c : CodePoint) : Text :=
  match letter? c with
  | some letter => [.char '\\', letter]
  | none => [c]

theorem escaped?_letter {letter : CodePoint} (escapes : letter? c = some letter) : escaped? letter = some c := by
  unfold letter? at escapes
  split at escapes
  · next marks =>
      simp only [Bool.or_eq_true, decide_eq_true_eq] at marks
      rcases marks with (rfl | rfl) | rfl <;> cases escapes <;> rfl
  · repeat' split at escapes
    all_goals first
      | next same => cases same; cases escapes; rfl
      | cases escapes

theorem plain_of_letter? (plain : letter? c = none) :
    c ≠ '"' ∧ c ≠ '\\' ∧ isGap c = false ∧ isBreak c = false := by
  unfold letter? at plain
  repeat' split at plain
  all_goals cases plain
  simp_all [isGap, isBreak]

theorem readFrom_escape {letter : CodePoint} (escapes : escaped? letter = some c) (u : Text) (fuel : Nat) :
    readFrom (fuel + 1) '"' (.char '\\' :: letter :: u) = (readFrom fuel '"' u).map fun read => (c :: read.1, read.2) := by
  have step : escape (letter :: u) = .ok ([c], u) := by simp [escape, escapes]
  have other : CodePoint.char '\\' ≠ '"' := by decide
  simp only [readFrom, if_neg other, step, decide_true, Bool.and_true, if_true]
  show (readFrom fuel '"' u >>= fun read => pure ([c] ++ read.1, read.2)) = _
  cases readFrom fuel '"' u <;> rfl

theorem readFrom_char {mark : CodePoint} (open_ : c ≠ mark) (plain : c ≠ '\\' ∨ mark ≠ '"') (gap : isGap c = false)
    (line : isBreak c = false) (u : Text) (fuel : Nat) :
    readFrom (fuel + 1) mark (c :: u) = (readFrom fuel mark u).map fun read => (c :: read.1, read.2) := by
  have noEscape : (decide (c = '\\') && decide (mark = '"')) = false := by
    rcases plain with plain | plain <;> simp [plain]
  simp only [readFrom, if_neg open_, noEscape, gap, line, Bool.or_false, Bool.false_eq_true, if_false]
  cases readFrom fuel mark u <;> rfl

theorem readFrom_written (c : CodePoint) (u : Text) (fuel : Nat) :
    readFrom (fuel + 1) '"' (written c ++ u) = (readFrom fuel '"' u).map fun read => (c :: read.1, read.2) := by
  unfold written
  cases escapes : letter? c with
  | some letter => exact readFrom_escape (escaped?_letter escapes) u fuel
  | none =>
      obtain ⟨mark, slash, gap, line⟩ := plain_of_letter? escapes
      exact readFrom_char mark (.inl slash) gap line u fuel

theorem readFrom_double (enough : t.length < fuel) (rest : Text) :
    readFrom fuel '"' (t.flatMap written ++ .char '"' :: rest) = .ok (t, rest) := by
  induction t generalizing fuel with
  | nil =>
      obtain ⟨fuel, rfl⟩ := Nat.exists_eq_succ_of_ne_zero (Nat.ne_of_gt enough)
      rfl
  | cons c t ih =>
      obtain ⟨fuel, rfl⟩ := Nat.exists_eq_succ_of_ne_zero (Nat.ne_of_gt (Nat.lt_of_le_of_lt (Nat.zero_le _) enough))
      rw [List.flatMap_cons, List.append_assoc, readFrom_written, ih (Nat.lt_of_succ_lt_succ enough)]
      rfl

theorem length_le_flatMap {f : CodePoint → Text} (some : ∀ c, 1 ≤ (f c).length) (t : Text) :
    t.length ≤ (t.flatMap f).length := by
  induction t with
  | nil => exact Nat.le_refl 0
  | cons c t ih =>
      have own := some c
      rw [List.flatMap_cons, List.length_append, List.length_cons]
      omega

/-- Every text can be written between double quotes. -/
theorem read_double (t rest : Text) : read '"' (t.flatMap written ++ .char '"' :: rest) = .ok (t, rest) := by
  refine readFrom_double ?_ rest
  have short : t.length ≤ (t.flatMap written).length := by
    refine length_le_flatMap (fun c => ?_) t
    unfold written
    split <;> simp
  rw [List.length_append, List.length_cons]
  omega

/-! ## Single quotes -/

def doubled (t : Text) : Text :=
  t.flatMap fun (c : CodePoint) => if c = '\x27' then [c, c] else [c]

theorem ne_quote_of_isGap (gap : isGap c = true) : c ≠ '\x27' := by
  simp only [isGap, Bool.or_eq_true, decide_eq_true_eq] at gap
  rcases gap with rfl | rfl <;> decide

theorem doubled_of_gaps {gaps : Text} (blank : ∀ c ∈ gaps, isGap c = true) : doubled gaps = gaps := by
  induction gaps with
  | nil => rfl
  | cons c gaps ih =>
      have own := ne_quote_of_isGap (blank c List.mem_cons_self)
      have later := ih fun d member => blank d (List.mem_cons_of_mem _ member)
      rw [doubled, List.flatMap_cons, if_neg own]
      exact congrArg (c :: ·) later

theorem readFrom_gaps {mark g : CodePoint} {gaps : Text} (blank : ∀ c ∈ g :: gaps, isGap c = true) (open_ : g ≠ mark)
    (next : isGap c = false) (line : isBreak c = false) (u : Text) (fuel : Nat) :
    readFrom (fuel + 1) mark (g :: gaps ++ c :: u) =
      (readFrom fuel mark (c :: u)).map fun read => (g :: gaps ++ read.1, read.2) := by
  have gap := blank g List.mem_cons_self
  have slash : g ≠ '\\' := by rintro rfl; cases gap
  have run : (g :: gaps ++ c :: u).takeWhile isGap = g :: gaps := by
    rw [List.takeWhile_append_of_pos blank, List.takeWhile_cons_of_neg (by simp [next]), List.append_nil]
  have left : (g :: gaps ++ c :: u).dropWhile isGap = c :: u := by
    rw [List.dropWhile_append_of_pos blank, List.dropWhile_cons_of_neg (by simp [next])]
  have stays : lineBreak? [c] = none := by
    simp only [isBreak, Bool.or_eq_false_iff, decide_eq_false_iff_not] at line
    simp [lineBreak?, line]
  have read : blanks (g :: gaps ++ c :: u) = .ok (g :: gaps, c :: u) := by
    simp only [blanks, run, left, stays]
  simp only [List.cons_append] at read ⊢
  simp only [readFrom, if_neg open_, slash, decide_false, Bool.false_and, Bool.false_eq_true, if_false, gap, Bool.true_or,
    if_true, read]
  show (readFrom fuel mark (c :: u) >>= fun read => pure (g :: gaps ++ read.1, read.2)) = _
  cases readFrom fuel mark (c :: u) <;> rfl

theorem readFrom_quotes (u : Text) (fuel : Nat) :
    readFrom (fuel + 1) '\x27' (.char '\x27' :: .char '\x27' :: u) =
      (readFrom fuel '\x27' u).map fun read => (.char '\x27' :: read.1, read.2) := by
  have twice : peek (.char '\x27' :: u) = '\x27' := rfl
  simp only [readFrom, if_true, twice, decide_true, Bool.and_true, List.drop_one, List.tail_cons]
  cases readFrom fuel '\x27' u <;> rfl

theorem exists_doubled_cons (rest : Text) {t : Text} (first : Text.Stops isGap t)
    (lines : ∀ c ∈ t, isBreak c = false) :
    ∃ c u, doubled t ++ .char '\x27' :: rest = c :: u ∧ isGap c = false ∧ isBreak c = false := by
  cases t with
  | nil => exact ⟨.char '\x27', rest, rfl, by decide, by decide⟩
  | cons c t =>
      have spelled : doubled (c :: t) = (if c = '\x27' then [c, c] else [c]) ++ doubled t := rfl
      rw [spelled]
      split
      · exact ⟨c, _, rfl, first c rfl, lines c List.mem_cons_self⟩
      · exact ⟨c, _, rfl, first c rfl, lines c List.mem_cons_self⟩

theorem readFrom_single {rest : Text} (ends : peek rest ≠ '\x27') {t : Text} (lines : ∀ c ∈ t, isBreak c = false)
    (enough : t.length < fuel) : readFrom fuel '\x27' (doubled t ++ .char '\x27' :: rest) = .ok (t, rest) := by
  induction fuel generalizing t with
  | zero => exact absurd enough (Nat.not_lt_zero _)
  | succ fuel ih =>
      obtain _ | ⟨c, t⟩ := t
      · show readFrom (fuel + 1) '\x27' (.char '\x27' :: rest) = _
        simp [readFrom, ends]
      · by_cases gap : isGap c = true
        · -- A run of blanks is taken at once.
          have whole : t.takeWhile isGap ++ t.dropWhile isGap = t := List.takeWhile_append_dropWhile
          have blank : ∀ d ∈ c :: t.takeWhile isGap, isGap d = true :=
            List.forall_mem_cons.2 ⟨gap, fun d member => List.mem_takeWhile_imp member⟩
          have later : ∀ d ∈ t.dropWhile isGap, isBreak d = false := fun d member =>
            lines d (List.mem_cons_of_mem _ ((List.dropWhile_suffix _).subset member))
          obtain ⟨d, u, starts, next, line⟩ := exists_doubled_cons rest (Text.stops_dropWhile isGap t) later
          have spelled : doubled (c :: t) ++ .char '\x27' :: rest = c :: t.takeWhile isGap ++ d :: u := by
            have parts : doubled (c :: t) = doubled (c :: t.takeWhile isGap) ++ doubled (t.dropWhile isGap) := by
              rw [doubled, doubled, doubled, ← List.flatMap_append, List.cons_append, whole]
            rw [parts, doubled_of_gaps blank, List.append_assoc, starts]
          have short : (t.dropWhile isGap).length < fuel :=
            Nat.lt_of_le_of_lt (List.dropWhile_suffix _).length_le (Nat.lt_of_succ_lt_succ enough)
          rw [spelled, readFrom_gaps blank (ne_quote_of_isGap gap) next line, ← starts, ih later short]
          simp [Except.map, whole]
        · have later := ih (fun d member => lines d (List.mem_cons_of_mem _ member)) (Nat.lt_of_succ_lt_succ enough)
          have spelled : doubled (c :: t) = (if c = '\x27' then [c, c] else [c]) ++ doubled t := rfl
          rw [spelled]
          split
          · next quote =>
              subst quote
              refine (readFrom_quotes _ fuel).trans ?_
              show Except.map _ (readFrom fuel '\x27' (doubled t ++ .char '\x27' :: rest)) = _
              rw [later]
              rfl
          · next open_ =>
              have slash : CodePoint.char '\x27' ≠ '"' := by decide
              have inside : isGap c = false := by simpa using gap
              refine (readFrom_char open_ (.inr slash) inside (lines c List.mem_cons_self) _ fuel).trans ?_
              show Except.map _ (readFrom fuel '\x27' (doubled t ++ .char '\x27' :: rest)) = _
              rw [later]
              rfl

/-- Every text without line ends can be written between single quotes. -/
theorem read_single {t rest : Text} (lines : ∀ c ∈ t, isBreak c = false) (ends : peek rest ≠ '\x27') :
    read '\x27' (doubled t ++ .char '\x27' :: rest) = .ok (t, rest) := by
  refine readFrom_single ends lines ?_
  have short : t.length ≤ (doubled t).length := by
    refine length_le_flatMap (fun c => ?_) t
    split <;> simp
  rw [List.length_append, List.length_cons]
  omega

end Quoted

end Yaml

end LogStyle
