import LogStyle.Proofs.Text.Sequence

/-! # A terminal

What a terminal does with the sequences that this library writes: it follows them, and shows every other character
in the style it is in. `Terminal.Reads` says what it makes of a text whatever comes behind that, so that texts can
be put together.
-/

namespace LogStyle

/-- A character as a terminal shows it. -/
structure Cell where
  glyph : CodePoint
  style : Style
  deriving Repr, DecidableEq

def Cell.row (s : Style) (t : Text) : List Cell :=
  t.map fun c => ⟨c, s⟩

namespace Terminal

/-- The sequences without a number, by their parameters. -/
def switches : List (Text × (Style → Style)) :=
  [("0", fun _ => Style.plain),
    ("1", fun s => { s with bold := true }), ("22", fun s => { s with bold := false }),
    ("7", fun s => { s with reversed := true }), ("27", fun s => { s with reversed := false }),
    ("39", fun s => { s with foreground := none }), ("49", fun s => { s with background := none })]

/-- The colour that has a row of digits as its number. -/
def color? (digits : Text) : Option Int :=
  if digits ≠ [] ∧ digits.all isBasicDigit = true ∧ Numeral.value digits ≤ 255 then
    some (Numeral.value digits)
  else none

/-- The style that the parameters of a sequence select, if the terminal knows them. -/
def select? (s : Style) (parameters : Text) : Option Style :=
  match switches.lookup parameters with
  | some switch => some (switch s)
  | none =>
    match Text.dropLead? "38;5;" parameters, Text.dropLead? "48;5;" parameters with
    | some digits, _ => (color? digits).map fun color => { s with foreground := some color }
    | none, some digits => (color? digits).map fun color => { s with background := some color }
    | none, none => none

/-- The style after a sequence whose escape character has just been read, and what follows the sequence. -/
def sequence? (s : Style) (t : Text) : Option (Style × Text) :=
  match Text.afterSequence? t, select? s ((t.drop 1).takeWhile isParameter) with
  | some after, some next => some (next, after)
  | _, _ => none

theorem length_le_of_sequence? {s next : Style} {t after : Text} (found : sequence? s t = some (next, after)) :
    after.length ≤ t.length := by
  unfold sequence? at found
  split at found
  · next follows _ =>
      cases found
      exact Text.length_le_of_afterSequence? follows
  · cases found

/-- What a terminal shows of a text, and the style it ends in. -/
def read (s : Style) (t : Text) : List Cell × Style :=
  match t with
  | [] => ([], s)
  | c :: rest =>
    if c = '\x1b' then
      match _h : sequence? s rest with
      | some (next, after) => read next after
      | none => Prod.map (⟨c, s⟩ :: ·) id (read s rest)
    else Prod.map (⟨c, s⟩ :: ·) id (read s rest)
termination_by t.length
decreasing_by
  · exact Nat.lt_succ_of_le (length_le_of_sequence? _h)
  · exact Nat.lt_succ_self _
  · exact Nat.lt_succ_self _

theorem read_nil (s : Style) : read s [] = ([], s) := by
  rw [read]

theorem read_cons {c : CodePoint} (other : c ≠ '\x1b') (s : Style) (rest : Text) :
    read s (c :: rest) = Prod.map (⟨c, s⟩ :: ·) id (read s rest) := by
  rw [read, if_neg other]

theorem read_sequence {s next : Style} {rest after : Text} (found : sequence? s rest = some (next, after)) :
    read s (.char '\x1b' :: rest) = read next after := by
  rw [read, if_pos rfl]
  split
  · next found' =>
      rw [found, Option.some.injEq, Prod.mk.injEq] at found'
      rw [found'.1, found'.2]
  · next missing => simp [found] at missing

theorem read_escape {s : Style} {rest : Text} (missing : sequence? s rest = none) :
    read s (.char '\x1b' :: rest) = Prod.map (⟨'\x1b', s⟩ :: ·) id (read s rest) := by
  rw [read, if_pos rfl]
  split
  · next found => simp [missing] at found
  · rfl

theorem parameters_append (t u : Text) :
    (t ++ .char '\x1b' :: u).takeWhile isParameter = t.takeWhile isParameter ∧
      (t ++ .char '\x1b' :: u).dropWhile isParameter = t.dropWhile isParameter ++ .char '\x1b' :: u := by
  induction t with
  | nil => exact ⟨rfl, rfl⟩
  | cons c rest ih =>
      rw [List.cons_append, List.takeWhile_cons, List.takeWhile_cons, List.dropWhile_cons, List.dropWhile_cons]
      split
      · exact ⟨congrArg _ ih.1, ih.2⟩
      · exact ⟨rfl, rfl⟩

theorem sequence?_append (s : Style) (t u : Text) :
    sequence? s (t ++ .char '\x1b' :: u) = (sequence? s t).map (Prod.map id (· ++ .char '\x1b' :: u)) := by
  cases t with
  | nil => rfl
  | cons c rest =>
      by_cases bracket : c = '['
      · subst bracket
        obtain ⟨kept, dropped⟩ := parameters_append rest u
        have after : Text.afterSequence? (.char '[' :: (rest ++ .char '\x1b' :: u)) =
            (Text.afterSequence? (.char '[' :: rest)).map (· ++ .char '\x1b' :: u) := by
          simp only [Text.afterSequence?, dropped]
          cases rest.dropWhile isParameter with
          | nil => rfl
          | cons d more =>
              by_cases ends : d = 'm'
              · subst ends
                rfl
              · simp [ends]
        rw [List.cons_append, sequence?, sequence?, after]
        simp only [List.drop_succ_cons, List.drop_zero, kept]
        cases Text.afterSequence? (.char '[' :: rest) with
        | none => rfl
        | some behind => cases select? s (rest.takeWhile isParameter) <;> rfl
      · have missing (rest : Text) : Text.afterSequence? (c :: rest) = none := by
          unfold Text.afterSequence?
          split
          · next same => exact absurd (List.cons.inj same).1 bracket
          · rfl
        rw [List.cons_append, sequence?, missing, sequence?, missing]
        rfl

theorem read_append (s : Style) (t u : Text) :
    read s (t ++ .char '\x1b' :: u) =
      Prod.map ((read s t).1 ++ ·) id (read (read s t).2 (.char '\x1b' :: u)) := by
  induction s, t using read.induct with
  | case1 s => simp [read_nil, Prod.map]
  | case2 s rest next after found ih =>
      have longer : sequence? s (rest ++ .char '\x1b' :: u) = some (next, after ++ .char '\x1b' :: u) := by
        rw [sequence?_append, found]
        rfl
      rw [List.cons_append, read_sequence longer, read_sequence found, ih]
  | case3 s rest missing ih =>
      have longer : sequence? s (rest ++ .char '\x1b' :: u) = none := by
        rw [sequence?_append, missing]
        rfl
      rw [List.cons_append, read_escape longer, read_escape missing, ih]
      simp [Prod.map]
  | case4 s c rest other ih =>
      rw [List.cons_append, read_cons other, read_cons other, ih]
      simp [Prod.map]

/-- What a terminal makes of a text, whatever follows it. -/
def Reads (start : Style) (t : Text) (cells : List Cell) (final : Style) : Prop :=
  ∀ rest, read start (t ++ rest) = Prod.map (cells ++ ·) id (read final rest)

variable {start between final : Style} {t u : Text} {cells more : List Cell}

theorem Reads.read_eq (reads : Reads start t cells final) : read start t = (cells, final) := by
  have whole := reads []
  rw [List.append_nil, read_nil] at whole
  simpa using whole

theorem reads_nil (s : Style) : Reads s [] [] s :=
  fun _ => rfl

theorem Reads.append (here : Reads start t cells between) (later : Reads between u more final) :
    Reads start (t ++ u) (cells ++ more) final := by
  intro rest
  rw [List.append_assoc, here, later]
  simp [Prod.map]

theorem reads_row (s : Style) (absent : .char '\x1b' ∉ t) : Reads s t (Cell.row s t) s := by
  intro rest
  induction t with
  | nil => rfl
  | cons c t ih =>
      simp only [List.mem_cons, not_or] at absent
      rw [List.cons_append, read_cons (Ne.symm absent.1), ih absent.2]
      rfl

theorem reads_sequence {s next : Style} {parameters : Text} (plain : ∀ c ∈ parameters, isParameter c = true)
    (known : select? s parameters = some next) : Reads s (Style.sequence true parameters) [] next := by
  intro rest
  have ends : isParameter 'm' = false := by decide
  have kept : (parameters ++ .char 'm' :: rest).takeWhile isParameter = parameters := by
    rw [List.takeWhile_append_of_pos plain, List.takeWhile_cons_of_neg (by simp [ends]), List.append_nil]
  have found : sequence? s (.char '[' :: (parameters ++ .char 'm' :: rest)) = some (next, rest) := by
    simp only [sequence?, Text.afterSequence?_of_parameters plain rest, List.drop_succ_cons, List.drop_zero, kept,
      known]
  rw [Style.sequence_append, read_sequence found]
  rfl

theorem color?_ofInt {color : Int} (isColor : Style.IsColor color) : color? (Text.ofInt color) = some color := by
  obtain ⟨n, rfl⟩ := Int.eq_ofNat_of_zero_le isColor.1
  have small : n ≤ 255 := by
    have upper := isColor.2
    omega
  have digits : (Text.ofNat n).all isBasicDigit = true :=
    List.all_eq_true.2 fun c member => Text.isBasicDigit_of_mem_ofNat member
  have fits : Numeral.value (Text.ofNat n) ≤ 255 := by rwa [Numeral.value_ofNat]
  change color? (Text.ofNat n) = _
  rw [color?, if_pos ⟨Text.ofNat_ne_nil n, digits, fits⟩, Numeral.value_ofNat]

section
variable (s : Style) {color : Option Int} (colored : ∀ n ∈ color, Style.IsColor n)
include colored

theorem reads_foreground :
    Reads s (Style.sequence true (Style.foregroundCode color)) [] { s with foreground := color } := by
  apply reads_sequence (Style.isParameter_of_mem_foregroundCode colored)
  cases color with
  | none => rfl
  | some n =>
      change (color? (Text.ofInt n)).map _ = _
      rw [color?_ofInt (colored n rfl)]
      rfl

theorem reads_background :
    Reads s (Style.sequence true (Style.backgroundCode color)) [] { s with background := color } := by
  apply reads_sequence (Style.isParameter_of_mem_backgroundCode colored)
  cases color with
  | none => rfl
  | some n =>
      change (color? (Text.ofInt n)).map _ = _
      rw [color?_ofInt (colored n rfl)]
      rfl

end

theorem reads_bold (s : Style) (on : Bool) :
    Reads s (Style.sequence true (if on then "1" else "22")) [] { s with bold := on } := by
  cases on <;> exact reads_sequence (List.all_eq_true.1 (by decide)) rfl

theorem reads_reverse (s : Style) (on : Bool) :
    Reads s (Style.sequence true (if on then "7" else "27")) [] { s with reversed := on } := by
  cases on <;> exact reads_sequence (List.all_eq_true.1 (by decide)) rfl

end Terminal

end LogStyle
