import LogStyle.Proofs.Text.Numeral
import LogStyle.Style.Effect

/-! # Escape sequences

What a terminal shows of a text with the sequences that style it taken out. Where sequences are put between texts
without an escape character, taking them out leaves these texts.
-/

namespace LogStyle

/-- A character of the parameters of an escape sequence. -/
def isParameter (c : CodePoint) : Bool :=
  isBasicDigit c || c = ';'

namespace Text

/-- What follows an escape sequence whose escape character has just been read. -/
def afterSequence? : Text → Option Text
  | .char '[' :: rest =>
    match rest.dropWhile isParameter with
    | .char 'm' :: after => some after
    | _ => none
  | _ => none

theorem length_le_of_afterSequence? {t after : Text} (found : afterSequence? t = some after) :
    after.length ≤ t.length := by
  unfold afterSequence? at found
  split at found
  · next rest =>
      have shorter := (List.dropWhile_suffix (l := rest) isParameter).length_le
      split at found
      · next whole =>
          cases found
          rw [whole, List.length_cons] at shorter
          rw [List.length_cons]
          omega
      · cases found
  · cases found

/-- A text without the escape sequences that style it. -/
def erase (t : Text) : Text :=
  match t with
  | [] => []
  | c :: rest =>
    if c = '\x1b' then
      match _h : afterSequence? rest with
      | some after => erase after
      | none => c :: erase rest
    else c :: erase rest
termination_by t.length
decreasing_by
  · exact Nat.lt_succ_of_le (length_le_of_afterSequence? _h)
  · exact Nat.lt_succ_self _
  · exact Nat.lt_succ_self _

theorem erase_cons {c : CodePoint} (other : c ≠ '\x1b') (rest : Text) : erase (c :: rest) = c :: erase rest := by
  rw [erase, if_neg other]

theorem erase_sequence {rest after : Text} (found : afterSequence? rest = some after) :
    erase (.char '\x1b' :: rest) = erase after := by
  rw [erase, if_pos rfl]
  split
  · next found' =>
      rw [found, Option.some.injEq] at found'
      rw [found']
  · next missing => simp [found] at missing

/-- A text that comes down to another when escape sequences are taken out, whatever follows it. -/
def ErasesTo (t u : Text) : Prop :=
  ∀ rest, erase (t ++ rest) = u ++ erase rest

theorem ErasesTo.erase_eq {t u : Text} (erases : ErasesTo t u) : erase t = u := by
  have whole := erases []
  have empty : erase [] = [] := by rw [erase]
  rwa [List.append_nil, empty, List.append_nil] at whole

theorem erasesTo_nil : ErasesTo [] [] :=
  fun _ => rfl

theorem ErasesTo.append {t t' u u' : Text} (here : ErasesTo t u) (later : ErasesTo t' u') :
    ErasesTo (t ++ t') (u ++ u') := by
  intro rest
  rw [List.append_assoc, here, later, List.append_assoc]

theorem erasesTo_self {t : Text} (absent : .char '\x1b' ∉ t) : ErasesTo t t := by
  intro rest
  induction t with
  | nil => rfl
  | cons c t ih =>
      simp only [List.mem_cons, not_or] at absent
      rw [List.cons_append, erase_cons (Ne.symm absent.1), ih absent.2, List.cons_append]

end Text

namespace Style

theorem isParameter_of_mem_ofInt {color : Int} (isColor : IsColor color) :
    ∀ c ∈ Text.ofInt color, isParameter c = true := by
  intro c member
  cases color with
  | ofNat n => simp [isParameter, Text.isBasicDigit_of_mem_ofNat member]
  | negSucc n =>
      have negative := isColor.1
      omega

theorem isParameter_of_mem_numbered {front : Text} (plain : front.all isParameter = true) {color : Int}
    (isColor : IsColor color) : ∀ c ∈ front ++ Text.ofInt color, isParameter c = true := by
  intro c member
  rcases List.mem_append.1 member with first | number
  · exact List.all_eq_true.1 plain c first
  · exact isParameter_of_mem_ofInt isColor c number

variable {color : Option Int} (colored : ∀ n ∈ color, IsColor n)
include colored

theorem isParameter_of_mem_foregroundCode : ∀ c ∈ foregroundCode color, isParameter c = true := by
  cases color with
  | none => exact List.all_eq_true.1 (by decide)
  | some n => exact isParameter_of_mem_numbered (by decide) (colored n rfl)

theorem isParameter_of_mem_backgroundCode : ∀ c ∈ backgroundCode color, isParameter c = true := by
  cases color with
  | none => exact List.all_eq_true.1 (by decide)
  | some n => exact isParameter_of_mem_numbered (by decide) (colored n rfl)

end Style

theorem Text.afterSequence?_of_parameters {parameters : Text} (plain : ∀ c ∈ parameters, isParameter c = true)
    (rest : Text) : afterSequence? (.char '[' :: (parameters ++ .char 'm' :: rest)) = some rest := by
  have ends : isParameter 'm' = false := by decide
  have dropped : (parameters ++ .char 'm' :: rest).dropWhile isParameter = .char 'm' :: rest := by
    rw [List.dropWhile_append_of_pos plain, List.dropWhile_cons_of_neg (by simp [ends])]
  simp only [afterSequence?, dropped]

theorem Style.sequence_append (parameters rest : Text) :
    Style.sequence true parameters ++ rest = .char '\x1b' :: .char '[' :: (parameters ++ .char 'm' :: rest) := by
  simp [Style.sequence]

theorem Style.erasesTo_sequence {parameters : Text} (plain : ∀ c ∈ parameters, isParameter c = true) (colors : Bool) :
    Text.ErasesTo (Style.sequence colors parameters) [] := by
  cases colors with
  | false => exact Text.erasesTo_nil
  | true =>
      intro rest
      rw [Style.sequence_append, Text.erase_sequence (Text.afterSequence?_of_parameters plain rest)]
      rfl

namespace Text

/-- A text that comes down to another one without an escape character. -/
def Fades (t u : Text) : Prop :=
  ErasesTo t u ∧ .char '\x1b' ∉ u

theorem fades_nil : Fades [] [] :=
  ⟨erasesTo_nil, by simp⟩

theorem fades_self {t : Text} (absent : .char '\x1b' ∉ t) : Fades t t :=
  ⟨erasesTo_self absent, absent⟩

theorem Fades.append {t t' u u' : Text} (here : Fades t u) (later : Fades t' u') : Fades (t ++ t') (u ++ u') :=
  ⟨here.1.append later.1, List.not_mem_append here.2 later.2⟩

end Text

theorem Style.fades_sequence {parameters : Text} (plain : ∀ c ∈ parameters, isParameter c = true) (colors : Bool) :
    Text.Fades (Style.sequence colors parameters) (Style.sequence false parameters) :=
  ⟨Style.erasesTo_sequence plain colors, by simp [Style.sequence]⟩

/-! ## Sequences with any parameters

A style may hold colours that no terminal has, and what sequences then say of them are no parameters. They end with
the next `m` all the same.
-/

namespace Text

/-- What stands behind the escape sequence that a text starts with. -/
def behindSequence? : Text → Option Text
  | .char '\x1b' :: .char '[' :: rest => (rest.dropWhile (· ≠ .char 'm')).tail?
  | _ => none

theorem length_lt_of_behindSequence? {t after : Text} (found : behindSequence? t = some after) :
    after.length < t.length := by
  unfold behindSequence? at found
  split at found
  · next rest =>
      have shorter := (List.dropWhile_suffix (l := rest) (· ≠ .char 'm')).length_le
      cases ends : rest.dropWhile (· ≠ .char 'm') with
      | nil => simp only [ends, List.tail?_nil, reduceCtorEq] at found
      | cons m behind =>
          simp only [ends, List.tail?_cons, Option.some.injEq] at found
          rw [ends, List.length_cons, found] at shorter
          simp only [List.length_cons]
          omega
  · cases found

/-- A text without the escape sequences in it, whatever stands between their bracket and the next `m`. -/
def unstyle (t : Text) : Text :=
  match t with
  | [] => []
  | c :: rest =>
    match _h : behindSequence? (c :: rest) with
    | some after => unstyle after
    | none => c :: unstyle rest
termination_by t.length
decreasing_by
  · exact length_lt_of_behindSequence? _h
  · exact Nat.lt_succ_self _

/-- A text, and the same text with escape sequences put between its characters. -/
inductive Styled : Text → Text → Prop where
  | nil : Styled [] []
  | char {c : CodePoint} (plain : c ≠ '\x1b') {t u : Text} (later : Styled t u) : Styled (c :: t) (c :: u)
  | sequence {parameters : Text} (inside : .char 'm' ∉ parameters) {t u : Text} (later : Styled t u) :
      Styled (.char '\x1b' :: .char '[' :: (parameters ++ .char 'm' :: t)) u

theorem behindSequence?_sequence {parameters : Text} (inside : .char 'm' ∉ parameters) (rest : Text) :
    behindSequence? (.char '\x1b' :: .char '[' :: (parameters ++ .char 'm' :: rest)) = some rest := by
  have dropped : (parameters ++ .char 'm' :: rest).dropWhile (· ≠ .char 'm') = .char 'm' :: rest := by
    rw [List.dropWhile_append_of_pos fun c member => by simpa using ne_of_mem_of_not_mem member inside]
    simp
  simp only [behindSequence?, dropped, List.tail?_cons]

theorem Styled.unstyle_eq {t u : Text} (styled : Styled t u) : unstyle t = u := by
  induction styled with
  | nil => rw [unstyle]
  | @char c plain t u _ ih =>
      have alone : behindSequence? (c :: t) = none := by simp [behindSequence?, plain]
      rw [unstyle]
      split
      · next found => simp [alone] at found
      · rw [ih]
  | @sequence parameters inside t u _ ih =>
      rw [unstyle]
      split
      · next found =>
          rw [behindSequence?_sequence inside, Option.some.injEq] at found
          rw [← found, ih]
      · next missing => simp [behindSequence?_sequence inside] at missing

theorem Styled.append {t t' u u' : Text} (here : Styled t u) (later : Styled t' u') : Styled (t ++ t') (u ++ u') := by
  induction here with
  | nil => exact later
  | char plain _ ih => exact .char plain ih
  | sequence inside _ ih =>
      rw [List.cons_append, List.cons_append, List.append_assoc, List.cons_append]
      exact .sequence inside ih

theorem styled_self {t : Text} (absent : .char '\x1b' ∉ t) : Styled t t := by
  induction t with
  | nil => exact .nil
  | cons c t ih =>
      rw [List.mem_cons, not_or] at absent
      exact .char (Ne.symm absent.1) (ih absent.2)

end Text

namespace Style

theorem styled_sequence {parameters : Text} (inside : .char 'm' ∉ parameters) :
    Text.Styled (sequence true parameters) (sequence false parameters) :=
  .sequence inside .nil

theorem m_not_mem_foregroundCode (color : Option Int) : .char 'm' ∉ foregroundCode color := by
  cases color with
  | none => decide
  | some n => exact List.not_mem_append (by decide) (Text.not_mem_ofInt (by decide) (by decide) n)

theorem m_not_mem_backgroundCode (color : Option Int) : .char 'm' ∉ backgroundCode color := by
  cases color with
  | none => decide
  | some n => exact List.not_mem_append (by decide) (Text.not_mem_ofInt (by decide) (by decide) n)

end Style

end LogStyle
