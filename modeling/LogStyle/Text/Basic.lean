/-! # Text

A text is the list of its code points, so that positions and lengths count code points and every scan
is a recursion on the list. The surrogates are code points too, although they stand for no character: they
come in where bytes that are no text are kept, and by escapes. String literals stand for texts wherever a
text is expected, and characters for code points.
-/

namespace LogStyle

/-- A code point. -/
inductive CodePoint where
  | char (c : Char)
  /-- A surrogate, by its place among the surrogates. -/
  | surrogate (n : Fin 0x800)
  deriving Repr, DecidableEq

namespace CodePoint

instance : Coe Char CodePoint := ⟨char⟩

/-- The number of a code point. -/
def toNat : CodePoint → Nat
  | char c => c.toNat
  | surrogate n => 0xD800 + n

/-- The code point with a number. -/
def ofNat (n : Nat) : CodePoint :=
  if h : 0xD800 ≤ n ∧ n < 0xE000 then surrogate ⟨n - 0xD800, by omega⟩ else char (Char.ofNat n)

instance : LE CodePoint := ⟨fun a b => a.toNat ≤ b.toNat⟩

instance : LT CodePoint := ⟨fun a b => a.toNat < b.toNat⟩

instance (a b : CodePoint) : Decidable (a ≤ b) :=
  inferInstanceAs (Decidable (a.toNat ≤ b.toNat))

instance (a b : CodePoint) : Decidable (a < b) :=
  inferInstanceAs (Decidable (a.toNat < b.toNat))

@[simp] theorem toNat_char (c : Char) : (char c).toNat = c.toNat := rfl

/-- Whether a code point is a surrogate. -/
def isSurrogate : CodePoint → Bool
  | char _ => false
  | surrogate _ => true

@[simp] theorem isSurrogate_char (c : Char) : (char c).isSurrogate = false := rfl

@[simp] theorem isSurrogate_surrogate (n : Fin 0x800) : (surrogate n).isSurrogate = true := rfl

theorem toNat_injective {a b : CodePoint} (same : a.toNat = b.toNat) : a = b := by
  cases a with
  | char c =>
      cases b with
      | char d => exact congrArg char (Char.ext (UInt32.toNat_inj.1 same))
      | surrogate n =>
          -- no character has the number of a surrogate
          have valid : c.toNat < 0xD800 ∨ 0xDFFF < c.toNat ∧ c.toNat < 0x110000 := c.valid
          have number : c.toNat = 0xD800 + n := same
          omega
  | surrogate m =>
      cases b with
      | char d =>
          have valid : d.toNat < 0xD800 ∨ 0xDFFF < d.toNat ∧ d.toNat < 0x110000 := d.valid
          have number : 0xD800 + m = d.toNat := same
          omega
      | surrogate n =>
          have number : 0xD800 + (m : Nat) = 0xD800 + n := same
          exact congrArg surrogate (Fin.ext (by omega))

@[simp] theorem ofNat_toNat (c : CodePoint) : ofNat c.toNat = c := by
  unfold ofNat
  split
  · next inside =>
      exact toNat_injective (show 0xD800 + (c.toNat - 0xD800) = c.toNat by omega)
  · next outside =>
      cases c with
      | char c => exact congrArg char (Char.ofNat_toNat c)
      | surrogate n => exact absurd ⟨Nat.le_add_right _ _, Nat.add_lt_add_left n.isLt 0xD800⟩ outside

/-- A number that no code point has is read as that of the null character. -/
theorem toNat_ofNat (n : Nat) : (ofNat n).toNat = n ∨ ofNat n = '\x00' := by
  unfold ofNat
  split
  · next inside => exact .inl (show 0xD800 + (n - 0xD800) = n by omega)
  · by_cases valid : n.isValidChar
    · left
      rw [Char.ofNat, dif_pos valid]
      rfl
    · right
      rw [Char.ofNat, dif_neg valid]
      rfl

end CodePoint

/-- A text, as the list of its code points. -/
abbrev Text := List CodePoint

instance : Coe String Text := ⟨fun s => s.toList.map .char⟩

namespace Text

/-- The decimal digits of a natural number. -/
def ofNat (n : Nat) : Text :=
  (Nat.toDigits 10 n).map .char

/-- The decimal digits of an integer, after a minus sign when it is negative. -/
def ofInt : Int → Text
  | .ofNat n => ofNat n
  | .negSucc n => '-' :: ofNat (n + 1)

/-- What stands before and after the first occurrence of a character. -/
def cut? (c : CodePoint) : Text → Option (Text × Text)
  | [] => none
  | d :: rest =>
    if d = c then some ([], rest)
    else (cut? c rest).map fun (before, after) => (d :: before, after)

/-- What stands before and after the first occurrence of a character; all of it before, when there is none. -/
def cut (c : CodePoint) (t : Text) : Text × Text :=
  (cut? c t).getD (t, [])

/-- What follows a leading text, if a text starts with it. -/
def dropLead? : Text → Text → Option Text
  | [], t => some t
  | _ :: _, [] => none
  | c :: lead, d :: t => if c = d then dropLead? lead t else none

/-- What stands before and after the first occurrence of a pattern. -/
def cutAt? (pattern : Text) : Text → Option (Text × Text)
  | [] => if pattern = [] then some ([], []) else none
  | c :: rest =>
    match dropLead? pattern (c :: rest) with
    | some after => some ([], after)
    | none => (cutAt? pattern rest).map fun (before, after) => (c :: before, after)

/-- A text with the first occurrence of a pattern replaced. -/
def replaceFirst (pattern replacement t : Text) : Text :=
  match cutAt? pattern t with
  | some (before, after) => before ++ replacement ++ after
  | none => t

/-- The pieces of a text between the occurrences of a character; always at least one. -/
def splitOn (c : CodePoint) : Text → List Text
  | [] => [[]]
  | d :: rest =>
    if d = c then [] :: splitOn c rest
    else
      match splitOn c rest with
      | piece :: pieces => (d :: piece) :: pieces
      | [] => [[d]]

/-- Texts one after another with a separator between neighbours. -/
def join (separator : Text) : List Text → Text
  | [] => []
  | [t] => t
  | t :: u :: ts => t ++ separator ++ join separator (u :: ts)

/-- A text filled up with spaces on the right to a width. -/
def padRight (width : Nat) (t : Text) : Text :=
  t ++ List.replicate (width - t.length) (.char ' ')

/-- A text filled up with spaces on the left to a width. -/
def padLeft (width : Nat) (t : Text) : Text :=
  List.replicate (width - t.length) (.char ' ') ++ t

/-- Digits filled up with zeros on the left to a width. -/
def zeroPad (width : Nat) (t : Text) : Text :=
  List.replicate (width - t.length) (.char '0') ++ t

/-- Every line end written as a line feed. -/
def unifyLineEnds : Text → Text
  | [] => []
  | '\r' :: '\n' :: rest => '\n' :: unifyLineEnds rest
  | '\r' :: rest => '\n' :: unifyLineEnds rest
  | c :: rest => c :: unifyLineEnds rest

/-- The order of texts by their code points, a proper beginning first. -/
def before : Text → Text → Bool
  | _, [] => false
  | [], _ :: _ => true
  | c :: t, d :: u => c < d || (c = d && before t u)

end Text

end LogStyle
