import LogStyle.Text.Quoted

/-! # Texts that cannot be encoded

Surrogates have no encoding, so a text that holds one cannot be handed on as bytes. What is said of it then is
where its first run of surrogates stands.
-/

namespace LogStyle

/-- A run of surrogates in a text. -/
structure SurrogateRun where
  /-- The number of code points before it. -/
  position : Nat
  first : CodePoint
  length : Nat
  deriving Repr, DecidableEq

namespace SurrogateRun

/-- What is said of a text with a run of surrogates. -/
def message (r : SurrogateRun) : Text :=
  let place : Text :=
    if r.length = 1 then " '\\u" ++ hexCode 4 r.first.toNat ++ "' in position " ++ Text.ofNat r.position
    else "s in position " ++ Text.ofNat r.position ++ "-" ++ Text.ofNat (r.position + r.length - 1)
  "'utf-8' codec can't encode character" ++ place ++ ": surrogates not allowed"

end SurrogateRun

namespace Text

/-- Whether a text can be encoded. -/
def isEncodable (t : Text) : Bool :=
  t.all fun c => !c.isSurrogate

/-- The first run of surrogates in a text. -/
def surrogateRun? (t : Text) : Option SurrogateRun :=
  match t.dropWhile fun c => !c.isSurrogate with
  | [] => none
  | c :: rest =>
    some ⟨(t.takeWhile fun c => !c.isSurrogate).length, c, 1 + (rest.takeWhile CodePoint.isSurrogate).length⟩

/-- There is a run of surrogates exactly in texts that cannot be encoded. -/
theorem surrogateRun?_eq_none_iff {t : Text} : t.surrogateRun? = none ↔ t.isEncodable = true := by
  induction t with
  | nil => simp [surrogateRun?, isEncodable]
  | cons c t ih =>
    cases hc : c.isSurrogate with
    | true => simp [surrogateRun?, isEncodable, hc]
    | false =>
      simp only [surrogateRun?, isEncodable, List.dropWhile_cons, hc, Bool.not_false, if_true, List.all_cons,
        Bool.true_and] at ih ⊢
      rw [← ih]
      split <;> simp_all

end Text

end LogStyle
