import LogStyle.Host.Markup
import LogStyle.Proofs.Template.Split
import Mathlib.Data.List.TakeWhile

/-! # Markup in headers

The host takes the backslash off that stands before a tag, and only off that. So a text whose opening angle brackets
have got a backslash is written as it was but for the brackets that start no tag: these keep it. Where the text had
backslashes of its own in front of a tag they stay, since the one that goes is the one next to it.
-/

namespace LogStyle

namespace Markup

/-! ## Tags -/

/-- Whether what follows an opening angle bracket makes it a tag of given characters. -/
def closes (inner : CodePoint → Bool) (rest : Text) : Bool :=
  (rest.dropWhile inner).head? = some (.char '>')

/-- A text that is escaped and written: the opening angle brackets that start no tag of given characters have got a
    backslash. -/
def keepSlashes (inner : CodePoint → Bool) : Text → Text
  | [] => []
  | c :: rest =>
    if c = '<' ∧ closes inner rest = false then .char '\\' :: c :: keepSlashes inner rest
    else c :: keepSlashes inner rest

section
variable {inner : CodePoint → Bool} {t u body after : Text}

theorem closes_iff (ends : inner '>' = false) :
    closes inner t = true ↔ ∃ body after, t = body ++ .char '>' :: after ∧ ∀ c ∈ body, inner c = true := by
  rw [closes, decide_eq_true_eq]
  constructor
  · intro first
    obtain ⟨after, left⟩ := List.head?_eq_some_iff.1 first
    exact ⟨t.takeWhile inner, after, by rw [← left, List.takeWhile_append_dropWhile], fun c => List.mem_takeWhile_imp⟩
  · rintro ⟨body, after, rfl, all⟩
    rw [List.dropWhile_append_of_pos all, List.dropWhile_cons_of_neg (by simp [ends])]
    rfl

theorem keepSlashes_of_not_mem (absent : .char '<' ∉ u) : keepSlashes inner (u ++ t) = u ++ keepSlashes inner t := by
  induction u with
  | nil => rfl
  | cons c u ih =>
      simp only [List.mem_cons, not_or] at absent
      rw [List.cons_append, keepSlashes, if_neg fun bad => absent.1 bad.1.symm, ih absent.2]
      rfl

theorem length_le_keepSlashes : t.length ≤ (keepSlashes inner t).length := by
  induction t with
  | nil => exact Nat.le_refl _
  | cons c t ih =>
      rw [keepSlashes]
      split
      · exact Nat.succ_le_succ (Nat.le_succ_of_le ih)
      · exact Nat.succ_le_succ ih

/-! ## Escaped texts -/

def escapeTags (t : Text) : Text :=
  t.flatMap fun c : CodePoint => if c = '<' then [.char '\\', c] else [c]

@[simp] theorem escapeTags_nil : escapeTags [] = [] := rfl

@[simp] theorem escapeTags_bracket (t : Text) :
    escapeTags (.char '<' :: t) = .char '\\' :: .char '<' :: escapeTags t := rfl

theorem escapeTags_cons {c : CodePoint} (plain : c ≠ '<') (t : Text) : escapeTags (c :: t) = c :: escapeTags t := by
  simp [escapeTags, plain]

theorem escapeTags_append (t u : Text) : escapeTags (t ++ u) = escapeTags t ++ escapeTags u := by
  simp [escapeTags]

theorem escapeTags_of_not_mem (absent : .char '<' ∉ t) : escapeTags t = t := by
  induction t with
  | nil => rfl
  | cons c t ih =>
      simp only [List.mem_cons, not_or] at absent
      rw [escapeTags_cons (Ne.symm absent.1), ih absent.2]

theorem head?_of_tag? (found : (tag? t).isSome = true) : t.head? = some (.char '<') := by
  unfold tag? at found
  split at found
  · rfl
  · cases found

theorem escaped_escapeTags (t : Text) : Escaped (escapeTags t) := by
  intro before after whole found
  have first := head?_of_tag? found
  induction t generalizing before with
  | nil =>
      obtain ⟨-, rfl⟩ := List.append_eq_nil_iff.1 (show before ++ after = [] from whole.symm)
      cases first
  | cons c t ih =>
      by_cases bracket : c = '<'
      · subst bracket
        rw [escapeTags_bracket] at whole
        rcases before with _ | ⟨d, _ | ⟨e, before⟩⟩
        · rw [← show _ = after from whole] at first
          simp at first
        · rw [← (List.cons.inj whole).1]
          rfl
        · have last := ih before (List.cons.inj (List.cons.inj whole).2).2
          rw [List.getLast?_cons, List.getLast?_cons, last]
          rfl
      · rw [escapeTags_cons bracket] at whole
        rcases before with _ | ⟨d, before⟩
        · rw [← show _ = after from whole] at first
          exact absurd (by simpa using first) bracket
        · rw [List.getLast?_cons, ih before (List.cons.inj whole).2]
          rfl

theorem tag?_of_stops {d : CodePoint} (inside : ∀ c ∈ body, isTagChar c = true) (stops : isTagChar d = false)
    (rest : Text) :
    tag? (.char '<' :: (body ++ d :: rest)) =
      if d = '>' then some (.char '<' :: body ++ [.char '>'], rest) else none := by
  have notInside : ¬ isTagChar d = true := by simp [stops]
  rw [tag?, List.dropWhile_append_of_pos inside, List.takeWhile_append_of_pos inside,
    List.dropWhile_cons_of_neg notInside, List.takeWhile_cons_of_neg notInside, List.append_nil]
  by_cases close : d = '>'
  · subst close
    rfl
  · rw [if_neg close]
    split
    · next same => exact absurd (List.cons.inj same).1 close
    · rfl

theorem tag?_of_inside (inside : ∀ c ∈ body, isTagChar c = true) : tag? (.char '<' :: body) = none := by
  rw [tag?, List.dropWhile_eq_nil_iff.2 inside]

theorem tag?_escapeTags (t : Text) :
    (closes isTagChar t = false ∧ tag? (.char '<' :: escapeTags t) = none) ∨
      ∃ body after, t = body ++ .char '>' :: after ∧ .char '<' ∉ body ∧ closes isTagChar t = true ∧
        tag? (.char '<' :: escapeTags t) = some (.char '<' :: body ++ [.char '>'], escapeTags after) := by
  have parts := (List.takeWhile_append_dropWhile (p := isTagChar) (l := t)).symm
  have inside : ∀ c ∈ t.takeWhile isTagChar, isTagChar c = true := fun c => List.mem_takeWhile_imp
  have ends := List.head?_dropWhile_not isTagChar t
  have closing : closes isTagChar t = decide ((t.dropWhile isTagChar).head? = some (.char '>')) := rfl
  generalize t.takeWhile isTagChar = body at parts inside
  generalize t.dropWhile isTagChar = left at parts ends closing
  have absent : .char '<' ∉ body := fun member => by cases inside _ member
  have whole : escapeTags t = body ++ escapeTags left := by
    rw [parts, escapeTags_append, escapeTags_of_not_mem absent]
  rcases left with _ | ⟨d, rest⟩
  · refine .inl ⟨by simp [closing], ?_⟩
    rw [whole, escapeTags_nil, List.append_nil, tag?_of_inside inside]
  have stops : isTagChar d = false := by simpa using ends
  by_cases bracket : d = '<'
  · -- The backslash it has got may stand in a tag, but the bracket itself may not.
    subst bracket
    have longer : ∀ c ∈ body ++ [.char '\\'], isTagChar c = true := by
      intro c member
      rcases List.mem_append.1 member with old | new
      · exact inside c old
      · rw [List.mem_singleton.1 new]
        decide
    refine .inl ⟨by simp [closing], ?_⟩
    have read := tag?_of_stops longer stops (escapeTags rest)
    rw [whole, escapeTags_bracket]
    simpa using read
  · have read := tag?_of_stops inside stops (escapeTags rest)
    rw [← escapeTags_cons bracket, ← whole] at read
    by_cases close : d = '>'
    · subst close
      exact .inr ⟨body, rest, parts, absent, by simp [closing], read⟩
    · exact .inl ⟨by simp [closing, close], by simpa [close] using read⟩

theorem unescape_cons {c : CodePoint} {t : Text} (plain : c = '\\' → tag? t = none) :
    unescape (c :: t) = c :: unescape t := by
  rw [unescape]
  split
  · next found =>
      split at found
      · next slash =>
          rw [plain slash] at found
          cases found
      · cases found
  · rfl

theorem unescape_tag {tag : Text} (found : tag? t = some (tag, after)) :
    unescape (.char '\\' :: t) = tag ++ unescape after := by
  rw [unescape]
  split
  · next same =>
      rw [if_pos rfl, found] at same
      cases same
      rfl
  · next none =>
      rw [if_pos rfl, found] at none
      cases none

theorem unescape_escapeTags (t : Text) : unescape (escapeTags t) = keepSlashes isTagChar t := by
  generalize size : t.length = bound
  induction bound using Nat.strong_induction_on generalizing t with
  | _ bound ih =>
  rcases t with _ | ⟨c, t⟩
  · rw [escapeTags_nil, unescape, keepSlashes]
  have shorter {u : Text} (suffix : u <:+ t) : u.length < bound := by
    have le := suffix.length_le
    rw [← size, List.length_cons]
    omega
  have onward := ih _ (shorter List.suffix_rfl) t rfl
  by_cases bracket : c = '<'
  · subst bracket
    rw [escapeTags_bracket, keepSlashes]
    rcases tag?_escapeTags t with ⟨opens, none⟩ | ⟨body, after, whole, absent, closed, found⟩
    · rw [if_pos ⟨rfl, opens⟩, unescape_cons fun _ => none, unescape_cons (by simp), onward]
    · have later := ih _ (shorter ⟨body ++ [.char '>'], by rw [whole]; simp⟩) after rfl
      have plain : .char '<' ∉ body ++ [.char '>'] := by simp [absent]
      have same : t = (body ++ [.char '>']) ++ after := by simp [whole]
      rw [if_neg (by simp [closed]), unescape_tag found, later, same, keepSlashes_of_not_mem plain]
      simp
  · -- A backslash of the text itself stands in front of the backslash of a bracket, or of none.
    have noTag : tag? (escapeTags t) = none := by
      rw [← Option.not_isSome_iff_eq_none]
      intro found
      have first := head?_of_tag? found
      rcases t with _ | ⟨d, t⟩
      · cases first
      · by_cases adjacent : d = '<'
        · subst adjacent
          simp at first
        · rw [escapeTags_cons adjacent] at first
          exact adjacent (by simpa using first)
    rw [escapeTags_cons bracket, unescape_cons fun _ => noTag, onward, keepSlashes, if_neg fun bad => bracket bad.1]

end

/-! ## Headers that are written as they are -/

/-- Whether a character may stand in a tag of a header; a brace cuts the tag. -/
def isUncut (c : CodePoint) : Bool :=
  isTagChar c && c ≠ '\x7b' && c ≠ '\x7d'

/-- What is written for a header. -/
def shown (t : Text) : Text :=
  keepSlashes isUncut t

/-- A header that is written as it is: each opening angle bracket starts a tag that no brace cuts. -/
def Clear (t : Text) : Prop :=
  ∀ front rest, t = front ++ .char '<' :: rest →
    ∃ body after, rest = body ++ .char '>' :: after ∧ ∀ c ∈ body, isUncut c = true

theorem clear_of_not_mem {t : Text} (absent : .char '<' ∉ t) : Clear t := by
  rintro front rest rfl
  simp at absent

theorem clear_cons_iff {c : CodePoint} {t : Text} :
    Clear (c :: t) ↔ (c = '<' → closes isUncut t = true) ∧ Clear t := by
  rw [closes_iff (by decide)]
  constructor
  · intro clear
    refine ⟨?_, fun front rest whole => clear (c :: front) rest (by rw [whole, List.cons_append])⟩
    rintro rfl
    exact clear [] t rfl
  · rintro ⟨here, clear⟩ front rest whole
    rcases front with _ | ⟨d, front⟩
    · obtain ⟨rfl, rfl⟩ := List.cons.inj whole
      exact here rfl
    · exact clear front rest (List.cons.inj whole).2

theorem shown_eq_iff (t : Text) : shown t = t ↔ Clear t := by
  induction t with
  | nil => exact iff_of_true rfl fun front rest whole => by simp at whole
  | cons c t ih =>
      rw [clear_cons_iff, ← ih, shown, keepSlashes]
      split
      · next bad =>
        have longer : (keepSlashes isUncut t).length + 1 ≠ t.length :=
          fun same => by have := @length_le_keepSlashes isUncut t; omega
        simp only [bad.1, bad.2, Bool.false_eq_true, imp_false, not_true_eq_false, false_and, iff_false]
        intro same
        exact longer (by simpa using congrArg List.length same)
      · next good =>
        have closed : c = '<' → closes isUncut t = true := fun bracket => by simpa [bracket] using good
        simpa [shown] using fun _ => closed

end Markup

end LogStyle
