import LogStyle.Program.Token
import LogStyle.Text.Literal

/-! # Literals that are written and read

Writing a text as a literal escapes quotes and backslashes only. So the quote that ends the literal is the
first one that a scanner takes for its end, and reading it gives the text back, unless the text has a line
end, the null character or a surrogate in it, which no literal can hold as they are.
-/

namespace LogStyle

namespace Literal

/-- The body of the literal of a text. -/
def encodeBody (t : Text) : Text :=
  t.flatMap encodeChar

/-- A text without the characters that a literal cannot hold as they are. -/
structure Writable (t : Text) : Prop where
  lineFeed : .char '\n' ∉ t
  carriageReturn : .char '\r' ∉ t
  null : .char '\x00' ∉ t
  encodable : t.isEncodable = true

instance (t : Text) : Decidable (Writable t) :=
  decidable_of_iff (.char '\n' ∉ t ∧ .char '\r' ∉ t ∧ .char '\x00' ∉ t ∧ t.isEncodable = true)
    ⟨fun ⟨lf, cr, nul, enc⟩ => ⟨lf, cr, nul, enc⟩, fun ⟨lf, cr, nul, enc⟩ => ⟨lf, cr, nul, enc⟩⟩

theorem encode_eq (t : Text) : encode t = .char '"' :: (encodeBody t ++ [.char '"']) := by
  simp [encode, encodeBody]

@[simp] theorem encodeBody_nil : encodeBody [] = [] := rfl

theorem encodeBody_append (t u : Text) : encodeBody (t ++ u) = encodeBody t ++ encodeBody u := by
  simp [encodeBody]

theorem encodeBody_escaped {c : CodePoint} (h : c = '"' ∨ c = '\\') (t : Text) :
    encodeBody (c :: t) = .char '\\' :: c :: encodeBody t := by
  simp [encodeBody, encodeChar, h]

theorem encodeBody_plain {c : CodePoint} (h : ¬ (c = '"' ∨ c = '\\')) (t : Text) :
    encodeBody (c :: t) = c :: encodeBody t := by
  simp only [not_or] at h
  simp [encodeBody, encodeChar, h.1, h.2]

theorem mem_encodeBody {c : CodePoint} (h : c ≠ '\\') {t : Text} : c ∈ encodeBody t ↔ c ∈ t := by
  induction t with
  | nil => simp
  | cons d t ih =>
      by_cases escaped : d = '"' ∨ d = '\\'
      · rw [encodeBody_escaped escaped]
        simp [h, ih]
      · rw [encodeBody_plain escaped]
        simp [ih]

theorem isEncodable_encodeBody (t : Text) : (encodeBody t).isEncodable = t.isEncodable := by
  have same : (encodeBody t).isEncodable = true ↔ t.isEncodable = true := by
    simp only [Text.isEncodable, List.all_eq_true, Bool.not_eq_true']
    constructor
    · intro all c member
      by_cases backslash : c = '\\'
      · rw [backslash]
        rfl
      · exact all c ((mem_encodeBody backslash).2 member)
    · intro all c member
      by_cases backslash : c = '\\'
      · rw [backslash]
        rfl
      · exact all c ((mem_encodeBody backslash).1 member)
  exact Bool.eq_iff_iff.2 same

theorem quotedBody?_encodeBody (t rest : Text) :
    Lexeme.quotedBody? (encodeBody t ++ .char '"' :: rest) = some (encodeBody t ++ [.char '"'], rest) := by
  induction t with
  | nil => simp [Lexeme.quotedBody?]
  | cons c t ih =>
      by_cases escaped : c = '"' ∨ c = '\\'
      · have other : c ≠ '\n' := by
          rintro rfl
          simp at escaped
        rw [encodeBody_escaped escaped]
        simp [Lexeme.quotedBody?, other, ih]
      · rw [encodeBody_plain escaped]
        simp only [not_or] at escaped
        rw [List.cons_append, Lexeme.quotedBody?]
        · simp [ih]
        · exact escaped.1
        · intro escape
          exact absurd escape escaped.2
        · intro d after escape
          exact absurd escape escaped.2

theorem unifyLineEnds_of_not_mem {t : Text} (h : .char '\r' ∉ t) : Text.unifyLineEnds t = t := by
  induction t with
  | nil => rfl
  | cons c t ih =>
      simp only [List.mem_cons, not_or] at h
      rw [Text.unifyLineEnds, ih h.2]
      · intro rest cr
        exact absurd cr.symm h.1
      · intro cr
        exact absurd cr.symm h.1

theorem brokenLine?_of_not_mem {t : Text} (h : .char '\n' ∉ t) (line : Nat) : brokenLine? line t = none := by
  induction line, t using brokenLine?.induct with
  | case1 => rfl
  | case2 => simp at h
  | case3 => simp at h
  | case4 line c rest other ih =>
      simp only [List.mem_cons, not_or] at h
      rw [brokenLine?]
      · exact ih h.2.2
      · exact other
  | case5 line c rest notBreak notEscapedBreak notEscape ih =>
      simp only [List.mem_cons, not_or] at h
      rw [brokenLine?]
      · exact ih h.2
      · exact notBreak
      · exact notEscapedBreak
      · exact notEscape

theorem decodeBody_encodeBody [CharNames] (t : Text) (offset : Nat) : decodeBody offset (encodeBody t) = .ok t := by
  induction t generalizing offset with
  | nil => simp [decodeBody]
  | cons c t ih =>
      by_cases escaped : c = '"' ∨ c = '\\'
      · have read : readEscape offset c (encodeBody t) = .ok ⟨[c], 2, 1⟩ := by
          rcases escaped with rfl | rfl <;> rfl
        rw [encodeBody_escaped escaped, decodeBody]
        simp [read, bind, Except.bind, pure, Except.pure, ih]
      · rw [encodeBody_plain escaped]
        simp only [not_or] at escaped
        rw [decodeBody]
        · simp [bind, Except.bind, pure, Except.pure, ih]
        · intro d after escape
          exact absurd escape escaped.2

theorem decode_encodeBody [CharNames] {t : Text} (h : Writable t) : decode (encodeBody t) = .ok t := by
  have nul : (encodeBody t).contains '\x00' = false := by
    simpa [mem_encodeBody] using h.null
  have unified : Text.unifyLineEnds (encodeBody t) = encodeBody t :=
    unifyLineEnds_of_not_mem (by simpa [mem_encodeBody] using h.carriageReturn)
  have whole : brokenLine? 1 (encodeBody t) = none :=
    brokenLine?_of_not_mem (by simpa [mem_encodeBody] using h.lineFeed) 1
  have encodable : (encodeBody t).surrogateRun? = none :=
    Text.surrogateRun?_eq_none_iff.2 ((isEncodable_encodeBody t).trans h.encodable)
  simp only [decode, encodable, nul, Bool.false_eq_true, if_false, unified, whole, decodeBody_encodeBody]

theorem exists_brokenLine? {t : Text} (h : .char '\n' ∈ t ∨ .char '\r' ∈ t) (line : Nat) :
    ∃ n, brokenLine? line (Text.unifyLineEnds (encodeBody t)) = some n := by
  induction t with
  | nil => simp at h
  | cons c t ih =>
      by_cases escaped : c = '"' ∨ c = '\\'
      · have later : .char '\n' ∈ t ∨ .char '\r' ∈ t := by
          rcases escaped with rfl | rfl <;> simpa using h
        obtain ⟨n, broken⟩ := ih later
        refine ⟨n, ?_⟩
        rw [encodeBody_escaped escaped]
        rcases escaped with rfl | rfl <;> simpa [Text.unifyLineEnds, brokenLine?] using broken
      · rw [encodeBody_plain escaped]
        by_cases feed : c = '\n'
        · subst feed
          exact ⟨line, by simp [Text.unifyLineEnds, brokenLine?]⟩
        by_cases cr : c = '\r'
        · subst cr
          refine ⟨line, ?_⟩
          cases encodeBody t with
          | nil => simp [Text.unifyLineEnds, brokenLine?]
          | cons d rest =>
              by_cases lf : d = '\n'
              · subst lf
                simp [Text.unifyLineEnds, brokenLine?]
              · rw [Text.unifyLineEnds]
                · simp [brokenLine?]
                · intro after same
                  exact absurd (List.head_eq_of_cons_eq same) lf
        · have later : .char '\n' ∈ t ∨ .char '\r' ∈ t := by
            simpa [Ne.symm feed, Ne.symm cr] using h
          obtain ⟨n, broken⟩ := ih later
          refine ⟨n, ?_⟩
          simp only [not_or] at escaped
          have unified : Text.unifyLineEnds (c :: encodeBody t) = c :: Text.unifyLineEnds (encodeBody t) := by
            simp [Text.unifyLineEnds, cr]
          rw [unified, brokenLine?]
          · exact broken
          · exact feed
          · intro rest escape
            exact absurd escape escaped.2
          · intro d rest escape
            exact absurd escape escaped.2

theorem exists_decode_eq_error [CharNames] {t : Text} (h : ¬ Writable t) : ∃ why, decode (encodeBody t) = .error why := by
  cases run : (encodeBody t).surrogateRun? with
  | some run => exact ⟨_, by simp only [decode, run]; rfl⟩
  | none =>
      have encodable := (isEncodable_encodeBody t).symm.trans (Text.surrogateRun?_eq_none_iff.1 run)
      by_cases nul : .char '\x00' ∈ t
      · have found : (encodeBody t).contains '\x00' = true := by
          simpa [mem_encodeBody] using nul
        exact ⟨.containsNull, by simp only [decode, run, found, if_true]⟩
      · have missing : (encodeBody t).contains '\x00' = false := by
          simpa [mem_encodeBody] using nul
        have breaks : .char '\n' ∈ t ∨ .char '\r' ∈ t := by
          rcases Classical.em (.char '\n' ∈ t) with lf | lf
          · exact .inl lf
          · refine .inr (Classical.byContradiction fun cr => ?_)
            exact h ⟨lf, cr, nul, encodable⟩
        obtain ⟨n, broken⟩ := exists_brokenLine? breaks 1
        exact ⟨.unterminated n, by simp only [decode, run, missing, Bool.false_eq_true, if_false, broken]⟩

end Literal

end LogStyle
