import LogStyle.Proofs.Formatter.Faithful

/-! # Arguments that are written and read

An argument that is written as a literal is read as it is meant, unless the literal cannot hold it. In a format it also
must not have fields in it: fields are written as directives before a format is read, those in the arguments of
directives too. A field with a body ends the literal it stands in, and what follows becomes one more argument; only a
field without a body is left as it is. So an argument is taken as meant exactly when all its fields are without a body.
-/

namespace LogStyle

namespace Text

/-- Whether all fields that start in a text are without a body. -/
def hollow : Text → Bool
  | .char '$' :: .char '\x7b' :: .char '\x7d' :: rest => hollow rest
  | .char '$' :: .char '\x7b' :: _ => false
  | _ :: rest => hollow rest
  | [] => true

theorem head?_encodeBody_append {d : CodePoint} (quote : d ≠ '"') (escape : d ≠ '\\') {t : Text}
    (other : t.head? ≠ some d)
    (w : Text) : (Literal.encodeBody t ++ .char '"' :: w).head? ≠ some d := by
  cases t with
  | nil => simpa using Ne.symm quote
  | cons c t =>
      by_cases escaped : c = '"' ∨ c = '\\'
      · rw [Literal.encodeBody_escaped escaped]
        simpa using Ne.symm escape
      · rw [Literal.encodeBody_plain escaped]
        simpa using other

theorem fieldBody?_of_head? {t : Text} (other : t.head? ≠ some (.char '\x7b')) : Segment.fieldBody? t = none := by
  unfold Segment.fieldBody?
  split
  · simp at other
  · rfl

theorem hollow_of_not_mem {t : Text} (noDollar : .char '$' ∉ t) : hollow t = true := by
  induction t using hollow.induct with
  | case1 rest | case2 rest => exact absurd List.mem_cons_self noDollar
  | case3 c rest notEmpty notField ih =>
      rw [hollow]
      · exact ih fun member => noDollar (List.mem_cons_of_mem _ member)
      · exact notEmpty
      · exact notField
  | case4 => rfl

theorem fieldsAsDirectives_encodeBody_cons {c : CodePoint} {t : Text}
    (plain : c = '$' → t.head? ≠ some (.char '\x7b')) (w : Text) :
    fieldsAsDirectives (Literal.encodeBody (c :: t) ++ .char '"' :: w) =
      Literal.encodeBody [c] ++ fieldsAsDirectives (Literal.encodeBody t ++ .char '"' :: w) := by
  by_cases escaped : c = '"' ∨ c = '\\'
  · have noDollar : .char '$' ∉ [.char '\\', c] := by
      rcases escaped with rfl | rfl <;> decide
    rw [Literal.encodeBody_escaped escaped, Literal.encodeBody_escaped escaped]
    exact fieldsAsDirectives_plain_append noDollar _
  · rw [Literal.encodeBody_plain escaped, Literal.encodeBody_plain escaped]
    by_cases dollar : c = '$'
    · subst dollar
      have missing := fieldBody?_of_head? (head?_encodeBody_append (by decide) (by decide) (plain rfl) w)
      exact fieldsAsDirectives_dollar missing
    · exact fieldsAsDirectives_cons dollar _

theorem fieldsAsDirectives_of_hollow {t : Text} (isHollow : hollow t = true) (w : Text) :
    fieldsAsDirectives (Literal.encodeBody t ++ .char '"' :: w) =
      Literal.encodeBody t ++ fieldsAsDirectives (.char '"' :: w) := by
  induction t using hollow.induct with
  | case1 rest ih =>
      have field : Segment.fieldBody? (.char '\x7b' :: .char '\x7d' :: (Literal.encodeBody rest ++ .char '"' :: w)) =
          some ([], Literal.encodeBody rest ++ .char '"' :: w) := rfl
      have written : Literal.encodeBody (.char '$' :: .char '\x7b' :: .char '\x7d' :: rest) =
          .char '$' :: .char '\x7b' :: .char '\x7d' :: Literal.encodeBody rest := rfl
      rw [written, List.cons_append, List.cons_append, List.cons_append, fieldsAsDirectives_field field,
        ih (by simpa [hollow] using isHollow)]
      rfl
  | case2 rest other => simp [hollow] at isHollow
  | case3 c rest notEmpty notField ih =>
      have plain : c = '$' → rest.head? ≠ some (.char '\x7b') := by
        rintro rfl first
        obtain ⟨u, rfl⟩ := List.head?_eq_some_iff.1 first
        exact notField u rfl rfl
      have later : hollow rest = true := by
        rwa [hollow] at isHollow
        · exact notEmpty
        · exact notField
      rw [fieldsAsDirectives_encodeBody_cons plain, ih later, ← List.append_assoc, ← Literal.encodeBody_append]
      rfl
  | case4 => rfl

theorem exists_field_of_not_hollow {t : Text} (isHollow : hollow t = false) {w : Text} (close : .char '\x7d' ∈ w) :
    ∃ front body after, body ≠ [] ∧ .char '\x7d' ∉ body ∧
      fieldsAsDirectives (Literal.encodeBody t ++ .char '"' :: w) =
        Literal.encodeBody front ++ (Segment.field body).directive ++ after := by
  have behind (c : CodePoint) {t : Text} (plain : c = '$' → t.head? ≠ some (.char '\x7b'))
      (later : ∃ front body after, body ≠ [] ∧ .char '\x7d' ∉ body ∧
        fieldsAsDirectives (Literal.encodeBody t ++ .char '"' :: w) =
          Literal.encodeBody front ++ (Segment.field body).directive ++ after) :
      ∃ front body after, body ≠ [] ∧ .char '\x7d' ∉ body ∧
        fieldsAsDirectives (Literal.encodeBody (c :: t) ++ .char '"' :: w) =
          Literal.encodeBody front ++ (Segment.field body).directive ++ after := by
    obtain ⟨front, body, after, full, closed, written⟩ := later
    refine ⟨[c] ++ front, body, after, full, closed, ?_⟩
    rw [fieldsAsDirectives_encodeBody_cons plain, written, Literal.encodeBody_append]
    simp only [List.append_assoc]
  induction t using hollow.induct with
  | case1 rest ih =>
      obtain ⟨front, body, after, full, closed, written⟩ := ih (by simpa [hollow] using isHollow)
      have field : Segment.fieldBody? (.char '\x7b' :: .char '\x7d' :: (Literal.encodeBody rest ++ .char '"' :: w)) =
          some ([], Literal.encodeBody rest ++ .char '"' :: w) := rfl
      have whole : Literal.encodeBody (.char '$' :: .char '\x7b' :: .char '\x7d' :: rest) =
          .char '$' :: .char '\x7b' :: .char '\x7d' :: Literal.encodeBody rest := rfl
      refine ⟨.char '$' :: .char '\x7b' :: .char '\x7d' :: front, body, after, full, closed, ?_⟩
      rw [whole, List.cons_append, List.cons_append, List.cons_append, fieldsAsDirectives_field field, written]
      rfl
  | case2 rest other =>
      have inside : .char '\x7d' ∈ Literal.encodeBody rest ++ .char '"' :: w := by simp [close]
      have unclosed : rest.head? ≠ some (.char '\x7d') := by
        intro first
        obtain ⟨u, rfl⟩ := List.head?_eq_some_iff.1 first
        exact other u rfl
      cases found : Text.cut? '\x7d' (Literal.encodeBody rest ++ .char '"' :: w) with
      | none => exact absurd inside (Text.cut?_eq_none.1 found)
      | some parts =>
          obtain ⟨body, after⟩ := parts
          have field : Segment.fieldBody? (.char '\x7b' :: (Literal.encodeBody rest ++ .char '"' :: w)) = some (body, after) :=
            found
          have whole : Literal.encodeBody (.char '$' :: .char '\x7b' :: rest) = .char '$' :: .char '\x7b' :: Literal.encodeBody rest := rfl
          refine ⟨[], body, after.fieldsAsDirectives, ?_, Text.not_mem_of_cut? found, ?_⟩
          · rintro rfl
            have first := head?_encodeBody_append (by decide) (by decide) unclosed w
            rw [← Lexeme.append_of_cut? found] at first
            simp at first
          · rw [whole, List.cons_append, List.cons_append, fieldsAsDirectives_field field]
            rfl
  | case3 c rest notEmpty notField ih =>
      have plain : c = '$' → rest.head? ≠ some (.char '\x7b') := by
        rintro rfl first
        obtain ⟨u, rfl⟩ := List.head?_eq_some_iff.1 first
        exact notField u rfl rfl
      refine behind c plain (ih ?_)
      rwa [hollow] at isHollow
      · exact notEmpty
      · exact notField
  | case4 => simp [hollow] at isHollow

end Text

namespace Node

variable {knows : Text → Bool}

/-- A call with one argument that is written as a literal is read as that call if the literal can hold the
    argument, and cannot be read otherwise. -/
theorem read_encode [CharNames] {name : Text} (named : Lexeme.IsName name) (known : knows name = true) (t : Text) :
    ((.char '\n' ∉ t ∧ .char '\r' ∉ t ∧ .char '\x00' ∉ t ∧ t.isEncodable = true) →
      Node.read knows ("\x7b" ++ name ++ " " ++ Literal.encode t ++ "\x7d") = .ok [.call name [.text t] 0]) ∧
    (¬ (.char '\n' ∉ t ∧ .char '\r' ∉ t ∧ .char '\x00' ∉ t ∧ t.isEncodable = true) → ∃ e,
      Node.read knows ("\x7b" ++ name ++ " " ++ Literal.encode t ++ "\x7d") = .error e ∧ e.fault.kind = .compile) := by
  have source : ("\x7b" ++ name ++ " " ++ Literal.encode t ++ "\x7d" : Text) =
      .char '\x7b' :: (name ++ .char ' ' :: (Literal.encode t ++ [.char '\x7d'])) := by
    simp only [List.append_assoc]
    rfl
  obtain ⟨reads, fails⟩ := readAt_callWith named known 0 t []
  rw [source]
  constructor
  · rintro ⟨lineFeed, carriageReturn, null, encodable⟩
    have read := reads ⟨lineFeed, carriageReturn, null, encodable⟩
    rw [readAt_nil] at read
    exact read
  · intro unwritable
    obtain ⟨why, failed⟩ := fails fun writable =>
      unwritable ⟨writable.lineFeed, writable.carriageReturn, writable.null, writable.encodable⟩
    exact ⟨_, failed, rfl⟩

section

attribute [local instance] CharNames.none

/-- A backslash in front of a quote, and one at the end, are read as they are meant; a line feed behind a backslash is
    not. -/
theorem read_encode_backslashes :
    Lexeme.IsName "echo" ∧
      Node.read (· = "echo") "\x7becho \"\\\\\\\"n\\\\\"\x7d" = .ok [.call "echo" [.text "\\\"n\\"] 0] ∧
      ∃ e, Node.read (· = "echo") "\x7becho \"\\\\\n\"\x7d" = .error e ∧ e.fault.kind = .compile := by
  have named : Lexeme.IsName "echo" := by decide
  exact ⟨named, (read_encode named rfl "\\\"n\\").1 (by decide), (read_encode named rfl "\\\n").2 (by decide)⟩

/-- A surrogate is none of the characters that end a literal, and yet no literal can hold it. -/
theorem not_read_encode_surrogate :
    let t : Text := [.surrogate 0]
    (.char '\n' ∉ t ∧ .char '\r' ∉ t ∧ .char '\x00' ∉ t) ∧ Lexeme.IsName "echo" ∧
      Node.read (· = "echo") ("\x7becho " ++ Literal.encode t ++ "\x7d") =
        .error (.badText (Literal.encode t) 6 (.unencodable ⟨1, .surrogate 0, 1⟩)) :=
  ⟨by decide, by decide, by decide +kernel⟩

end

theorem exists_call_of_field [CharNames] {name : Text} (named : Lexeme.IsName name) {position : Nat}
    {front body after : Text}
    (full : body ≠ []) (closed : .char '\x7d' ∉ body) {nodes : List Node}
    (read : readAt knows position (.char '\x7b' :: (name ++ .char ' ' :: .char '"' ::
      (Literal.encodeBody front ++ (Segment.field body).directive ++ after))) = .ok nodes) :
    ∃ x y args more, nodes = .call name (x :: y :: args) position :: more := by
  have field : (Segment.field body).directive = "\x7bfield " ++ Literal.encode body ++ "\x7d" := by
    cases body with
    | nil => exact absurd rfl full
    | cons c body => rfl
  -- The quote that opens the body of the field closes the literal in front of it.
  have source : .char '"' :: (Literal.encodeBody front ++ (Segment.field body).directive ++ after) =
      Literal.encode (front ++ "\x7bfield ") ++ (Literal.encodeBody body ++ .char '"' :: .char '\x7d' :: after) := by
    rw [field, Literal.encode_eq, Literal.encode_eq, Literal.encodeBody_append]
    have plain : Literal.encodeBody "\x7bfield " = ("\x7bfield " : Text) := by decide
    rw [plain]
    simp only [List.append_assoc, List.cons_append, List.nil_append]
    rfl
  have blank : isBlank '"' = false := by decide
  rw [readAt_open named (by decide), readInside_space blank, source] at read
  obtain ⟨reads, fails⟩ := @readInside_literal knows _ ⟨name, [], position⟩ (position + 1 + name.length + 1)
    (front ++ "\x7bfield ") (Literal.encodeBody body ++ .char '"' :: .char '\x7d' :: after)
  by_cases writable : Literal.Writable (front ++ "\x7bfield ")
  · rw [reads writable, readInside_blanks] at read
    have dropped : (Literal.encodeBody body ++ .char '"' :: .char '\x7d' :: after).dropWhile isBlank =
        (Literal.encodeBody body).dropWhile isBlank ++ .char '"' :: .char '\x7d' :: after := by
      rw [List.dropWhile_append]
      split
      · next empty => rw [List.isEmpty_iff.1 empty, List.dropWhile_cons_of_neg (by simp [blank]), List.nil_append]
      · rfl
    rw [dropped] at read
    cases left : (Literal.encodeBody body).dropWhile isBlank with
    | nil =>
        rw [left] at read
        obtain ⟨y, args, more, rfl⟩ := exists_arg_of_readInside rfl blank (by decide) read
        exact ⟨_, y, args, more, rfl⟩
    | cons c more =>
        rw [left] at read
        have word : isBlank c = false := by
          have head := List.head?_dropWhile_not isBlank (Literal.encodeBody body)
          simpa [left] using head
        have member : c ∈ Literal.encodeBody body :=
          (List.dropWhile_suffix isBlank).subset (left ▸ List.mem_cons_self)
        have inner : c ≠ '\x7d' := by
          rintro rfl
          exact closed ((Literal.mem_encodeBody (by decide)).1 member)
        obtain ⟨y, args, more, rfl⟩ := exists_arg_of_readInside rfl word inner read
        exact ⟨_, y, args, more, rfl⟩
  · obtain ⟨why, failed⟩ := fails writable
    rw [failed] at read
    cases read

end Node

end LogStyle
