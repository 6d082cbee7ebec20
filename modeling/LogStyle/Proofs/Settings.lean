import LogStyle.Proofs.Text.Numeral
import LogStyle.Settings.Values

/-! # Settings of an environment

An environment has settings exactly when the value of each of its variables can be read. Otherwise all the values
that cannot be are named, and nothing else. Variables of other names do not matter.
-/

namespace LogStyle

namespace Settings

/-- A setting whose variable is set to what cannot be read, and what is told of it. -/
inductive Wrong (reader : ValueReader) (environment : List (Text × Text)) : Text → Text → Prop where
  | truth {name value why : Text} (one : name = "no_colors" ∨ name = "thread_safe")
      (given : given? environment name = some value) (unread : reader.truth value = .error why) :
      Wrong reader environment name why
  | integer {value why : Text} (given : given? environment "verbosity" = some value)
      (unread : reader.integer value = .error why) : Wrong reader environment "verbosity" why

/-- The settings that an environment has: each is what its variable is read as, or else its default. -/
structure Has (reader : ValueReader) (environment : List (Text × Text)) (s : Settings) : Prop where
  noColors : lookUp environment "no_colors" reader.truth false = .ok s.noColors
  threadSafe : lookUp environment "thread_safe" reader.truth true = .ok s.threadSafe
  verbosity : lookUp environment "verbosity" reader.integer 0 = .ok s.verbosity
  theme : s.theme = (given? environment "theme").getD "default"
  timeFormat : s.timeFormat = (given? environment "time_format").getD "%Y-%m-%d %H:%M:%S"

variable {reader : ValueReader} {environment : List (Text × Text)}

theorem given?_concat (environment : List (Text × Text)) (variableName value name : Text) :
    given? (environment ++ [(variableName, value)]) name =
      if variableName.lower = variableStart ++ name then some value else given? environment name := by
  simp only [given?, List.reverse_append, List.reverse_cons, List.reverse_nil, List.nil_append,
    List.cons_append, List.find?_cons]
  by_cases named : variableName.lower = variableStart ++ name <;> simp [named]

theorem mem_problem_lookUp {α : Type} {name : Text} {read : Text → Except Text α} {default : α} {e : Text × Text} :
    e ∈ problem (lookUp environment name read default) ↔
      ∃ value why, given? environment name = some value ∧ read value = .error why ∧ e = (name, why) := by
  cases given : given? environment name with
  | none => simp [lookUp, given, problem]
  | some value => cases result : read value <;> simp [lookUp, given, result, problem, Except.mapError]

theorem mem_problems {name why : Text} :
    (name, why) ∈ problems reader environment ↔ Wrong reader environment name why := by
  simp only [problems, List.mem_append, mem_problem_lookUp, Prod.mk.injEq]
  constructor
  · rintro ((⟨value, _, given, unread, rfl, rfl⟩ | ⟨value, _, given, unread, rfl, rfl⟩) |
      ⟨value, _, given, unread, rfl, rfl⟩)
    · exact .truth (.inl rfl) given unread
    · exact .truth (.inr rfl) given unread
    · exact .integer given unread
  · rintro (⟨rfl | rfl, given, unread⟩ | ⟨given, unread⟩)
    · exact .inl (.inl ⟨_, _, given, unread, rfl, rfl⟩)
    · exact .inl (.inr ⟨_, _, given, unread, rfl, rfl⟩)
    · exact .inr ⟨_, _, given, unread, rfl, rfl⟩

theorem lookUp_ok (name default : Text) :
    lookUp environment name .ok default = .ok ((given? environment name).getD default) := by
  cases given : given? environment name <;> simp [lookUp, given, Except.mapError]

theorem ofEnvironment_cases (reader : ValueReader) (environment : List (Text × Text)) :
    (∃ s, ofEnvironment reader environment = .ok s ∧ Has reader environment s ∧ problems reader environment = []) ∨
      problems reader environment ≠ [] ∧ ofEnvironment reader environment =
        .error ⟨.validation, Text.join "; " ((problems reader environment).map fun e => e.1 ++ ": " ++ e.2)⟩ := by
  cases colors : lookUp environment "no_colors" reader.truth false with
  | error e =>
      refine .inr ⟨fun none => ?_, ?_⟩
      · simp only [problems, colors, problem, List.cons_append, reduceCtorEq] at none
      · simp only [ofEnvironment, colors, bind, Except.bind]
  | ok noColors =>
      cases safe : lookUp environment "thread_safe" reader.truth true with
      | error e =>
          refine .inr ⟨fun none => ?_, ?_⟩
          · simp only [problems, colors, safe, problem, List.nil_append, List.cons_append, reduceCtorEq] at none
          · simp only [ofEnvironment, colors, safe, bind, Except.bind]
      | ok threadSafe =>
          cases detail : lookUp environment "verbosity" reader.integer 0 with
          | error e =>
              refine .inr ⟨fun none => ?_, ?_⟩
              · simp only [problems, colors, safe, detail, problem, List.nil_append, reduceCtorEq] at none
              · simp only [ofEnvironment, colors, safe, detail, bind, Except.bind]
          | ok verbosity =>
              refine .inl ⟨⟨noColors, threadSafe, verbosity, (given? environment "theme").getD "default",
                (given? environment "time_format").getD "%Y-%m-%d %H:%M:%S"⟩, ?_, ⟨colors, safe, detail, rfl, rfl⟩, ?_⟩
              · simp only [ofEnvironment, colors, safe, detail, lookUp_ok, bind, Except.bind, pure, Except.pure]
              · simp only [problems, colors, safe, detail, problem, List.nil_append]

/-- An environment has settings exactly when nothing is wrong with any. -/
theorem exists_ofEnvironment_iff :
    (∃ s, ofEnvironment reader environment = .ok s) ↔ ∀ name why, ¬ Wrong reader environment name why := by
  simp only [← mem_problems]
  rcases ofEnvironment_cases reader environment with ⟨s, read, -, none⟩ | ⟨some, failed⟩
  · simp [read, none]
  · obtain ⟨⟨name, why⟩, wrong⟩ := List.exists_mem_of_ne_nil _ some
    simp only [failed, reduceCtorEq, exists_false, false_iff]
    exact fun none => none name why wrong

def names : List Text :=
  ["no_colors", "thread_safe", "verbosity", "theme", "time_format"]

/-- A variable of no setting changes nothing. -/
theorem ofEnvironment_concat_of_other {variableName : Text} (value : Text)
    (other : ∀ name ∈ names, variableName.lower ≠ variableStart ++ name) :
    ofEnvironment reader (environment ++ [(variableName, value)]) = ofEnvironment reader environment := by
  have same : ∀ name ∈ names, given? (environment ++ [(variableName, value)]) name = given? environment name := by
    intro name member
    rw [given?_concat, if_neg (other name member)]
  have looked {α : Type} (name : Text) (member : name ∈ names) (read : Text → Except Text α) (default : α) :
      lookUp (environment ++ [(variableName, value)]) name read default = lookUp environment name read default := by
    rw [lookUp, lookUp, same name member]
  simp only [ofEnvironment, problems, looked _ (show ("no_colors" : Text) ∈ names by decide),
    looked _ (show ("thread_safe" : Text) ∈ names by decide), looked _ (show ("verbosity" : Text) ∈ names by decide),
    looked _ (show ("theme" : Text) ∈ names by decide), looked _ (show ("time_format" : Text) ∈ names by decide)]

/-! ## Values -/

theorem readTruth_eq_ok {t : Text} {b : Bool} :
    readTruth t = .ok b ↔ t.lower ∈ if b then yesWords else noWords := by
  have apart : ∀ word ∈ yesWords, word ∉ noWords := by decide
  unfold readTruth
  simp only [List.contains_eq_mem, decide_eq_true_eq]
  split
  · next yes =>
    cases b
    · simpa using apart _ yes
    · simpa using yes
  · next notYes =>
    split
    · next no => cases b <;> simp [no, notYes]
    · next notNo => cases b <;> simp [notNo, notYes]

theorem trim_of_around {before t after : Text} (front : ∀ c ∈ before, isAround c = true)
    (back : ∀ c ∈ after, isAround c = true) (inside : ∀ c ∈ t, isAround c = false) (some : t ≠ []) :
    trim (before ++ t ++ after) = t := by
  have stays {u v : Text} (first : ∀ c ∈ u, isAround c = false) (some : u ≠ []) :
      (u ++ v).dropWhile isAround = u ++ v := by
    obtain ⟨c, rest, rfl⟩ := List.exists_cons_of_ne_nil some
    exact List.dropWhile_cons_of_neg (by simp [first c List.mem_cons_self])
  unfold trim
  rw [List.append_assoc, List.dropWhile_append_of_pos front, stays inside some, List.reverse_append,
    List.dropWhile_append_of_pos (fun c member => back c (List.mem_reverse.1 member)), ← List.append_nil t.reverse,
    stays (fun c member => inside c (List.mem_reverse.1 member)) (by simpa using some), List.append_nil,
    List.reverse_reverse]

theorem not_isAround_of_isBasicDigit {c : CodePoint} (digit : isBasicDigit c = true) : isAround c = false :=
  of_isBasicDigit (fun c => isAround c = false) (by decide) digit

theorem readPlain_ofInt (n : Int) :
    readPlain (Text.ofInt n) =
      if Numeral.digitLimit < (Text.ofNat n.natAbs).length then .error .longInteger else .ok n := by
  have digits (m : Nat) : (Text.ofNat m).takeWhile isBasicDigit = Text.ofNat m :=
    List.takeWhile_eq_self_iff.2 fun _ => Text.isBasicDigit_of_mem_ofNat
  have bare (m : Nat) : ¬ ((Text.ofNat m).head? = some (.char '0') ∧ Text.ofNat m ≠ [.char '0']) := by
    rintro ⟨zero, more⟩
    obtain ⟨rest, spelled⟩ := List.head?_eq_some_iff.1 zero
    exact more (by rw [spelled, Text.eq_nil_of_ofNat spelled])
  have read (m : Nat) (negative : Bool) {t : Text} (signed : t = if negative then .char '-' :: Text.ofNat m else Text.ofNat m) :
      readPlain t = if Numeral.digitLimit < (Text.ofNat m).length then .error .longInteger
        else .ok (if negative then -(m : Int) else m) := by
    unfold readPlain
    subst signed
    cases negative with
    | true => simp [digits, bare, Text.ofNat_ne_nil, Numeral.value_ofNat]
    | false =>
        have unsigned : (Text.ofNat m).head? ≠ some (.char '-') := fun first =>
          Bool.false_ne_true (Text.isBasicDigit_of_mem_ofNat (List.mem_of_head? first))
        simp only [Bool.false_eq_true, if_false]
        split
        · next rest first => simp [first] at unsigned
        · simp [digits, bare, Text.ofNat_ne_nil, Numeral.value_ofNat]
  cases n with
  | ofNat m => exact read m false rfl
  | negSucc m => exact read (m + 1) true rfl

/-- An integer that is written out with blanks around it is read again. -/
theorem readInteger_ofInt {n : Int} (short : Numeral.isLong n = false) {before after : Text}
    (front : ∀ c ∈ before, isAround c = true) (back : ∀ c ∈ after, isAround c = true) :
    readInteger (before ++ Text.ofInt n ++ after) = .ok n := by
  have inside : ∀ c ∈ Text.ofInt n, isAround c = false := by
    have digits (m : Nat) : ∀ c ∈ Text.ofNat m, isAround c = false := fun c member =>
      not_isAround_of_isBasicDigit (Text.isBasicDigit_of_mem_ofNat member)
    cases n with
    | ofNat m => exact digits m
    | negSucc m => exact List.forall_mem_cons.2 ⟨by decide, digits _⟩
  have plain := readPlain_ofInt n
  have few : (Text.ofNat n.natAbs).length ≤ Numeral.digitLimit :=
    Numeral.length_ofNat_le ((Numeral.isLong_natAbs n).trans short)
  rw [if_neg (Nat.not_lt.2 few)] at plain
  unfold readInteger
  rw [trim_of_around front back inside (Text.ofInt_ne_nil n)]
  simp only [plain]

end Settings

end LogStyle
