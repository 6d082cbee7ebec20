import LogStyle.Host.Fields
import LogStyle.Outcome
import LogStyle.Proofs.Text.Numeral

/-! # What messages are filled to

A message that is written from parts, texts with their braces doubled and fields between them, is split into these
parts again. So it can be said what it is filled to: fields without a number take the arguments in order, other
fields each take their own, and the two sorts cannot be mixed.
-/

namespace LogStyle

namespace Message

variable {a : Arguments} {n : Numbering} {path rest t : Text}

def doubled (t : Text) : Text :=
  t.flatMap fun (c : CodePoint) => if c = '\x7b' || c = '\x7d' then [c, c] else [c]

/-- A path that only names an argument. -/
def IsPlain (path : Text) : Prop :=
  ∀ c ∈ path, c ∉ ("\x7b\x7d:![." : Text)

/-- A part of a message. -/
inductive Part where
  | text (t : Text)
  | field (path : Text)

namespace Part

def written : Part → Text
  | .text t => doubled t
  | .field path => .char '\x7b' :: path ++ [.char '\x7d']

def pieces : Part → List Piece
  | .text t => t.map .char
  | .field path => [.field { path }]

def IsSound : Part → Prop
  | .text _ => True
  | .field path => IsPlain path

end Part

/-- A message of some parts. -/
def ofParts (parts : List Part) : Text :=
  parts.flatMap Part.written

/-! ## Splitting -/

theorem split_cons_plain {c : CodePoint} (opening : c ≠ '\x7b') (closing : c ≠ '\x7d') :
    split (c :: rest) = (.char c :: (split rest).1, (split rest).2) := by
  rw [split.eq_def]
  simp only [if_neg opening, if_neg closing]

theorem split_doubled_opening :
    split (.char '\x7b' :: .char '\x7b' :: rest) = (.char (.char '\x7b') :: (split rest).1, (split rest).2) := by
  rw [split.eq_def]
  simp

theorem split_doubled_closing :
    split (.char '\x7d' :: .char '\x7d' :: rest) = (.char (.char '\x7d') :: (split rest).1, (split rest).2) := by
  rw [split.eq_def]
  simp

theorem split_doubled_append (t rest : Text) :
    split (doubled t ++ rest) = (t.map .char ++ (split rest).1, (split rest).2) := by
  induction t with
  | nil => exact Prod.ext rfl rfl
  | cons c t ih =>
      have step : doubled (c :: t) ++ rest =
          (if c = '\x7b' || c = '\x7d' then [c, c] else [c]) ++ (doubled t ++ rest) := by
        simp only [doubled, List.flatMap_cons, List.append_assoc]
      rw [step]
      by_cases opening : c = '\x7b'
      · subst opening
        show split (.char '\x7b' :: .char '\x7b' :: (doubled t ++ rest)) = _
        rw [split_doubled_opening, ih]
        rfl
      · by_cases closing : c = '\x7d'
        · subst closing
          show split (.char '\x7d' :: .char '\x7d' :: (doubled t ++ rest)) = _
          rw [split_doubled_closing, ih]
          rfl
        · rw [if_neg (by simp [opening, closing]), List.singleton_append, split_cons_plain opening closing, ih]
          rfl

theorem readPath_append (plain : IsPlain path) (rest : Text) :
    readPath false (path ++ .char '\x7d' :: rest) = .ok (path, .char '\x7d', rest) := by
  induction path with
  | nil => rfl
  | cons c path ih =>
      have later := ih fun d member => plain d (List.mem_cons_of_mem _ member)
      have own : c ≠ '\x7b' ∧ c ≠ '\x7d' ∧ c ≠ ':' ∧ c ≠ '!' ∧ c ≠ '[' ∧ c ≠ '.' := by
        simpa using plain c List.mem_cons_self
      simp [readPath, own, later, Except.map]

theorem readField_append (plain : IsPlain path) (rest : Text) :
    readField (path ++ .char '\x7d' :: rest) = .ok ({ path }, rest) := by
  simp only [readField, readPath_append plain]
  rfl

theorem split_opening {c : CodePoint} {f : Field} {left : Text} (single : c ≠ '\x7b')
    (read : readField (c :: rest) = .ok (f, left)) :
    split (.char '\x7b' :: c :: rest) = (.field f :: (split left).1, (split left).2) := by
  rw [split.eq_def]
  simp only [if_true]
  split
  · next other =>
      rw [read] at other
      cases other
      rfl
  · next fails =>
      rw [read] at fails
      cases fails

theorem split_field_append (plain : IsPlain path) (rest : Text) :
    split ((Part.field path).written ++ rest) = (.field { path } :: (split rest).1, (split rest).2) := by
  have read := readField_append plain rest
  have spelled : (Part.field path).written ++ rest = .char '\x7b' :: (path ++ .char '\x7d' :: rest) := by
    simp [Part.written]
  rw [spelled]
  cases path with
  | nil => exact split_opening (by decide) read
  | cons c path => exact split_opening (fun same => plain c List.mem_cons_self (by rw [same]; decide)) read

theorem split_ofParts {parts : List Part} (sound : ∀ p ∈ parts, p.IsSound) :
    split (ofParts parts) = (parts.flatMap Part.pieces, none) := by
  induction parts with
  | nil => rw [ofParts, List.flatMap_nil, split]; exact Prod.ext rfl rfl
  | cons p parts ih =>
      have later := ih fun q member => sound q (List.mem_cons_of_mem _ member)
      have own := sound p List.mem_cons_self
      rw [ofParts, List.flatMap_cons, List.flatMap_cons]
      cases p with
      | text t => exact (split_doubled_append t _).trans (by rw [← ofParts, later]; rfl)
      | field path => exact (split_field_append own _).trans (by rw [← ofParts, later]; rfl)

/-! ## Filling in -/

section
variable {expand : Numbering → Text → Except Fault (Text × Numbering)}

theorem fillPieces_cons (p : Piece) (pieces : List Piece) :
    fillPieces expand a n (p :: pieces) =
      (fillPiece expand a n p).bind fun first =>
        (fillPieces expand a first.2 pieces).map fun filled => (first.1 ++ filled.1, filled.2) := by
  rw [fillPieces]
  cases fillPiece expand a n p with
  | error fault => rfl
  | ok first =>
      show (fillPieces expand a first.2 pieces >>= fun filled => pure (first.1 ++ filled.1, filled.2)) =
        (fillPieces expand a first.2 pieces).map fun filled => (first.1 ++ filled.1, filled.2)
      cases fillPieces expand a first.2 pieces <;> rfl

theorem fillPieces_chars (t : Text) (pieces : List Piece) :
    fillPieces expand a n (t.map .char ++ pieces) =
      (fillPieces expand a n pieces).map fun filled => (t ++ filled.1, filled.2) := by
  induction t with
  | nil => cases h : fillPieces expand a n pieces <;> simp [h, Except.map]
  | cons c t ih =>
      rw [List.map_cons, List.cons_append, fillPieces_cons]
      show (fillPieces expand a n (t.map .char ++ pieces)).map _ = _
      rw [ih]
      cases fillPieces expand a n pieces <;> rfl

theorem fillPiece_field (plain : IsPlain path) :
    fillPiece expand a n (.field { path }) = (argument a n path).map fun found => (found.1.shown, found.2) := by
  have steps : ∀ c ∈ path, startsStep c = false := by
    intro c member
    have own : c ≠ '\x7b' ∧ c ≠ '\x7d' ∧ c ≠ ':' ∧ c ≠ '!' ∧ c ≠ '[' ∧ c ≠ '.' := by simpa using plain c member
    simp [startsStep, own]
  have name : path.takeWhile (fun c => !startsStep c) = path :=
    List.takeWhile_eq_self_iff.2 fun c member => by rw [steps c member]; rfl
  simp only [fillPiece, name, List.drop_length]
  cases argument a n path with
  | error fault => rfl
  | ok found => cases path <;> rfl

theorem fillPieces_field (plain : IsPlain path) (pieces : List Piece) :
    fillPieces expand a n (.field { path } :: pieces) =
      (argument a n path).bind fun found =>
        (fillPieces expand a found.2 pieces).map fun filled => (found.1.shown ++ filled.1, filled.2) := by
  rw [fillPieces_cons, fillPiece_field plain]
  cases argument a n path <;> rfl

end

theorem formatted_ofParts {parts : List Part} (sound : ∀ p ∈ parts, p.IsSound) :
    formatted a (ofParts parts) =
      (fillPieces (fillTo a 1) a .start (parts.flatMap Part.pieces)).map (·.1) := by
  rw [formatted, fillTo, split_ofParts sound]
  dsimp only
  generalize fillPieces (fillTo a 1) a .start (parts.flatMap Part.pieces) = filled
  cases filled <;> rfl

/-- A text whose braces are doubled is filled to itself, whatever the arguments. -/
theorem formatted_doubled (a : Arguments) (t : Text) : formatted a (doubled t) = .ok t := by
  have sound : ∀ p ∈ [Part.text t], p.IsSound := by simp [Part.IsSound]
  have whole : formatted a _ = _ := formatted_ofParts sound
  have one : ofParts [.text t] = doubled t := by simp [ofParts, Part.written]
  have pieces : [Part.text t].flatMap Part.pieces = t.map Piece.char ++ [] := by simp [Part.pieces]
  rw [one, pieces, fillPieces_chars] at whole
  rw [whole]
  simp [fillPieces, Except.map]

/-! ## Arguments -/

section
variable {v : Value} {m : Numbering}

theorem ne_nil_of_number? {i : Nat} (number : number? path = .ok (some i)) : path ≠ [] := by
  rintro rfl
  cases number

theorem argument_number_iff {i : Nat} (number : number? path = .ok (some i)) :
    argument a n path = .ok (v, m) ↔ (∀ j, n ≠ .automatic j) ∧ m = .manual ∧ a.positional[i]? = some v := by
  simp only [argument, number, Except.mapError, bind, Except.bind]
  cases n <;> cases a.positional[i]? <;> simp [eq_comm, and_comm, throw, throwThe, MonadExceptOf.throw]

theorem argument_blank_iff :
    argument a n [] = .ok (v, m) ↔
      ∃ i, (n = .start ∧ i = 0 ∨ n = .automatic i) ∧ m = .automatic (i + 1) ∧ a.positional[i]? = some v := by
  have blank : number? [] = .ok none := rfl
  simp only [argument, blank, Except.mapError, bind, Except.bind, if_true]
  cases n with
  | start => cases h : a.positional[0]? <;> simp [h, eq_comm, and_comm]
  | manual => simp [throw, throwThe, MonadExceptOf.throw]
  | automatic i => cases h : a.positional[i]? <;> simp [h, eq_comm, and_comm]

theorem argument_name_iff (name : number? path = .ok none) (given : path ≠ []) :
    argument a n path = .ok (v, m) ↔ m = n ∧ (a.named.find? fun entry => entry.1 = path).map (·.2) = some v := by
  simp only [argument, name, Except.mapError, bind, Except.bind, if_neg given]
  cases a.named.find? fun entry => entry.1 = path with
  | none => simp [throw, throwThe, MonadExceptOf.throw]
  | some entry => simp [pure, Except.pure, eq_comm, and_comm]

theorem argument_problem {p : Problem} (problem : number? path = .error p) : argument a n path ≠ .ok (v, m) := by
  simp [argument, problem, Except.mapError, bind, Except.bind]

theorem isPlain_ofNat (i : Nat) : IsPlain (Text.ofNat i) := by
  intro c member special
  have digit := Text.isBasicDigit_of_mem_ofNat member
  have none : ∀ d ∈ ("\x7b\x7d:![." : Text), isBasicDigit d = false := by decide
  rw [none c special] at digit
  cases digit

theorem number?_ofNat {i : Nat} (fits : i ≤ Spec.numberLimit) : number? (Text.ofNat i) = .ok (some i) := by
  have whole : (Text.ofNat i).takeWhile isDecimal = Text.ofNat i :=
    List.takeWhile_eq_self_iff.2 fun c member => isDecimal_of_isBasicDigit (Text.isBasicDigit_of_mem_ofNat member)
  simp [number?, whole, Numeral.value_ofNat, Nat.not_lt.2 fits, Text.ofNat_ne_nil]

theorem argument_cases (found : argument a n path = .ok (v, m)) :
    (path = [] ∧ n ≠ .manual ∧ ∃ i, m = .automatic i) ∨
      ((∃ i, number? path = .ok (some i)) ∧ (∀ i, n ≠ .automatic i) ∧ m = .manual) ∨
      (path ≠ [] ∧ number? path = .ok none ∧ m = n) := by
  cases number : number? path with
  | error problem => exact absurd found (argument_problem number)
  | ok index =>
      cases index with
      | some i =>
          obtain ⟨manual, rfl, -⟩ := (argument_number_iff number).1 found
          exact .inr (.inl ⟨⟨i, rfl⟩, manual, rfl⟩)
      | none =>
          by_cases blank : path = []
          · subst blank
            obtain ⟨i, counted, rfl, -⟩ := argument_blank_iff.1 found
            exact .inl ⟨rfl, by rintro rfl; simp at counted, _, rfl⟩
          · exact .inr (.inr ⟨blank, rfl, ((argument_name_iff number blank).1 found).1⟩)

end

/-! ## What becomes of the fields -/

section
variable {expand : Numbering → Text → Except Fault (Text × Numbering)} {m : Numbering} {parts : List Part} {u : Text}

theorem fill_nil_iff : fillPieces expand a n (([] : List Part).flatMap Part.pieces) = .ok (u, m) ↔ u = [] ∧ m = n := by
  simp [fillPieces, eq_comm]

theorem fill_text_iff :
    fillPieces expand a n ((Part.text t :: parts).flatMap Part.pieces) = .ok (u, m) ↔
      ∃ w, fillPieces expand a n (parts.flatMap Part.pieces) = .ok (w, m) ∧ t ++ w = u := by
  rw [List.flatMap_cons, Part.pieces, fillPieces_chars, Outcome.map_eq_ok]
  exact ⟨fun ⟨filled, done, same⟩ => by cases same; exact ⟨_, done, rfl⟩,
    fun ⟨w, done, same⟩ => ⟨(w, m), done, by rw [same]⟩⟩

theorem fill_field_iff (plain : IsPlain path) :
    fillPieces expand a n ((Part.field path :: parts).flatMap Part.pieces) = .ok (u, m) ↔
      ∃ v k, argument a n path = .ok (v, k) ∧
        ∃ w, fillPieces expand a k (parts.flatMap Part.pieces) = .ok (w, m) ∧ v.shown ++ w = u := by
  rw [List.flatMap_cons, Part.pieces, List.singleton_append, fillPieces_field plain]
  constructor
  · intro done
    obtain ⟨⟨v, k⟩, found, done⟩ := Outcome.bind_eq_ok.1 done
    obtain ⟨⟨w, _⟩, filled, same⟩ := Outcome.map_eq_ok.1 done
    cases same
    exact ⟨v, k, found, w, filled, rfl⟩
  · rintro ⟨v, k, found, w, filled, rfl⟩
    exact Outcome.bind_eq_ok.2 ⟨(v, k), found, Outcome.map_eq_ok.2 ⟨(w, m), filled, rfl⟩⟩

end

section
variable {parts : List Part} {u : Text}

theorem formatted_ofParts_eq_ok (sound : ∀ p ∈ parts, p.IsSound) :
    formatted a (ofParts parts) = .ok u ↔
      ∃ m, fillPieces (fillTo a 1) a .start (parts.flatMap Part.pieces) = .ok (u, m) := by
  rw [formatted_ofParts sound, Outcome.map_eq_ok]
  exact ⟨fun ⟨filled, done, same⟩ => ⟨filled.2, by rw [done, ← same]⟩, fun ⟨m, done⟩ => ⟨(u, m), done, rfl⟩⟩

/-- What parts come to whose fields take some values one after another; nothing if there are too few. -/
def inOrder? : List Part → List Value → Option Text
  | [], _ => some []
  | .text t :: parts, values => (inOrder? parts values).map (t ++ ·)
  | .field _ :: parts, v :: values => (inOrder? parts values).map (v.shown ++ ·)
  | .field _ :: _, [] => none

theorem fill_blank_iff {expand : Numbering → Text → Except Fault (Text × Numbering)} {i : Nat}
    (blank : ∀ path, .field path ∈ parts → path = []) (at_ : n = .start ∧ i = 0 ∨ n = .automatic i) :
    (∃ m, fillPieces expand a n (parts.flatMap Part.pieces) = .ok (u, m)) ↔
      inOrder? parts (a.positional.drop i) = some u := by
  induction parts generalizing n i u with
  | nil =>
      simp only [fill_nil_iff, inOrder?, Option.some.injEq]
      exact ⟨fun ⟨_, empty, _⟩ => empty.symm, fun empty => ⟨n, empty.symm, rfl⟩⟩
  | cons p parts ih =>
      have later := fun path member => blank path (List.mem_cons_of_mem p member)
      cases p with
      | text t =>
          simp only [fill_text_iff, inOrder?, Option.map_eq_some_iff, ← ih later at_]
          exact ⟨fun ⟨m, w, done, same⟩ => ⟨w, ⟨m, done⟩, same⟩, fun ⟨w, ⟨m, done⟩, same⟩ => ⟨m, w, done, same⟩⟩
      | field path =>
          obtain rfl := blank path List.mem_cons_self
          have only : ∀ {j}, (n = .start ∧ j = 0 ∨ n = .automatic j) → j = i := by
            intro j other
            rcases at_ with ⟨rfl, rfl⟩ | rfl <;> rcases other with ⟨same, rfl⟩ | same <;> cases same <;> rfl
          have next : ∀ v, a.positional[i]? = some v → ∀ w,
              inOrder? (.field [] :: parts) (a.positional.drop i) = some w ↔
                ∃ m w', fillPieces expand a (.automatic (i + 1)) (parts.flatMap Part.pieces) = .ok (w', m) ∧
                  v.shown ++ w' = w := by
            intro v found w
            obtain ⟨inside, rfl⟩ := List.getElem?_eq_some_iff.1 found
            rw [List.drop_eq_getElem_cons inside, inOrder?, Option.map_eq_some_iff]
            simp only [← ih later (.inr rfl)]
            exact ⟨fun ⟨w', ⟨m, done⟩, same⟩ => ⟨m, w', done, same⟩, fun ⟨m, w', done, same⟩ => ⟨w', ⟨m, done⟩, same⟩⟩
          have plain : IsPlain [] := fun _ member => absurd member List.not_mem_nil
          simp only [fill_field_iff plain, argument_blank_iff]
          constructor
          · rintro ⟨m, v, _, ⟨j, counted, rfl, found⟩, w, done, same⟩
            obtain rfl := only counted
            exact (next v found u).2 ⟨m, w, done, same⟩
          · intro filled
            cases found : a.positional[i]? with
            | none =>
                rw [List.drop_eq_nil_of_le (List.getElem?_eq_none_iff.1 found)] at filled
                cases filled
            | some v =>
                obtain ⟨m, w, done, same⟩ := (next v found u).1 filled
                exact ⟨m, v, _, ⟨i, at_, rfl, found⟩, w, done, same⟩

/-- Fields without a number take the arguments in order, and there must be enough of them. -/
theorem formatted_blank_iff (sound : ∀ p ∈ parts, p.IsSound) (blank : ∀ path, .field path ∈ parts → path = []) :
    formatted a (ofParts parts) = .ok u ↔ inOrder? parts a.positional = some u := by
  rw [formatted_ofParts_eq_ok sound, fill_blank_iff blank (.inl ⟨rfl, rfl⟩), List.drop_zero]

/-- The argument that a field takes for itself, by its number or its name. -/
def chosen? (a : Arguments) (path : Text) : Option Value :=
  match number? path with
  | .ok (some i) => a.positional[i]?
  | .ok none => (a.named.find? fun entry => entry.1 = path).map (·.2)
  | .error _ => none

theorem argument_chosen_iff {v : Value} (given : path ≠ []) (manual : ∀ i, n ≠ .automatic i) :
    (∃ m, argument a n path = .ok (v, m)) ↔ chosen? a path = some v := by
  unfold chosen?
  split
  · next i number => simp [argument_number_iff number, manual]
  · next name => simp [argument_name_iff name given]
  · next problem => simp [argument_problem problem]

theorem argument_keeps_manual {v : Value} {m : Numbering} (given : path ≠ []) (manual : ∀ i, n ≠ .automatic i)
    (found : argument a n path = .ok (v, m)) (i : Nat) : m ≠ .automatic i := by
  rcases argument_cases found with ⟨blank, -⟩ | ⟨-, -, rfl⟩ | ⟨-, -, rfl⟩
  · exact absurd blank given
  · simp
  · exact manual i

/-- What parts come to whose fields each take their own argument; nothing if one is not given. -/
def eachOwn? (a : Arguments) : List Part → Option Text
  | [] => some []
  | .text t :: parts => (eachOwn? a parts).map (t ++ ·)
  | .field path :: parts => (chosen? a path).bind fun v => (eachOwn? a parts).map (v.shown ++ ·)

theorem fill_chosen_iff {expand : Numbering → Text → Except Fault (Text × Numbering)} (sound : ∀ p ∈ parts, p.IsSound)
    (given : .field [] ∉ parts) (manual : ∀ i, n ≠ .automatic i) :
    (∃ m, fillPieces expand a n (parts.flatMap Part.pieces) = .ok (u, m)) ↔ eachOwn? a parts = some u := by
  induction parts generalizing n u with
  | nil =>
      simp only [fill_nil_iff, eachOwn?, Option.some.injEq]
      exact ⟨fun ⟨_, empty, _⟩ => empty.symm, fun empty => ⟨n, empty.symm, rfl⟩⟩
  | cons p parts ih =>
      have later := fun q member => sound q (List.mem_cons_of_mem p member)
      have fewer : .field [] ∉ parts := fun member => given (List.mem_cons_of_mem p member)
      cases p with
      | text t =>
          simp only [fill_text_iff, eachOwn?, Option.map_eq_some_iff, ← ih later fewer manual]
          exact ⟨fun ⟨m, w, done, same⟩ => ⟨w, ⟨m, done⟩, same⟩, fun ⟨w, ⟨m, done⟩, same⟩ => ⟨m, w, done, same⟩⟩
      | field path =>
          have own : path ≠ [] := fun empty => given (by rw [empty]; exact List.mem_cons_self)
          simp only [fill_field_iff (sound (.field path) List.mem_cons_self), eachOwn?, Option.bind_eq_some_iff,
            Option.map_eq_some_iff, ← argument_chosen_iff own manual]
          constructor
          · rintro ⟨m, v, k, found, w, done, same⟩
            exact ⟨v, ⟨k, found⟩, w, (ih later fewer (argument_keeps_manual own manual found)).1 ⟨m, done⟩, same⟩
          · rintro ⟨v, ⟨k, found⟩, w, filled, same⟩
            obtain ⟨m, done⟩ := (ih later fewer (argument_keeps_manual own manual found)).2 filled
            exact ⟨m, v, k, found, w, done, same⟩

theorem formatted_chosen_iff (sound : ∀ p ∈ parts, p.IsSound) (given : .field [] ∉ parts) :
    formatted a (ofParts parts) = .ok u ↔ eachOwn? a parts = some u := by
  rw [formatted_ofParts_eq_ok sound, fill_chosen_iff sound given (by simp)]

/-- A field with a number shows the argument in that place. -/
theorem formatted_number {i : Nat} {v : Value} (fits : i ≤ Spec.numberLimit) (found : a.positional[i]? = some v)
    (before after : Text) :
    formatted a (doubled before ++ .char '\x7b' :: (Text.ofNat i ++ .char '\x7d' :: doubled after)) =
      .ok (before ++ (v.shown ++ after)) := by
  have sound : ∀ p ∈ [Part.text before, .field (Text.ofNat i), .text after], p.IsSound := by
    simp [Part.IsSound, isPlain_ofNat]
  have given : Part.field [] ∉ [Part.text before, .field (Text.ofNat i), .text after] := by
    simpa using (Text.ofNat_ne_nil i).symm
  have spelled : ofParts [.text before, .field (Text.ofNat i), .text after] =
      doubled before ++ .char '\x7b' :: (Text.ofNat i ++ .char '\x7d' :: doubled after) := by
    simp [ofParts, Part.written]
  rw [← spelled, formatted_chosen_iff sound given]
  simp [eachOwn?, chosen?, number?_ofNat fits, found]

/-! ## Mixed fields -/

section
variable {expand : Numbering → Text → Except Fault (Text × Numbering)} {m : Numbering} {i : Nat}
  (sound : ∀ p ∈ parts, p.IsSound)
include sound

theorem not_fill_blank (filled : fillPieces expand a .manual (parts.flatMap Part.pieces) = .ok (u, m)) :
    .field [] ∉ parts := by
  induction parts generalizing u with
  | nil => exact List.not_mem_nil
  | cons p parts ih =>
      have later := fun q member => sound q (List.mem_cons_of_mem p member)
      cases p with
      | text t =>
          obtain ⟨w, done, -⟩ := fill_text_iff.1 filled
          simpa using ih later done
      | field path =>
          obtain ⟨v, k, found, w, done, -⟩ := (fill_field_iff (sound (.field path) List.mem_cons_self)).1 filled
          rcases argument_cases found with ⟨-, other, -⟩ | ⟨⟨i, number⟩, -, rfl⟩ | ⟨own, -, rfl⟩
          · exact absurd rfl other
          · have own := ne_nil_of_number? number
            simpa [own.symm] using ih later done
          · simpa [own.symm] using ih later done

theorem not_fill_number (number : number? path = .ok (some i)) {j : Nat}
    (filled : fillPieces expand a (.automatic j) (parts.flatMap Part.pieces) = .ok (u, m)) :
    .field path ∉ parts := by
  induction parts generalizing j u with
  | nil => exact List.not_mem_nil
  | cons p parts ih =>
      have later := fun q member => sound q (List.mem_cons_of_mem p member)
      cases p with
      | text t =>
          obtain ⟨w, done, -⟩ := fill_text_iff.1 filled
          simpa using ih later done
      | field other =>
          obtain ⟨v, k, found, w, done, -⟩ := (fill_field_iff (sound (.field other) List.mem_cons_self)).1 filled
          rcases argument_cases found with ⟨rfl, -, next, rfl⟩ | ⟨-, manual, -⟩ | ⟨-, name, rfl⟩
          · have own := ne_nil_of_number? number
            simpa [own] using ih later done
          · exact absurd rfl (manual j)
          · have own : path ≠ other := by rintro rfl; rw [name] at number; cases number
            simpa [own] using ih later done

theorem not_fill_mixed (number : number? path = .ok (some i))
    (filled : fillPieces expand a .start (parts.flatMap Part.pieces) = .ok (u, m)) :
    ¬ (.field [] ∈ parts ∧ .field path ∈ parts) := by
  have own := ne_nil_of_number? number
  induction parts generalizing u with
  | nil => exact fun both => List.not_mem_nil both.1
  | cons p parts ih =>
      have later := fun q member => sound q (List.mem_cons_of_mem p member)
      cases p with
      | text t =>
          obtain ⟨w, done, -⟩ := fill_text_iff.1 filled
          simpa using ih later done
      | field other =>
          obtain ⟨v, k, found, w, done, -⟩ := (fill_field_iff (sound (.field other) List.mem_cons_self)).1 filled
          rcases argument_cases found with ⟨rfl, -, next, rfl⟩ | ⟨⟨j, index⟩, -, rfl⟩ | ⟨given, name, rfl⟩
          · have none := not_fill_number later number done
            simp [own, none]
          · have none := not_fill_blank later done
            have given := ne_nil_of_number? index
            simp [given.symm, none]
          · have apart : path ≠ other := by rintro rfl; rw [name] at number; cases number
            simpa [given.symm, apart] using ih later done

end

/-- A field without a number and one with a number cannot stand in one message. -/
theorem not_formatted_mixed {i : Nat} (sound : ∀ p ∈ parts, p.IsSound) (number : number? path = .ok (some i))
    (blank : .field [] ∈ parts) (numbered : .field path ∈ parts) : formatted a (ofParts parts) ≠ .ok u := by
  intro filled
  obtain ⟨m, done⟩ := (formatted_ofParts_eq_ok sound).1 filled
  exact not_fill_mixed sound number done ⟨blank, numbered⟩

end

end Message

end LogStyle
