import LogStyle.Preview.Options
import LogStyle.Proofs.Template.Split
import Mathlib.Data.List.Forall2

/-! # Command lines that are written and read

Options that are written out, each under one of its names, are read again in their order. So whatever a preview can
show can be asked for on a command line.
-/

namespace LogStyle

namespace CommandLine

variable {κ : Type} {switches : List (Switch κ)}

/-- A name that an option may have: hyphens, at least one letter, and no equals sign. -/
structure IsName (name : Text) : Prop where
  hyphen : name.head? = some (.char '-')
  long : 2 ≤ name.length
  noValue : .char '=' ∉ name
  noDivider : name ≠ "--"

/-- Options that can be told apart by their names. -/
structure Distinct (switches : List (Switch κ)) : Prop where
  isName : ∀ s ∈ switches, ∀ name ∈ s.names, IsName name
  apart : ∀ s ∈ switches, ∀ other ∈ switches, ∀ name ∈ s.names, name ∈ other.names → s = other

/-- The words that an option is written in. -/
inductive Spells (switches : List (Switch κ)) : List Text → κ × Option Text → Prop where
  | bare {s : Switch κ} {name : Text} (member : s ∈ switches) (named : name ∈ s.names)
      (takesNone : s.takesValue = false) : Spells switches [name] (s.key, none)
  /-- Behind an equals sign any value may stand. -/
  | joined {s : Switch κ} {name : Text} (member : s ∈ switches) (named : name ∈ s.names)
      (takes : s.takesValue = true) (value : Text) : Spells switches [name ++ .char '=' :: value] (s.key, some value)
  /-- A value in a word of its own must be no option. -/
  | apart {s : Switch κ} {name : Text} (member : s ∈ switches) (named : name ∈ s.names)
      (takes : s.takesValue = true) {value : Text} (plain : value.head? ≠ some (.char '-')) :
      Spells switches [name, value] (s.key, some value)

theorem IsName.exists_cons {name : Text} (isName : IsName name) : ∃ c rest, name = .char '-' :: c :: rest := by
  have hyphen := isName.hyphen
  have long := isName.long
  obtain _ | ⟨d, _ | ⟨c, rest⟩⟩ := name
  · simp at long
  · simp at long
  · obtain rfl : d = .char '-' := by simpa using hyphen
    exact ⟨c, rest, rfl⟩

section
variable (distinct : Distinct switches)
include distinct

theorem Distinct.named?_of_mem {s : Switch κ} (member : s ∈ switches) {name : Text} (named : name ∈ s.names) :
    named? switches name = some s := by
  have found : ∃ other, named? switches name = some other :=
    Option.isSome_iff_exists.1 (List.find?_isSome.2 ⟨s, member, by simpa using named⟩)
  obtain ⟨other, found⟩ := found
  have its : name ∈ other.names := by simpa using List.find?_some found
  rw [found, distinct.apart s member other (List.mem_of_find?_eq_some found) name named its]

theorem Distinct.named?_of_value {t : Text} (valued : .char '=' ∈ t) : named? switches t = none := by
  refine List.find?_eq_none.2 fun s member => ?_
  simp only [List.contains_eq_mem, decide_eq_true_eq]
  exact fun named => (distinct.isName s member t named).noValue valued

theorem Distinct.classify?_bare {s : Switch κ} (member : s ∈ switches) {name : Text} (named : name ∈ s.names) :
    classify? switches name = some (.option s name none) := by
  have found := distinct.named?_of_mem member named
  obtain ⟨c, rest, rfl⟩ := (distinct.isName s member name named).exists_cons
  simp only [classify?, found]

theorem Distinct.classify?_joined {s : Switch κ} (member : s ∈ switches) {name : Text} (named : name ∈ s.names)
    (value : Text) : classify? switches (name ++ .char '=' :: value) = some (.option s name (some value)) := by
  have isName := distinct.isName s member name named
  have found := distinct.named?_of_mem member named
  have whole := distinct.named?_of_value (t := name ++ .char '=' :: value) (by simp)
  have cut : cutValue (name ++ .char '=' :: value) = (name, some value) := by
    rw [cutValue, Text.cut?_of_not_mem isName.noValue]
  obtain ⟨c, rest, rfl⟩ := isName.exists_cons
  simp only [List.cons_append] at whole cut ⊢
  simp only [classify?, whole, cut, Option.isSome_some, if_true, found]

omit distinct in
theorem classify?_plain {t : Text} (plain : t.head? ≠ some (.char '-')) : classify? switches t = some (.plain t) := by
  unfold classify?
  split
  · simp at plain
  · rfl

theorem Distinct.ne_divider {s : Switch κ} (member : s ∈ switches) {name : Text} (named : name ∈ s.names) (u : Text) :
    name ++ u ≠ "--" := by
  intro same
  have isName := distinct.isName s member name named
  obtain ⟨c, rest, rfl⟩ := isName.exists_cons
  have whole : (CodePoint.char '-' :: c :: (rest ++ u)) = [.char '-', .char '-'] := same
  simp only [List.cons.injEq, List.append_eq_nil_iff, true_and] at whole
  exact isName.noDivider (by rw [whole.1, whole.2.1]; rfl)

omit distinct in
theorem classifyAll?_cons {t : Text} (word : t ≠ "--") (rest : List Text) :
    classifyAll? switches (t :: rest) =
      (classify? switches t).bind fun word => (classifyAll? switches rest).map (word :: ·) := by
  rw [classifyAll?, if_neg word]
  cases classify? switches t <;> cases classifyAll? switches rest <;> rfl

/-- Words for some options and then further words are read as these options and then what the further words ask
    for. -/
theorem Distinct.read_append {words : List Text} {given : κ × Option Text} (spells : Spells switches words given)
    {rest : List Text} {later : List (Word κ)} (classified : classifyAll? switches rest = some later) :
    ∃ now, classifyAll? switches (words ++ rest) = some now ∧
      readWords switches now = (readWords switches later).after [given] := by
  cases spells with
  | @bare s name member named takesNone =>
      have word := distinct.ne_divider member named []
      rw [List.append_nil] at word
      refine ⟨.option s name none :: later, ?_, ?_⟩
      · rw [List.singleton_append, classifyAll?_cons word, distinct.classify?_bare member named, classified]
        rfl
      · rw [readWords.eq_def]
        simp [takesNone]
  | @joined s name member named takes value =>
      have bundle : unbundle? switches s (isLong name) value = some ⟨[], s, some value⟩ := by
        cases value <;> rw [unbundle?.eq_def] <;> simp [takes]
      refine ⟨.option s name (some value) :: later, ?_, ?_⟩
      · rw [List.singleton_append, classifyAll?_cons (distinct.ne_divider member named _),
          distinct.classify?_joined member named, classified]
        rfl
      · rw [readWords.eq_def]
        simp [bundle]
  | @apart s name member named takes value plain =>
      have word := distinct.ne_divider member named []
      rw [List.append_nil] at word
      have notDivider : value ≠ "--" := fun same => plain (by rw [same]; rfl)
      refine ⟨.option s name none :: .plain value :: later, ?_, ?_⟩
      · rw [List.cons_append, List.singleton_append, classifyAll?_cons word, classifyAll?_cons notDivider,
          distinct.classify?_bare member named, classify?_plain plain, classified]
        rfl
      · rw [readWords.eq_def]
        simp [takes]

theorem Distinct.read_of_spells {words : List (List Text)} {given : List (κ × Option Text)}
    (spelled : List.Forall₂ (Spells switches) words given) : read switches words.flatten = ⟨given, true⟩ := by
  have steps : ∃ all, classifyAll? switches words.flatten = some all ∧ readWords switches all = ⟨given, true⟩ := by
    induction spelled with
    | nil => exact ⟨[], rfl, rfl⟩
    | cons first _ ih =>
        obtain ⟨later, classified, reads⟩ := ih
        obtain ⟨now, all, readsAll⟩ := distinct.read_append first classified
        refine ⟨now, all, ?_⟩
        rw [readsAll, reads]
        rfl
  obtain ⟨all, classified, reads⟩ := steps
  rw [read, classified]
  exact reads

end

end CommandLine

namespace Preview

open CommandLine

theorem distinct_switches : Distinct switches where
  isName s member name named :=
    have all : ∀ s ∈ switches, ∀ name ∈ s.names,
        name.head? = some (.char '-') ∧ 2 ≤ name.length ∧ .char '=' ∉ name ∧ name ≠ "--" := by decide
    have ⟨hyphen, long, noValue, noDivider⟩ := all s member name named
    ⟨hyphen, long, noValue, noDivider⟩
  apart := by decide

def Options.putAll (o : Options) (given : List (Key × Option Text)) : Options :=
  given.foldl (fun o g => o.put g.1 (g.2.getD [])) o

theorem Options.putAll_append (o : Options) (given more : List (Key × Option Text)) :
    o.putAll (given ++ more) = (o.putAll given).putAll more :=
  List.foldl_append

namespace Request

theorem ofArguments_of_spells {o : Options} {words : List (List Text)} {given : List (Key × Option Text)}
    (spelled : List.Forall₂ (Spells switches) words given) : ofArguments o words.flatten = ofGiven o true given := by
  rw [ofArguments, distinct_switches.read_of_spells spelled]

theorem ofGiven_of_quiet {o : Options} {given : List (Key × Option Text)}
    (quiet : ∀ g ∈ given, g.1 ≠ .help ∧ g.1 ≠ .version) :
    ofGiven o true given =
      if (o.putAll given).listDirectives then .directives else .samples (o.putAll given) := by
  induction given generalizing o with
  | nil => rfl
  | cons g rest ih =>
      obtain ⟨key, value⟩ := g
      have here := quiet (key, value) List.mem_cons_self
      have later := ih (o := o.put key (value.getD [])) fun g member => quiet g (List.mem_cons_of_mem _ member)
      cases key with
      | help => exact absurd rfl here.1
      | version => exact absurd rfl here.2
      | _ => exact later

end Request

/-- Options that a command line can ask for under some settings: it cannot turn colours on again, nor ask for less
    than is told anyway. -/
structure Options.Askable (s : Settings) (o : Options) : Prop where
  samples : o.listDirectives = false
  noisy : 1 ≤ o.verbosity
  colors : s.noColors = true → o.noColors = true

theorem Options.put_keeps {s : Settings} {o : Options} (noisy : 1 ≤ o.verbosity)
    (colors : s.noColors = true → o.noColors = true) (key : Key) (value : Text) :
    1 ≤ (o.put key value).verbosity ∧ (s.noColors = true → (o.put key value).noColors = true) := by
  cases key with
  | noColors => exact ⟨noisy, fun _ => rfl⟩
  | verbosity => exact ⟨Nat.le_add_left 1 _, colors⟩
  | _ => exact ⟨noisy, colors⟩

theorem Request.askable_of_ofGiven {s : Settings} {o shown : Options} (noisy : 1 ≤ o.verbosity)
    (colors : s.noColors = true → o.noColors = true) {sound : Bool} {given : List (Key × Option Text)}
    (asked : ofGiven o sound given = .samples shown) : shown.Askable s := by
  induction given generalizing o with
  | nil =>
      simp only [ofGiven] at asked
      split at asked
      · cases asked
      · split at asked
        · cases asked
        · next notListed =>
            cases asked
            exact ⟨by simpa using notListed, noisy, colors⟩
  | cons g rest ih =>
      obtain ⟨key, value⟩ := g
      have keeps := Options.put_keeps noisy colors key (value.getD [])
      cases key with
      | help => cases asked
      | version => cases asked
      | _ => exact ih keeps.1 keeps.2 asked

/-- What a command line has to ask for to get some options. -/
def Options.asked (o : Options) : List (Key × Option Text) :=
  [(.format, some o.format), (.theme, some o.theme), (.paletteFile, some o.paletteFile),
    (.message, some o.message), (.levels, some o.levels)] ++
  ((if o.noColors then [(.noColors, none)] else []) ++
    ((if o.showCompiled then [(.showCompiled, none)] else []) ++
      List.replicate (o.verbosity - 1) (.verbosity, none)))

theorem spells_value {key : Key} (name : Text) (member : ⟨key, [name], true⟩ ∈ switches) (value : Text) :
    Spells switches [name ++ .char '=' :: value] (key, some value) :=
  .joined member (List.mem_singleton_self name) rfl value

theorem spells_bare {key : Key} (name : Text) (names : List Text) (member : ⟨key, name :: names, false⟩ ∈ switches) :
    Spells switches [name] (key, none) :=
  .bare member List.mem_cons_self rfl

theorem Options.mem_asked {o : Options} {g : Key × Option Text} (member : g ∈ o.asked) :
    (g.1 ≠ .help ∧ g.1 ≠ .version) ∧ ∃ words, Spells switches words g := by
  simp only [asked, List.mem_append, List.mem_cons, List.not_mem_nil, or_false] at member
  rcases member with (rfl | rfl | rfl | rfl | rfl) | member | member | member
  · exact ⟨by simp, _, spells_value "--format" (by decide) _⟩
  · exact ⟨by simp, _, spells_value "--theme" (by decide) _⟩
  · exact ⟨by simp, _, spells_value "--palette" (by decide) _⟩
  · exact ⟨by simp, _, spells_value "--message" (by decide) _⟩
  · exact ⟨by simp, _, spells_value "--levels" (by decide) _⟩
  · split at member
    · obtain rfl := List.mem_singleton.1 member
      exact ⟨by simp, _, spells_bare "--noColors" [] (by decide)⟩
    · cases member
  · split at member
    · obtain rfl := List.mem_singleton.1 member
      exact ⟨by simp, _, spells_bare "--showCompiled" [] (by decide)⟩
    · cases member
  · obtain rfl := List.eq_of_mem_replicate member
    exact ⟨by simp, _, spells_bare "-v" ["--verbosity"] (by decide)⟩

theorem Options.putAll_verbosity (o : Options) (n : Nat) :
    o.putAll (List.replicate n (.verbosity, none)) = { o with verbosity := o.verbosity + n } := by
  induction n generalizing o with
  | zero => rfl
  | succ n ih =>
      rw [List.replicate_succ]
      show (o.put .verbosity []).putAll _ = _
      rw [ih]
      simp [put, Nat.add_assoc, Nat.add_comm 1 n]

theorem Options.putAll_noColors (o : Options) (off : Bool) :
    o.putAll (if off then [(.noColors, none)] else []) = { o with noColors := o.noColors || off } := by
  cases off with
  | true => exact congrArg (fun off => { o with noColors := off }) (Bool.or_true _).symm
  | false => exact congrArg (fun off => { o with noColors := off }) (Bool.or_false _).symm

theorem Options.putAll_showCompiled (o : Options) (on : Bool) :
    o.putAll (if on then [(.showCompiled, none)] else []) = { o with showCompiled := o.showCompiled || on } := by
  cases on with
  | true => exact congrArg (fun on => { o with showCompiled := on }) (Bool.or_true _).symm
  | false => exact congrArg (fun on => { o with showCompiled := on }) (Bool.or_false _).symm

theorem Options.putAll_asked {s : Settings} {o : Options} (askable : o.Askable s) :
    (ofSettings s).putAll o.asked = o := by
  have all : (ofSettings s).putAll o.asked =
      ⟨o.format, o.theme, o.paletteFile, o.message, o.levels, s.noColors || o.noColors, false || o.showCompiled, false,
        1 + (o.verbosity - 1)⟩ := by
    rw [asked, putAll_append, putAll_append, putAll_append, putAll_noColors, putAll_showCompiled, putAll_verbosity]
    rfl
  have colors : (s.noColors || o.noColors) = o.noColors := by
    cases off : s.noColors with
    | true => rw [askable.colors off]; rfl
    | false => rfl
  have samples := askable.samples
  rw [all, colors, Bool.false_or, Nat.add_sub_cancel' askable.noisy]
  obtain ⟨⟩ := o
  cases samples
  rfl

theorem Options.exists_spells (o : Options) : ∃ words, List.Forall₂ (Spells switches) words o.asked := by
  have each : ∀ g ∈ o.asked, ∃ words, Spells switches words g := fun g member => (mem_asked member).2
  generalize o.asked = given at each
  induction given with
  | nil => exact ⟨[], .nil⟩
  | cons g rest ih =>
      obtain ⟨first, spells⟩ := each g List.mem_cons_self
      obtain ⟨later, spelled⟩ := ih fun g member => each g (List.mem_cons_of_mem _ member)
      exact ⟨first :: later, .cons spells spelled⟩

theorem Request.askable_of_ofArguments {s : Settings} {o : Options} {args : List Text}
    (asked : ofArguments (.ofSettings s) args = .samples o) : o.Askable s := by
  rw [ofArguments] at asked
  generalize CommandLine.read switches args = reading at asked
  exact askable_of_ofGiven (Nat.le_refl 1) id asked

/-- Exactly what is askable can be asked for on a command line. -/
theorem exists_ofArguments_iff {s : Settings} {o : Options} :
    (∃ args, Request.ofArguments (.ofSettings s) args = .samples o) ↔ o.Askable s := by
  refine ⟨fun asked => asked.elim fun _ asked => Request.askable_of_ofArguments asked, fun askable => ?_⟩
  obtain ⟨words, spelled⟩ := o.exists_spells
  refine ⟨words.flatten, ?_⟩
  rw [Request.ofArguments_of_spells spelled, Request.ofGiven_of_quiet fun g member => (Options.mem_asked member).1,
    Options.putAll_asked askable, askable.samples]
  rfl

end Preview

end LogStyle
