import LogStyle.Proofs.Program.Grammar
import LogStyle.Proofs.Program.Style

/-! # Styles that are written out

Every style can be written out as directives that can be read, whatever its colours are. Whether they can be run is
another matter: they can exactly if the terminal has the colours, and then they lead to the style from every other.
-/

namespace LogStyle

theorem Numeral.spells_ofInt {n : Int} (short : isLong n = false) : Spells (Text.ofInt n) n := by
  have written (m : Nat) (short : isLong m = false) :
      Spells (Text.ofNat m) m ∧ Spells (.char '-' :: Text.ofNat m) (-m) := by
    have nonempty := Text.ofNat_ne_nil m
    have readable := not_unreadable_ofNat short
    constructor
    · simpa only [value_ofNat] using Spells.plain nonempty readable
    · simpa only [value_ofNat] using Spells.minus nonempty readable
  cases n with
  | ofNat m => exact (written m short).1
  | negSucc m => exact (written (m + 1) short).2

namespace Grammar

variable {name : Text} (named : Lexeme.IsName name)
include named

theorem directive_call [CharNames] : Directive Wordless (.char '\x7b' :: (name ++ [.char '\x7d'])) name [] := by
  have ends : (Piece.word name).Ends [] := fun d first => nomatch first
  refine ⟨name, [], [], rfl, ?_, by simp [Wordless], rfl⟩
  simpa using Row.piece (.word named) ends .nil

theorem directive_number [CharNames] {n : Int} (short : Numeral.isLong n = false) :
    Directive Wordless (.char '\x7b' :: (name ++ .char ' ' :: (Text.ofInt n ++ [.char '\x7d']))) name [.number n] := by
  have ends : (Piece.value (.number n)).Ends [] := fun d first => nomatch first
  have stops : (Piece.word name).Ends (.char ' ' :: Text.ofInt n) := by
    rintro d ⟨⟩
    decide
  refine ⟨name ++ .char ' ' :: Text.ofInt n, [], [.value (.number n)], by simp, ?_, by simp [Wordless], rfl⟩
  have number := Row.piece (.number (Numeral.spells_ofInt short)) ends .nil
  rw [List.append_nil] at number
  exact .piece (.word named) stops (.blank (by decide) number)

end Grammar

namespace Style

variable (d off : Directive) (opposite : off.name = "no" ++ d.name)
include opposite

theorem exists_directive_color [CharNames] {color : Option Int} (short : ∀ n ∈ color, Numeral.isLong n = false) :
    ∃ (call : Directive) (args : List Arg),
      Grammar.Directive Grammar.Wordless (colorDirective d.name color) call.name args ∧
        ∀ n ∈ color, call = d ∧ args = [.number n] := by
  cases color with
  | none =>
      refine ⟨off, [], ?_, by simp⟩
      simpa [colorDirective, opposite] using Grammar.directive_call off.isName
  | some n =>
      refine ⟨d, [.number n], ?_, by simp⟩
      simpa [colorDirective] using Grammar.directive_number d.isName (short n rfl)

theorem exists_directive_attribute [CharNames] (on : Bool) :
    ∃ call : Directive, Grammar.Directive Grammar.Wordless (attributeDirective d.name on) call.name [] := by
  cases on with
  | false => exact ⟨off, by simpa [attributeDirective, opposite] using Grammar.directive_call off.isName⟩
  | true => exact ⟨d, by simpa [attributeDirective] using Grammar.directive_call d.isName⟩

omit opposite

theorem exists_read_directives [CharNames] {s : Style} (front : ∀ n ∈ s.foreground, Numeral.isLong n = false)
    (back : ∀ n ∈ s.background, Numeral.isLong n = false) :
    ∃ nodes, Node.read (Registry.builtins (σ := Unit)).knows s.directives = .ok nodes ∧
      (∀ n ∈ s.foreground, ∃ position, .call Directive.fg.name [.number n] position ∈ nodes) ∧
      ∀ n ∈ s.background, ∃ position, .call Directive.bg.name [.number n] position ∈ nodes := by
  have known (d : Directive) : (Registry.builtins (σ := Unit)).knows d.name = true := by cases d <;> rfl
  obtain ⟨first, foreground, one, isFront⟩ := exists_directive_color .fg .nofg rfl front
  obtain ⟨second, background, two, isBack⟩ := exists_directive_color .bg .nobg rfl back
  obtain ⟨third, three⟩ := exists_directive_attribute .bold .nobold rfl s.bold
  obtain ⟨fourth, four⟩ := exists_directive_attribute .reverse .noreverse rfl s.reversed
  have written := @Grammar.Source.call _ _ _ 0 _ _ _ _ _ one (known first) <| .call two (known second) <|
    .call three (known third) <| .call four (known fourth) .nil
  have source : s.directives = colorDirective Directive.fg.name s.foreground ++
      (colorDirective Directive.bg.name s.background ++ (attributeDirective Directive.bold.name s.bold ++
        (attributeDirective Directive.reverse.name s.reversed ++ []))) := by
    rw [List.append_nil, ← List.append_assoc, ← List.append_assoc]
    rfl
  refine ⟨_, (congrArg _ source).trans (Grammar.readAt_of_source written), fun n color => ?_, fun n color => ?_⟩
  · obtain ⟨rfl, rfl⟩ := isFront n color
    exact ⟨_, List.mem_cons_self⟩
  · obtain ⟨rfl, rfl⟩ := isBack n color
    exact ⟨_, List.mem_cons_of_mem _ List.mem_cons_self⟩

end Style

namespace Program

theorem colored_of_runNodes {σ : Type} {p : Program σ} {name : Text} {args : List Arg} {position : Nat} {d : Directive}
    {effect : Effect} (meaning : p.registry.find? name = some (.builtin d)) (fits : d.effect? args = some effect)
    {nodes : List Node} (member : .call name args position ∈ nodes) {at_ reached : Reached σ} {t : Text}
    (ran : p.runNodes nodes at_ = (.ok t, reached)) : ∀ color ∈ effect.color?, Style.IsColor color := by
  induction nodes generalizing at_ t with
  | nil => cases member
  | cons node rest ih =>
      rw [runNodes_cons, Sequel.andThen_eq_ok] at ran
      obtain ⟨u, v, between, here, later, -⟩ := ran
      rcases List.mem_cons.1 member with rfl | behind
      · obtain ⟨effect', fits', had⟩ := (runCall_eq_ok meaning).1 here
        cases fits.symm.trans fits'
        exact (runEffect_eq_ok.1 had).1.1
      · exact ih behind later

/-- A style that is written out can always be read. It can be run exactly if the terminal has its colours, and then it
    leads to the style and writes the same, wherever it starts. -/
theorem read_directives [CharNames] {s : Style} (front : ∀ n ∈ s.foreground, Numeral.isLong n = false)
    (back : ∀ n ∈ s.background, Numeral.isLong n = false) (colors : Bool) :
    ∃ p : PureProgram, read [] colors s.directives = .ok p ∧
      (∀ s₀, (∃ out, (PureProgram.execute p s₀).1 = .ok out) ↔ s.InRange) ∧
      (s.InRange → ∃ out, ∀ s₀, PureProgram.execute p s₀ = (.ok out, s)) := by
  obtain ⟨nodes, parsed, foreground, background⟩ := Style.exists_read_directives front back
  let p : PureProgram := ⟨Registry.builtins, nodes, colors⟩
  have leads (inRange : s.InRange) (s₀ : Style) : PureProgram.execute p s₀ = (.ok (s.spelled colors), s) := by
    have written : p.Leads s.directives (s₀, ()) (s.spelled colors) (s, ()) := leads_directives rfl inRange _
    obtain ⟨nodes', parsed', ran⟩ := written 0
    cases parsed.symm.trans parsed'
    exact congrArg (fun outcome : Outcome Unit => (outcome.1, outcome.2.1)) ran
  refine ⟨p, congrArg (Except.map _) parsed, fun s₀ => ⟨?_, fun inRange => ⟨_, congrArg Prod.fst (leads inRange s₀)⟩⟩,
    fun inRange => ⟨_, leads inRange⟩⟩
  rintro ⟨out, ran⟩
  have complete : p.runNodes nodes (s₀, ()) = (.ok out, (p.runNodes nodes (s₀, ())).2) := Prod.ext ran rfl
  constructor
  · intro n color
    obtain ⟨position, member⟩ := foreground n color
    exact colored_of_runNodes (d := .fg) rfl rfl member complete n rfl
  · intro n color
    obtain ⟨position, member⟩ := background n color
    exact colored_of_runNodes (d := .bg) rfl rfl member complete n rfl

section

attribute [local instance] CharNames.none

/-- A negative colour can be written out and read, and no terminal has it. -/
theorem read_directives_seven :
    (∃ p : PureProgram, read [] true (Style.directives ⟨some (-7), none, true, false⟩) = .ok p ∧
      ∀ s₀, ¬ ∃ out, (PureProgram.execute p s₀).1 = .ok out) ∧
    ∃ p : PureProgram, read [] true (Style.directives ⟨some 7, none, true, false⟩) = .ok p ∧
      ∃ out, ∀ s₀, PureProgram.execute p s₀ = (.ok out, ⟨some 7, none, true, false⟩) := by
  have none : ∀ n ∈ (none : Option Int), Numeral.isLong n = false := by simp
  have negative : ∀ n ∈ some (-7 : Int), Numeral.isLong n = false := by
    rintro n ⟨⟩
    decide +kernel
  have seven : ∀ n ∈ some (7 : Int), Numeral.isLong n = false := by
    rintro n ⟨⟩
    decide +kernel
  obtain ⟨p, found, runs, -⟩ := read_directives (s := ⟨some (-7), .none, true, false⟩) negative none true
  obtain ⟨q, found', -, leads⟩ := read_directives (s := ⟨some 7, .none, true, false⟩) seven none true
  refine ⟨⟨p, found, fun s₀ ran => ?_⟩, q, found', leads ⟨?_, by simp⟩⟩
  · have unknown : ¬ Style.IsColor (-7) := by decide
    exact unknown (((runs s₀).1 ran).1 (-7) rfl)
  · rintro n ⟨⟩
    decide

end

end Program

end LogStyle
