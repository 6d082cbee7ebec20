import LogStyle.Proofs.Program.Decorative

/-! # Styles that programs reach

A program asks the terminal only for colours that it has, and a style with such colours can be written out as
directives that lead to it from every other style.
-/

namespace LogStyle

namespace Effect

theorem inRange_apply {s : Style} (inRange : s.InRange) {effect : Effect}
    (colored : ∀ color ∈ effect.color?, Style.IsColor color) : (effect.apply s).InRange := by
  cases effect with
  | foreground color => exact ⟨colored, inRange.2⟩
  | background color => exact ⟨inRange.1, colored⟩
  | leave glyph color | enter color glyph => exact ⟨inRange.1, colored⟩
  | bold on | reverse on => exact inRange
  | reset => exact ⟨by simp [apply, Style.plain], by simp [apply, Style.plain]⟩

end Effect

theorem Style.inRange_plain : Style.plain.InRange :=
  ⟨by simp [plain], by simp [plain]⟩

namespace Program

variable {σ : Type} (p : Program σ)

theorem inRange_of_runNode (node : Node) {at_ : Reached σ} (inRange : at_.1.InRange) :
    (p.runNode node at_).2.1.InRange := by
  cases node with
  | text t => exact inRange
  | call name args position =>
      simp only [runNode, runCall]
      split
      · exact inRange
      · split
        · next effect _ =>
            simp only [runEffect]
            split
            · exact inRange
            · next had => exact Effect.inRange_apply inRange (refusal?_eq_none.1 had).1
        · exact inRange
      · split <;> exact inRange

theorem inRange_of_runNodes (nodes : List Node) {at_ : Reached σ} (inRange : at_.1.InRange) :
    (p.runNodes nodes at_).2.1.InRange := by
  induction nodes generalizing at_ with
  | nil => exact inRange
  | cons node rest ih =>
      have here := p.inRange_of_runNode node inRange
      rw [runNodes_cons]
      rcases ran : p.runNode node at_ with ⟨e | t, reached⟩
      · rw [ran] at here
        exact here
      · rw [ran] at here
        exact ih here

end Program

theorem Directive.isName (d : Directive) : Lexeme.IsName d.name := by
  cases d <;> decide

/-- The sequences that lead to a style from every other. -/
def Style.spelled (colors : Bool) (s : Style) : Text :=
  sequence colors (foregroundCode s.foreground) ++ (sequence colors (backgroundCode s.background) ++
    (sequence colors (if s.bold then "1" else "22") ++ sequence colors (if s.reversed then "7" else "27")))

namespace Program

/-- Wherever it starts, a source can be read and run; it writes a text and leads from one place to another. -/
def Leads [CharNames] {σ : Type} (p : Program σ) (source : Text) (at_ : Reached σ) (t : Text) (reached : Reached σ) :
    Prop :=
  ∀ position, p.Writes position source at_ t reached

theorem leads_nil [CharNames] {σ : Type} (p : Program σ) (at_ : Reached σ) : p.Leads [] at_ [] at_ :=
  fun _ => (writes_nil p).2 ⟨rfl, rfl⟩

variable {p : PureProgram} (builtin : p.registry = Registry.builtins) {at_ reached : Reached Unit} {rest t : Text}
include builtin

theorem knows_directive (d : Directive) : p.registry.knows d.name = true := by
  rw [builtin]
  cases d <;> rfl

section

variable [CharNames]

theorem Leads.directive {d : Directive} {effect : Effect} (found : d.effect? [] = some effect)
    (colored : ∀ color ∈ effect.color?, Style.IsColor color) (recalls : ∀ s, effect.recalled s = [])
    (later : p.Leads rest (effect.apply at_.1, at_.2) t reached) :
    p.Leads (.char '\x7b' :: (d.name ++ .char '\x7d' :: rest)) at_ (effect.output p.colors at_.1 ++ t) reached := by
  intro position
  have writes := later (position + 1 + d.name.length + 1)
  exact (writes_call p d.isName (knows_directive builtin d)).2
    ⟨_, _, t, runCall_of_effect? builtin found colored position (by simp [recalls]), writes, rfl⟩

theorem Leads.number {d : Directive} {effect : Effect} {n : Nat} (short : Numeral.isLong n = false)
    (found : d.effect? [.number n] = some effect) (colored : ∀ color ∈ effect.color?, Style.IsColor color)
    (recalls : ∀ s, effect.recalled s = [])
    (later : p.Leads rest (effect.apply at_.1, at_.2) t reached) :
    p.Leads (.char '\x7b' :: (d.name ++ .char ' ' :: (Text.ofNat n ++ .char '\x7d' :: rest))) at_
      (effect.output p.colors at_.1 ++ t) reached := by
  intro position
  have writes := later (position + 1 + d.name.length + 1 + (Text.ofNat n).length + 1)
  exact (writes_callNumber p d.isName (knows_directive builtin d) short).2
    ⟨_, _, t, runCall_of_effect? builtin found colored position (by simp [recalls]), writes, rfl⟩

theorem Leads.color (d off : Directive) (f : Option Int → Effect) (asks : ∀ color, (f color).color? = color)
    (recalls : ∀ color s, (f color).recalled s = [])
    (sets : ∀ n, d.effect? [.number n] = some (f (some n))) (clears : off.effect? [] = some (f none))
    (named : off.name = "no" ++ d.name) {color : Option Int} (isColor : ∀ n ∈ color, Style.IsColor n)
    (later : p.Leads rest ((f color).apply at_.1, at_.2) t reached) :
    p.Leads (Style.colorDirective d.name color ++ rest) at_ ((f color).output p.colors at_.1 ++ t) reached := by
  cases color with
  | none =>
      have leads := Leads.directive builtin clears (by simp [asks]) (recalls _) later
      simpa [Style.colorDirective, named] using leads
  | some color =>
      have range := isColor color rfl
      obtain ⟨n, rfl⟩ := Int.eq_ofNat_of_zero_le range.1
      have small : n ≤ 255 := by
        have upper := range.2
        omega
      have short : Numeral.isLong n = false := Numeral.isLong_of_le small (by decide +kernel)
      have leads := Leads.number builtin short (sets n) (by rw [asks]; exact isColor) (recalls _) later
      simpa [Style.colorDirective, Text.ofInt] using leads

theorem Leads.attribute (d off : Directive) (f : Bool → Effect) (asks : ∀ on, (f on).color? = none)
    (recalls : ∀ on s, (f on).recalled s = [])
    (sets : d.effect? [] = some (f true)) (clears : off.effect? [] = some (f false))
    (named : off.name = "no" ++ d.name) {on : Bool} (later : p.Leads rest ((f on).apply at_.1, at_.2) t reached) :
    p.Leads (Style.attributeDirective d.name on ++ rest) at_ ((f on).output p.colors at_.1 ++ t) reached := by
  cases on with
  | false =>
      have leads := Leads.directive builtin clears (by simp [asks]) (recalls _) later
      simpa [Style.attributeDirective, named] using leads
  | true =>
      have leads := Leads.directive builtin sets (by simp [asks]) (recalls _) later
      simpa [Style.attributeDirective] using leads

theorem leads_directives {s : Style} (inRange : s.InRange) (at_ : Reached Unit) :
    p.Leads s.directives at_ (s.spelled p.colors) (s, at_.2) := by
  obtain ⟨foreground, background, bold, reversed⟩ := s
  have source : Style.directives ⟨foreground, background, bold, reversed⟩ =
      Style.colorDirective Directive.fg.name foreground ++ (Style.colorDirective Directive.bg.name background ++
        (Style.attributeDirective Directive.bold.name bold ++
          (Style.attributeDirective Directive.reverse.name reversed ++ []))) := by
    rw [List.append_nil, ← List.append_assoc, ← List.append_assoc]
    rfl
  have output : Style.spelled p.colors ⟨foreground, background, bold, reversed⟩ =
      (Effect.foreground foreground).output p.colors at_.1 ++ ((Effect.background background).output p.colors at_.1 ++
        ((Effect.bold bold).output p.colors at_.1 ++ ((Effect.reverse reversed).output p.colors at_.1 ++ []))) := by
    rw [List.append_nil]
    rfl
  rw [source, output]
  refine Leads.color builtin .fg .nofg .foreground (fun _ => rfl) (fun _ _ => rfl) (fun _ => rfl) rfl rfl inRange.1 ?_
  refine Leads.color builtin .bg .nobg .background (fun _ => rfl) (fun _ _ => rfl) (fun _ => rfl) rfl rfl inRange.2 ?_
  refine Leads.attribute builtin .bold .nobold .bold (fun _ => rfl) (fun _ _ => rfl) rfl rfl rfl ?_
  refine Leads.attribute builtin .reverse .noreverse .reverse (fun _ => rfl) (fun _ _ => rfl) rfl rfl rfl ?_
  exact leads_nil p _

end

end Program

/-- A style whose colours the terminal has can be written out, read and run; what is written then spells it out. -/
theorem PureProgram.outcome_directives [CharNames] (colors : Bool) {s : Style} (inRange : s.InRange) :
    (compileAndExecute [] colors s.directives Style.plain).outcome.1 = .ok (s.spelled colors) := by
  let p (nodes : List Node) : PureProgram := ⟨Registry.builtins, nodes, colors⟩
  have leads : (p []).Leads s.directives (Style.plain, ()) (s.spelled colors) (s, ()) :=
    Program.leads_directives rfl inRange _
  obtain ⟨nodes, read, ran⟩ := leads 0
  have found : Program.read (σ := Unit) [] colors s.directives = .ok (p nodes) := congrArg (Except.map p) read
  rw [@Program.runNodes_congr _ (p []) (p nodes) rfl rfl] at ran
  have output : (execute (p nodes) Style.plain).1 = .ok (s.spelled colors) := congrArg Prod.fst ran
  simp only [Walk.outcome_compileAndExecute, found, output]

theorem Walk.wayBack_eq [CharNames] (colors : Bool) {s : Style} (inRange : s.InRange) :
    Walk.wayBack colors s = some (s.spelled colors) := by
  cases colors with
  | false => rfl
  | true =>
      simp only [wayBack, if_true, PureProgram.outcome_directives true inRange]
      rfl

end LogStyle
