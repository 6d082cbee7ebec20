import LogStyle.Palette.Basic
import LogStyle.Proofs.Formatter.Direct
import LogStyle.Proofs.Program.Argument
import LogStyle.Proofs.Text.Sequence

/-! # Decorative programs

A program of built-in directives that draw no glyph only styles what is around it: it runs from every style, and
what it writes is escape sequences. All its arguments are numbers, so there is no text in it that could hold a
field.
-/

namespace LogStyle

/-- Whether a directive draws no glyph. -/
def Directive.decorates : Directive → Bool
  | .leave | .enter => false
  | _ => true

/-- A call that only styles what is around it. -/
def Node.Decorative : Node → Prop
  | .text _ => False
  | .call name args _ => ∃ d ∈ Directive.all, d.name = name ∧ d.decorates = true ∧
    ∃ effect ∈ d.effect? args, ∀ color ∈ effect.color?, Style.IsColor color

instance : DecidablePred Node.Decorative
  | .text _ => inferInstanceAs (Decidable False)
  | .call _ _ _ => inferInstanceAs (Decidable (∃ d ∈ Directive.all, _ ∧ _ ∧ ∃ effect ∈ _, _))

/-- A fragment of directives that only style what is around them. -/
def Text.Decorative [CharNames] (fragment : Text) : Prop :=
  ∃ p : PureProgram, Program.read [] true fragment = .ok p ∧ ∀ node ∈ p.nodes, node.Decorative

/-- A palette of such fragments. -/
def Palette.Decorative [CharNames] (p : Palette) : Prop :=
  ∀ level part, Text.Decorative ((p level).fragment part)

instance [CharNames] (fragment : Text) : Decidable (Text.Decorative fragment) :=
  decidable_of_iff
    ((Program.read (σ := Unit) [] true fragment).toOption.any fun p => ∀ node ∈ p.nodes, node.Decorative) <| by
    unfold Text.Decorative
    cases Program.read (σ := Unit) [] true fragment <;> simp [Except.toOption]

instance [CharNames] (p : Palette) : Decidable p.Decorative :=
  decidable_of_iff (∀ level ∈ Level.all, ∀ part ∈ Part.all, Text.Decorative ((p level).fragment part)) <| by
    simp [Palette.Decorative]

theorem Text.Decorative.of_names {names : CharNames} (names' : CharNames) {fragment : Text}
    (unquoted : ∀ token ∈ Token.scan fragment, token.kind ≠ .quoted) (decorative : @Text.Decorative names fragment) :
    @Text.Decorative names' fragment := by
  obtain ⟨p, known, nodes⟩ := decorative
  refine ⟨p, ?_, nodes⟩
  simp only [Program.read, Node.read] at known ⊢
  rw [← known, Node.readFrom_names names' names _ _ unquoted]

section

attribute [local instance] CharNames.none

theorem Palette.decorative_builtins_of_none : ∀ entry ∈ Palette.builtins, entry.2.Decorative := by
  decide +kernel

end

theorem Palette.decorative_builtins [names : CharNames] : ∀ entry ∈ Palette.builtins, entry.2.Decorative := by
  have unquoted : ∀ entry ∈ Palette.builtins, ∀ level ∈ Level.all, ∀ part ∈ Part.all,
      ∀ token ∈ Token.scan ((entry.2 level).fragment part), token.kind ≠ .quoted := by decide +kernel
  intro entry member level part
  exact (decorative_builtins_of_none entry member level part).of_names names
    (unquoted entry member level level.mem_all part part.mem_all)

namespace Directive

theorem exists_parameters {d : Directive} (decorates : d.decorates = true) {args : List Arg} {effect : Effect}
    (found : d.effect? args = some effect) (colored : ∀ color ∈ effect.color?, Style.IsColor color) :
    ∃ parameters, (∀ c ∈ parameters, isParameter c = true) ∧
      ∀ colors s, effect.output colors s = Style.sequence colors parameters := by
  cases effect with
  | foreground color =>
      exact ⟨Style.foregroundCode color, Style.isParameter_of_mem_foregroundCode colored, fun colors s => rfl⟩
  | background color =>
      exact ⟨Style.backgroundCode color, Style.isParameter_of_mem_backgroundCode colored, fun colors s => rfl⟩
  | bold on => exact ⟨if on then "1" else "22", List.all_eq_true.1 (by cases on <;> decide), fun colors s => rfl⟩
  | reverse on => exact ⟨if on then "7" else "27", List.all_eq_true.1 (by cases on <;> decide), fun colors s => rfl⟩
  | leave glyph color =>
      obtain ⟨rfl, -⟩ := of_effect?_leave found
      cases decorates
  | enter color glyph =>
      obtain ⟨rfl, -⟩ := of_effect?_enter found
      cases decorates
  | reset => exact ⟨"0", List.all_eq_true.1 (by decide), fun colors s => rfl⟩

theorem recalled_of_decorates {d : Directive} (decorates : d.decorates = true) {args : List Arg} {effect : Effect}
    (found : d.effect? args = some effect) (s : Style) : effect.recalled s = [] := by
  cases effect with
  | foreground | background | bold | reverse | reset => rfl
  | leave glyph color =>
      obtain ⟨rfl, -⟩ := of_effect?_leave found
      cases decorates
  | enter color glyph =>
      obtain ⟨rfl, -⟩ := of_effect?_enter found
      cases decorates

theorem number_of_effect? {d : Directive} (decorates : d.decorates = true) {args : List Arg} {effect : Effect}
    (found : d.effect? args = some effect) (t : Text) : .text t ∉ args := by
  unfold effect? at found
  split at found <;> simp_all [Directive.decorates]

end Directive

namespace Program

variable {p : PureProgram} (builtin : p.registry = Registry.builtins)
include builtin

theorem runCall_of_effect? {d : Directive} {args : List Arg} {effect : Effect} (found : d.effect? args = some effect)
    (colored : ∀ color ∈ effect.color?, Style.IsColor color) (position : Nat) {at_ : Reached Unit}
    (short : ∀ color ∈ effect.recalled at_.1, Numeral.isLong color = false) :
    p.runCall d.name args position at_ = (.ok (effect.output p.colors at_.1), effect.apply at_.1, at_.2) := by
  have meaning : p.registry.find? d.name = some (.builtin d) := by
    rw [builtin]
    cases d <;> rfl
  exact (runCall_eq_ok meaning).2 ⟨effect, found, runEffect_eq_ok.2 ⟨⟨colored, short⟩, rfl, rfl⟩⟩

theorem exists_runNode_of_decorative {node : Node} (decorative : node.Decorative) (at_ : Reached Unit) :
    ∃ t reached, p.runNode node at_ = (.ok t, reached) ∧ Text.ErasesTo t [] := by
  cases node with
  | text t => exact decorative.elim
  | call name args position =>
      obtain ⟨d, listed, rfl, decorates, effect, found, colored⟩ := decorative
      obtain ⟨parameters, plain, output⟩ := Directive.exists_parameters decorates found colored
      have short : ∀ color ∈ effect.recalled at_.1, Numeral.isLong color = false := by
        simp [Directive.recalled_of_decorates decorates found]
      exact ⟨_, _, runCall_of_effect? builtin found colored position short,
        output p.colors at_.1 ▸ Style.erasesTo_sequence plain p.colors⟩

theorem exists_runNodes_of_decorative {nodes : List Node} (decorative : ∀ node ∈ nodes, node.Decorative)
    (at_ : Reached Unit) : ∃ t reached, p.runNodes nodes at_ = (.ok t, reached) ∧ Text.ErasesTo t [] := by
  induction nodes generalizing at_ with
  | nil => exact ⟨[], at_, rfl, Text.erasesTo_nil⟩
  | cons node rest ih =>
      obtain ⟨t, between, here, erases⟩ :=
        exists_runNode_of_decorative builtin (decorative node List.mem_cons_self) at_
      obtain ⟨u, reached, later, erases'⟩ := ih (fun other member => decorative other (List.mem_cons_of_mem _ member))
        between
      refine ⟨t ++ u, reached, ?_, erases.append erases'⟩
      rw [runNodes_cons, here, Sequel.andThen_ok, later]
      rfl

end Program

namespace Lexeme

theorem dollar_not_mem_outside_of_brace {c : CodePoint} {rest : Text} (brace : (outside c rest).kind = .brace) :
    .char '$' ∉ (outside c rest).text := by
  unfold outside at brace ⊢
  split
  · next opening => simp [opening]
  · next other => simp [if_neg other, run] at brace

theorem dollar_not_mem_run {kind : TokenClass} {keeps : CodePoint → Bool} (stops : keeps '$' = false) {c : CodePoint}
    (other : c ≠ '$') (rest : Text) : .char '$' ∉ (run kind keeps c rest).text := by
  intro member
  rcases List.mem_cons.1 member with here | kept
  · exact other here.symm
  · have keeps := List.mem_takeWhile_imp kept
    rw [stops] at keeps
    cases keeps

theorem dollar_not_mem_inside {c : CodePoint} {rest : Text} (quoted : (inside c rest).kind ≠ .quoted)
    (raw : (inside c rest).kind ≠ .raw) (stray : (inside c rest).kind ≠ .stray) : .char '$' ∉ (inside c rest).text := by
  have inner := inner_inside c rest
  generalize inside c rest = token at inner quoted raw stray ⊢
  cases inner with
  | blank blank => exact dollar_not_mem_run (by decide) (by rintro rfl; exact absurd blank (by decide)) rest
  | integer starts =>
      refine dollar_not_mem_run (by decide) ?_ rest
      rintro rfl
      have decimal : isDecimal '$' = false := by decide
      simp [decimal] at starts
  | name start => exact dollar_not_mem_run (by decide) (by rintro rfl; exact absurd start (by decide)) rest
  | close close => simp [close]
  | quoted => exact absurd rfl quoted
  | raw => exact absurd rfl raw
  | stray => exact absurd rfl stray

end Lexeme

namespace Node

theorem Draft.exists_text_of_add [CharNames] {d longer : Draft} {token : Token} (added : d.add token = .ok longer)
    (kind : token.kind = .quoted ∨ token.kind = .raw) : ∃ t, .text t ∈ longer.args := by
  rcases kind with quoted | raw
  · simp only [add, quoted] at added
    cases decoded : Literal.decode (inner token.text) with
    | error why => simp [decoded] at added
    | ok t =>
        simp only [decoded, Except.ok.injEq] at added
        exact ⟨t, by simp [← added, addArg]⟩
  · simp only [add, raw, Except.ok.injEq] at added
    exact ⟨inner token.text, by simp [← added, addArg]⟩

theorem dollar_not_mem_of_readFrom [CharNames] {knows : Text → Bool} {open_ : Bool} {position : Nat} {source : Text}
    {d : Option Draft} {nodes : List Node} (aligned : d.isSome = open_)
    (read : readFrom knows d (Token.scanFrom open_ position source) = .ok nodes)
    (bare : ∀ node ∈ nodes, ∃ name args place, node = .call name args place ∧ ∀ t, .text t ∉ args) :
    .char '$' ∉ source := by
  induction open_, position, source using Token.scanFrom.induct generalizing d nodes with
  | case1 open_ position => simp
  | case2 open_ position c rest lexeme =>
      rename_i onward
      have whole : lexeme.text ++ lexeme.rest = c :: rest := (Token.first_splits open_ c rest).1
      rw [← whole]
      rw [Token.scanFrom_cons] at read
      cases d with
      | none =>
          obtain rfl : false = open_ := aligned
          simp only [readFrom] at read
          by_cases brace : lexeme.kind = .brace
          · rw [if_pos brace] at read
            refine List.not_mem_append ?_ (onward (by simp [Token.opens, brace]) read bare)
            exact Lexeme.dollar_not_mem_outside_of_brace brace
          · rw [if_neg brace] at read
            obtain ⟨more, -, rfl⟩ := Outcome.map_eq_ok.1 read
            obtain ⟨name, args, place, isCall, -⟩ := bare _ List.mem_cons_self
            cases isCall
      | some d =>
          obtain rfl : true = open_ := aligned
          simp only [readFrom] at read
          by_cases brace : lexeme.kind = .brace
          · rw [if_pos brace] at read
            obtain ⟨node, closed, behind⟩ := Outcome.bind_eq_ok.1 read
            obtain ⟨more, later, same⟩ := Outcome.bind_eq_ok.1 behind
            cases same
            have rest := onward (d := none) (by simp [Token.opens, brace]) later fun other member =>
              bare other (List.mem_cons_of_mem _ member)
            have kind : (Lexeme.inside c _).kind = .brace := brace
            exact List.not_mem_append (Lexeme.dollar_not_mem_inside (by simp [kind]) (by simp [kind]) (by simp [kind]))
              rest
          · rw [if_neg brace] at read
            obtain ⟨longer, added, later⟩ := Outcome.bind_eq_ok.1 read
            have rest := onward (d := some longer) (by simp [Token.opens, brace]) later bare
            -- A text that is added to a call stays among its arguments.
            have plain (kind : lexeme.kind = .quoted ∨ lexeme.kind = .raw) : False := by
              obtain ⟨t, member⟩ := Draft.exists_text_of_add added kind
              obtain ⟨name, args, more, rfl, -⟩ := exists_call_of_readFrom later
              obtain ⟨_, args', _, isCall, none⟩ := bare _ List.mem_cons_self
              cases isCall
              exact none t (List.mem_append_left _ member)
            refine List.not_mem_append (Lexeme.dollar_not_mem_inside ?_ ?_ (Draft.not_stray_of_add added)) rest
            · exact fun quoted => plain (.inl quoted)
            · exact fun raw => plain (.inr raw)

end Node

theorem Text.Decorative.dollar_not_mem [CharNames] {fragment : Text} (decorative : Text.Decorative fragment) :
    .char '$' ∉ fragment := by
  obtain ⟨p, found, calls⟩ := decorative
  obtain ⟨nodes, read, rfl⟩ := Outcome.map_eq_ok.1 found
  refine Node.dollar_not_mem_of_readFrom rfl read fun node member => ?_
  have here := calls node member
  cases node with
  | text t => exact here.elim
  | call name args position =>
      obtain ⟨d, -, -, decorates, effect, found, -⟩ := here
      exact ⟨name, args, position, rfl, Directive.number_of_effect? decorates found⟩

theorem Text.Decorative.exists_outcome [CharNames] {fragment : Text} (decorative : Text.Decorative fragment) (s : Style) :
    ∃ sequence, (PureProgram.compileAndExecute [] true fragment s).outcome.1 = .ok sequence ∧
      Text.ErasesTo sequence [] := by
  obtain ⟨p, read, calls⟩ := decorative
  have builtin := (Program.builtin_of_read read).registry
  obtain ⟨sequence, reached, ran, erases⟩ := Program.exists_runNodes_of_decorative builtin calls (s, ())
  refine ⟨sequence, ?_, erases⟩
  rw [Walk.outcome_compileAndExecute, read]
  simp only [PureProgram.execute, Program.execute, ran]

end LogStyle
