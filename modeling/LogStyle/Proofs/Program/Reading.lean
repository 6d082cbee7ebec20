import LogStyle.Outcome
import LogStyle.Program.Node
import LogStyle.Proofs.Program.Seam

/-! # What nodes are read from

Reading takes the tokens one by one and carries the call that is open, just as the scanner knows whether a
directive is open. So tokens behind tokens are read on from the open call; the texts between calls come from
outside of braces, and every call is one of something known.
-/

namespace LogStyle

namespace Lexeme

theorem text_of_stray {c : CodePoint} {rest : Text} (stray : (inside c rest).kind = .stray) :
    (inside c rest).text = [c] := by
  have inner := inner_inside c rest
  generalize inside c rest = token at inner stray ⊢
  cases inner with
  | stray => rfl
  | blank | quoted | raw | integer | name | close => cases stray

theorem brace_not_mem_outside {c : CodePoint} {rest : Text} (text : (outside c rest).kind ≠ .brace) :
    .char '\x7b' ∉ (outside c rest).text := by
  unfold outside at text ⊢
  split at text
  · simp at text
  · next other =>
    rw [if_neg other]
    intro member
    rcases List.mem_cons.1 member with here | kept
    · exact other here.symm
    · simpa using List.mem_takeWhile_imp kept

end Lexeme

namespace Token

theorem infix_of_mem_scanFrom {open_ : Bool} {position : Nat} {t : Text} {token : Token}
    (member : token ∈ scanFrom open_ position t) : token.text <:+: t := by
  induction open_, position, t using scanFrom.induct with
  | case1 open_ position => simp at member
  | case2 open_ position c rest lexeme ih =>
      have whole := (first_splits open_ c rest).1
      rw [scanFrom_cons] at member
      rcases List.mem_cons.1 member with rfl | later
      · exact ⟨[], _, by rw [List.nil_append]; exact whole⟩
      · exact (ih later).trans ⟨_, [], by rw [List.append_nil]; exact whole⟩

theorem single_of_stray {open_ : Bool} {position : Nat} {t : Text} {token : Token}
    (member : token ∈ scanFrom open_ position t) (stray : token.kind = .stray) :
    ∃ c, token.text = [c] := by
  induction open_, position, t using scanFrom.induct with
  | case1 open_ position => simp at member
  | case2 open_ position c rest lexeme ih =>
      rw [scanFrom_cons] at member
      rcases List.mem_cons.1 member with rfl | later
      · refine ⟨c, ?_⟩
        cases open_ with
        | false =>
            simp only [first, Lexeme.outside, Bool.false_eq_true, if_false] at stray
            split at stray <;> simp [Lexeme.run] at stray
        | true =>
            exact Lexeme.text_of_stray stray
      · exact ih later

end Token

namespace Node

/-- Read some tokens, giving the nodes that are finished and the call that is open behind them. -/
def feed [CharNames] (knows : Text → Bool) :
    Option Draft → List Token → Except CompileError (List Node × Option Draft)
  | d, [] => .ok ([], d)
  | none, token :: rest =>
    if token.kind = .brace then feed knows (some { position := token.position }) rest
    else (feed knows none rest).map fun (nodes, d) => (.text token.text :: nodes, d)
  | some d, token :: rest =>
    if token.kind = .brace then do
      let node ← d.close knows
      (feed knows none rest).map fun (nodes, d) => (node :: nodes, d)
    else do
      let d ← d.add token
      feed knows (some d) rest

theorem readFrom_names (names names' : CharNames) (knows : Text → Bool) (d : Option Draft) {tokens : List Token}
    (unquoted : ∀ token ∈ tokens, token.kind ≠ .quoted) :
    @readFrom names knows d tokens = @readFrom names' knows d tokens := by
  induction tokens generalizing d with
  | nil => cases d <;> rfl
  | cons token rest ih =>
      have onward (d : Option Draft) := ih d fun other member => unquoted other (List.mem_cons_of_mem _ member)
      have added (d : Draft) : @Draft.add names d token = @Draft.add names' d token := by
        have plain := unquoted token List.mem_cons_self
        unfold Draft.add
        cases kind : token.kind with
        | quoted => exact absurd kind plain
        | brace | text | blank | name | integer | raw | stray => rfl
      cases d with
      | none => simp only [readFrom, onward]
      | some d => simp only [readFrom, onward, added]

section

variable [CharNames]

theorem readFrom_append (knows : Text → Bool) (d : Option Draft) (front back : List Token) :
    readFrom knows d (front ++ back) =
      match feed knows d front with
      | .error e => .error e
      | .ok (nodes, d) => (readFrom knows d back).map (nodes ++ ·) := by
  induction front generalizing d with
  | nil => cases h : readFrom knows d back <;> simp [feed, h, Except.map]
  | cons token rest ih =>
      cases d with
      | none =>
          simp only [List.cons_append, readFrom, feed]
          split
          · exact ih _
          · rw [ih]
            rcases feed knows none rest with e | ⟨nodes, d⟩
            · rfl
            · simp only [Except.map]
              cases readFrom knows d back <;> rfl
      | some d =>
          simp only [List.cons_append, readFrom, feed]
          split
          · cases d.close knows with
            | error e => rfl
            | ok node =>
                simp only [bind, Except.bind, ih]
                rcases feed knows none rest with e | ⟨nodes, d⟩
                · rfl
                · simp only [Except.map]
                  cases readFrom knows d back <;> rfl
          · cases d.add token with
            | error e => rfl
            | ok d => exact ih _

theorem feed_append (knows : Text → Bool) (d : Option Draft) (front back : List Token) :
    feed knows d (front ++ back) =
      match feed knows d front with
      | .error e => .error e
      | .ok (nodes, d) => (feed knows d back).map fun (more, d) => (nodes ++ more, d) := by
  induction front generalizing d with
  | nil => cases h : feed knows d back <;> simp [feed, h, Except.map]
  | cons token rest ih =>
      cases d with
      | none =>
          simp only [List.cons_append, feed]
          split
          · exact ih _
          · rw [ih]
            rcases feed knows none rest with e | ⟨nodes, d⟩
            · rfl
            · simp only [Except.map]
              cases feed knows d back <;> rfl
      | some d =>
          simp only [List.cons_append, feed]
          split
          · cases d.close knows with
            | error e => rfl
            | ok node =>
                simp only [bind, Except.bind, ih]
                rcases feed knows none rest with e | ⟨nodes, d⟩
                · rfl
                · simp only [Except.map]
                  cases feed knows d back <;> rfl
          · cases d.add token with
            | error e => rfl
            | ok d => exact ih _

theorem readFrom_eq_feed (knows : Text → Bool) (d : Option Draft) (tokens : List Token) :
    readFrom knows d tokens =
      match feed knows d tokens with
      | .error e => .error e
      | .ok (nodes, none) => .ok nodes
      | .ok (_, some d) => .error (.unclosed d.position) := by
  rw [← List.append_nil tokens, readFrom_append, List.append_nil]
  rcases feed knows d tokens with e | ⟨nodes, _ | d⟩
  · rfl
  · simp [readFrom, Except.map]
  · rfl

theorem feed_of_readFrom {knows : Text → Bool} {d : Option Draft} {tokens : List Token} {nodes : List Node}
    (read : readFrom knows d tokens = .ok nodes) : feed knows d tokens = .ok (nodes, none) := by
  rw [readFrom_eq_feed] at read
  rcases fed : feed knows d tokens with e | ⟨found, _ | d⟩
  · simp [fed] at read
  · simp only [fed, Except.ok.injEq] at read
    rw [read]
  · simp [fed] at read

theorem Draft.not_stray_of_add {d longer : Draft} {token : Token} (added : d.add token = .ok longer) :
    token.kind ≠ .stray := by
  intro stray
  simp only [add, stray] at added
  cases name : d.name <;> simp [name] at added

theorem feed_cons {knows : Text → Bool} {d d' : Option Draft} {token : Token} {rest : List Token}
    {nodes : List Node} (fed : feed knows d (token :: rest) = .ok (nodes, d')) :
    ∃ between more, feed knows between rest = .ok (more, d') ∧
      between.isSome = Token.opens d.isSome token.kind ∧ (d.isSome = true → token.kind ≠ .stray) := by
  cases d with
  | none =>
      simp only [feed] at fed
      split at fed
      · next brace => exact ⟨_, nodes, fed, by simp [Token.opens, brace], by simp⟩
      · next other =>
          obtain ⟨⟨more, d⟩, fed, parts⟩ := Outcome.map_eq_ok.1 fed
          simp only [Prod.mk.injEq] at parts
          exact ⟨none, more, parts.2 ▸ fed, by simp [Token.opens, other], by simp⟩
  | some d =>
      simp only [feed] at fed
      split at fed
      · next brace =>
          obtain ⟨node, -, fed⟩ := Outcome.bind_eq_ok.1 fed
          obtain ⟨⟨more, d⟩, fed, parts⟩ := Outcome.map_eq_ok.1 fed
          simp only [Prod.mk.injEq] at parts
          exact ⟨none, more, parts.2 ▸ fed, by simp [Token.opens, brace], by simp [brace]⟩
      · next other =>
          obtain ⟨longer, added, fed⟩ := Outcome.bind_eq_ok.1 fed
          exact ⟨some longer, nodes, fed, by simp [Token.opens, other], fun _ => Draft.not_stray_of_add added⟩

theorem isSome_of_feed {knows : Text → Bool} {d d' : Option Draft} {tokens : List Token} {nodes : List Node}
    (fed : feed knows d tokens = .ok (nodes, d')) : d'.isSome = Token.openAfter d.isSome tokens := by
  induction tokens generalizing d nodes with
  | nil =>
      simp only [feed, Except.ok.injEq, Prod.mk.injEq] at fed
      rw [← fed.2]
      rfl
  | cons token rest ih =>
      obtain ⟨between, more, fed, opened, -⟩ := feed_cons fed
      rw [ih fed, opened]
      rfl

theorem not_stray_of_feed {knows : Text → Bool} {position : Nat} {t : Text} {open_ : Bool}
    {d d' : Option Draft} {nodes : List Node} (aligned : d.isSome = open_)
    (fed : feed knows d (Token.scanFrom open_ position t) = .ok (nodes, d')) :
    ∀ token ∈ Token.scanFrom open_ position t, token.kind ≠ .stray := by
  induction open_, position, t using Token.scanFrom.induct generalizing d nodes with
  | case1 open_ position => simp
  | case2 open_ position c rest lexeme =>
      rename_i ih
      rw [Token.scanFrom_cons] at fed ⊢
      obtain ⟨between, more, fed, opened, inside⟩ := feed_cons fed
      intro token member
      rcases List.mem_cons.1 member with rfl | later
      · cases open_ with
        | true => exact inside aligned
        | false =>
            simp only [Token.first, Lexeme.outside, Bool.false_eq_true, if_false]
            split <;> simp [Lexeme.run]
      · exact ih (by rw [opened, aligned]) fed token later

end

theorem Draft.call_of_close {knows : Text → Bool} {d : Draft} {node : Node}
    (closed : d.close knows = .ok node) :
    ∃ name, node = .call name d.args d.position ∧ knows name = true := by
  unfold close at closed
  split at closed
  · cases closed
  · next name _ =>
      split at closed
      · next known =>
          cases closed
          exact ⟨name, rfl, known⟩
      · cases closed

theorem known_of_readFrom [CharNames] {knows : Text → Bool} {d : Option Draft} {tokens : List Token}
    {nodes : List Node} (read : readFrom knows d tokens = .ok nodes) {name : Text} {args : List Arg}
    {position : Nat} (member : .call name args position ∈ nodes) : knows name = true := by
  induction tokens generalizing d nodes with
  | nil =>
      cases d with
      | none =>
          cases read
          simp at member
      | some d => cases read
  | cons token rest ih =>
      cases d with
      | none =>
          simp only [readFrom] at read
          split at read
          · exact ih read member
          · obtain ⟨more, later, rfl⟩ := Outcome.map_eq_ok.1 read
            exact ih later (by simpa using member)
      | some d =>
          simp only [readFrom] at read
          split at read
          · obtain ⟨node, closed, behind⟩ := Outcome.bind_eq_ok.1 read
            obtain ⟨more, later, whole⟩ := Outcome.bind_eq_ok.1 behind
            cases whole
            obtain ⟨known, rfl, isKnown⟩ := Draft.call_of_close closed
            rcases List.mem_cons.1 member with here | inner
            · rw [(Node.call.inj here).1]
              exact isKnown
            · exact ih later inner
          · obtain ⟨longer, -, later⟩ := Outcome.bind_eq_ok.1 read
            exact ih later member

theorem brace_not_mem_of_readFrom [CharNames] {knows : Text → Bool} {open_ : Bool} {position : Nat} {source : Text}
    {d : Option Draft} {nodes : List Node} (inside : d.isSome = open_)
    (read : readFrom knows d (Token.scanFrom open_ position source) = .ok nodes) {u : Text}
    (member : .text u ∈ nodes) : .char '\x7b' ∉ u := by
  induction open_, position, source using Token.scanFrom.induct generalizing d nodes with
  | case1 open_ position =>
      rw [Token.scanFrom_nil] at read
      cases d with
      | none =>
          cases read
          simp at member
      | some d => cases read
  | case2 open_ position c rest lexeme =>
      rename_i onward
      rw [Token.scanFrom_cons] at read
      cases d with
      | none =>
          obtain rfl : false = open_ := inside
          simp only [readFrom] at read
          by_cases brace : lexeme.kind = .brace
          · rw [if_pos brace] at read
            exact onward (by simp [Token.opens, brace]) read member
          · rw [if_neg brace] at read
            obtain ⟨more, later, rfl⟩ := Outcome.map_eq_ok.1 read
            rcases List.mem_cons.1 member with here | behind
            · rw [Node.text.inj here]
              exact Lexeme.brace_not_mem_outside brace
            · exact onward (d := none) (by simp [Token.opens, brace]) later behind
      | some d =>
          obtain rfl : true = open_ := inside
          simp only [readFrom] at read
          by_cases brace : lexeme.kind = .brace
          · rw [if_pos brace] at read
            obtain ⟨node, closed, behind⟩ := Outcome.bind_eq_ok.1 read
            obtain ⟨more, later, whole⟩ := Outcome.bind_eq_ok.1 behind
            cases whole
            obtain ⟨name, rfl, -⟩ := Draft.call_of_close closed
            exact onward (d := none) (by simp [Token.opens, brace]) later (by simpa using member)
          · rw [if_neg brace] at read
            obtain ⟨longer, -, later⟩ := Outcome.bind_eq_ok.1 read
            exact onward (d := some longer) (by simp [Token.opens, brace]) later member

end Node

end LogStyle
