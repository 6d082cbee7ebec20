import LogStyle.Proofs.Conditional.Entry
import Mathlib.Data.List.Nodup

/-! # Numbers of conditional styles

Directives of formats are called one after another, with any values and in any style. Which conditional style a
call asks for is settled by the call and the style in force where it is made; the ledger only lends it a number.
So the numbers in use are those from zero on, each for the style it was handed out for, and a call that enters
nothing might as well not have been made.
-/

namespace LogStyle

namespace Ledger

/-- How many conditional styles can be numbered. -/
@[irreducible]
def capacity : Nat := Nat.pow 10 Numeral.digitLimit

theorem isLong_eq_false {n : Nat} : Numeral.isLong n = false ↔ n < capacity := by
  unfold Numeral.isLong capacity
  generalize Nat.pow 10 Numeral.digitLimit = bound
  simp

/-- The field of the conditional style with a number. -/
def numbered (n : Nat) : Text := placeholder (conditionalName ++ ":" ++ Text.ofNat n)

/-- The conditional style that a level and a fragment ask for where a style is in force, if it can be had. -/
def conditional? [CharNames] (colors : Bool) (outer : Style) (level fragment : Value) : Option Conditional :=
  match fragment with
  | .scalar (.text source) => do
    let previous ← Walk.wayBack colors outer
    let sequence ← (PureProgram.compileAndExecute [] colors source outer).outcome.1.toOption
    let target ← (target level).toOption
    some ⟨target, sequence, previous⟩
  | _ => none

/-- What is answered when a conditional style is asked for, and the conditional styles there are then. -/
inductive Recording (entry : Option Conditional) (before : List Conditional) :
    Except Fault Text → List Conditional → Prop where
  | enters {c : Conditional} (asked : entry = some c) (short : Numeral.isLong before.length = false) :
      Recording entry before (.ok (numbered before.length)) (before ++ [c])
  | diagnoses (stage message : Text) (stages : stage ∈ (["COMPILE", "EXECUTE"] : List Text))
      (nothing : entry = none) : Recording entry before (.ok (diagnostic stage message)) before
  | raises (fault : Fault) (nothing : entry = none ∨ Numeral.isLong before.length = true) :
      Recording entry before (.error fault) before

theorem enter_recording {l : Ledger} {before : List Conditional} (same : l.conditionals = before) (c : Conditional) :
    Recording (some c) before (l.enter c).1 (l.enter c).2.conditionals := by
  subst same
  unfold enter
  split
  · next long => exact .raises _ (.inr long)
  · next short => exact .enters rfl (Bool.eq_false_iff.2 short)

theorem runFragment_recording [CharNames] {colors : Bool} {outer : Style} {source : Text} {p : PureProgram}
    (read : Program.read [] colors source = .ok p) (level fragment : Value) {l : Ledger} {before : List Conditional}
    (same : l.conditionals = before) :
    Recording (conditional? colors outer level (.ofText source)) before (runFragment colors outer level fragment p l).1
      (runFragment colors outer level fragment p l).2.conditionals := by
  have found := Walk.toOption_wayBack colors outer l
  have kept := wayBack_conditionals colors outer l
  unfold runFragment conditional? Value.ofText
  simp only [Walk.outcome_compileAndExecute, read, ← found]
  cases way : wayBack colors outer l with
  | mk back l' =>
    rw [way] at kept
    have unchanged : l'.conditionals = before := kept.trans same
    cases back with
    | error fault =>
        simp only [unchanged]
        exact .raises fault (.inl rfl)
    | ok previous =>
        cases ran : (PureProgram.execute p outer).1 with
        | error e =>
            simp only [report, unchanged]
            exact .diagnoses "EXECUTE" _ (by simp) rfl
        | ok sequence =>
            cases named : target level with
            | error fault =>
                simp only [unchanged]
                exact .raises fault (.inl rfl)
            | ok name =>
                have entered := enter_recording unchanged ⟨name, sequence, previous⟩
                simpa only [Option.bind_eq_bind, Except.toOption, Option.bind_some] using entered

theorem record_recording [CharNames] (colors : Bool) (outer : Style) (level fragment : Value) (l : Ledger) :
    Recording (conditional? colors outer level fragment) l.conditionals (record colors outer level fragment l).1
      (record colors outer level fragment l).2.conditionals := by
  unfold record
  split
  · next source =>
      cases read : Program.read (σ := Unit) [] colors source with
      | error e =>
          have nothing : conditional? colors outer level (.scalar (.text source)) = none := by
            simp only [conditional?, Walk.outcome_compileAndExecute, read]
            cases Walk.wayBack colors outer <;> rfl
          simp only
          split
          · exact .diagnoses "COMPILE" _ (by simp) nothing
          · exact .raises _ (.inl nothing)
      | ok p => exact runFragment_recording read level _ rfl
  · next v other =>
      refine .raises _ (.inl ?_)
      unfold conditional?
      split
      · next source => exact absurd rfl (other source)
      · rfl

def Action.isConditional : Action → Bool
  | .onLevel | .on _ => true
  | .field | .store | .restore => false

/-- A call of a directive of formats, with the style in force where it is made; outside of formats there is none. -/
structure Call where
  action : Action
  outer : Option Style
  args : List Value

namespace Call

def run [CharNames] (colors : Bool) (call : Call) (l : Ledger) : Except Fault Text × Ledger :=
  call.action.run colors call.outer call.args l

/-- The conditional style that a call asks for, if it can be had. -/
def conditional? [CharNames] (colors : Bool) (call : Call) : Option Conditional :=
  match call.action, call.args, call.outer with
  | .onLevel, [level, fragment], some outer => Ledger.conditional? colors outer level fragment
  | .on level, [fragment], some outer => Ledger.conditional? colors outer (.ofText level.lower) fragment
  | _, _, _ => none

/-- What is answered to a call, and the conditional styles there are then. -/
inductive Answers [CharNames] (colors : Bool) (call : Call) (before : List Conditional) :
    Except Fault Text → List Conditional → Prop where
  | styles {answer : Except Fault Text} {after : List Conditional} (styled : call.action.isConditional = true)
      (recording : Recording (call.conditional? colors) before answer after) : Answers colors call before answer after
  | inserts (name : Text) (other : call.action.isConditional = false) :
      Answers colors call before (.ok (placeholder name)) before
  | refuses (fault : Fault) (other : call.action.isConditional = false) :
      Answers colors call before (.error fault) before

section

variable [CharNames]

theorem conditional?_of_other {colors : Bool} {call : Call} (other : call.action.isConditional = false) :
    call.conditional? colors = none := by
  unfold conditional?
  split
  · next action _ _ => simp [action, Action.isConditional] at other
  · next action _ _ => simp [action, Action.isConditional] at other
  · rfl

theorem conditional?_of_problem? {colors : Bool} {call : Call} {problem : Text}
    (refused : call.action.signature.problem? call.args.length = some problem) : call.conditional? colors = none := by
  have unfit : call.args.length ≠ call.action.signature.params.length := by
    intro fits
    rw [fits, Signature.problem?_length] at refused
    cases refused
  unfold conditional?
  split
  · next action args _ => exact absurd (by rw [action, args]; rfl) unfit
  · next action args _ => exact absurd (by rw [action, args]; rfl) unfit
  · rfl

theorem perform_answers (colors : Bool) (call : Call)
    (fits : call.args.length = call.action.signature.params.length) (l : Ledger) :
    call.Answers colors l.conditionals (call.action.perform colors call.outer call.args l).1
      (call.action.perform colors call.outer call.args l).2.conditionals := by
  obtain ⟨action, outer, args⟩ := call
  have conditional (level fragment : Value) :
      Recording (outer.bind fun outer => Ledger.conditional? colors outer level fragment) l.conditionals
        (Action.conditional colors outer level fragment l).1
        (Action.conditional colors outer level fragment l).2.conditionals := by
    cases outer with
    | none => exact .raises _ (.inl rfl)
    | some outer => exact record_recording colors outer level fragment l
  cases action with
  | field =>
      obtain ⟨name, rfl⟩ := List.length_eq_one_iff.1 fits
      exact .inserts _ rfl
  | store =>
      obtain rfl := List.length_eq_zero_iff.1 fits
      exact .inserts _ rfl
  | restore =>
      obtain rfl := List.length_eq_zero_iff.1 fits
      exact .inserts _ rfl
  | onLevel =>
      obtain ⟨level, fragment, rfl⟩ := List.length_eq_two.1 fits
      have recording := conditional level fragment
      cases outer <;> exact .styles rfl recording
  | on level =>
      obtain ⟨fragment, rfl⟩ := List.length_eq_one_iff.1 fits
      have recording := conditional (.ofText level.lower) fragment
      cases outer <;> exact .styles rfl recording

theorem run_answers (colors : Bool) (call : Call) (l : Ledger) :
    call.Answers colors l.conditionals (call.run colors l).1 (call.run colors l).2.conditionals := by
  unfold run Action.run
  split
  · next problem refused =>
      cases styled : call.action.isConditional with
      | false => exact .refuses _ styled
      | true => exact .styles styled (.raises _ (.inl (conditional?_of_problem? refused)))
  · next fits => exact perform_answers colors call (Signature.eq_of_problem?_eq_none fits) l

theorem Answers.enters_or_keeps {colors : Bool} {call : Call} {before after : List Conditional}
    {answer : Except Fault Text} (answers : call.Answers colors before answer after) :
    (∃ c, call.conditional? colors = some c ∧ before.length < capacity ∧ answer = .ok (numbered before.length) ∧
        after = before ++ [c]) ∨
      after = before ∧ (call.conditional? colors = none ∨ capacity ≤ before.length ∧ ∃ fault, answer = .error fault) := by
  cases answers with
  | inserts name other => exact .inr ⟨rfl, .inl (conditional?_of_other other)⟩
  | refuses fault other => exact .inr ⟨rfl, .inl (conditional?_of_other other)⟩
  | styles styled recording =>
      cases recording with
      | enters asked short => exact .inl ⟨_, asked, isLong_eq_false.1 short, rfl, rfl⟩
      | diagnoses stage message stages nothing => exact .inr ⟨rfl, .inl nothing⟩
      | raises fault why =>
          refine .inr ⟨rfl, why.imp_right fun long => ⟨?_, fault, rfl⟩⟩
          by_contra below
          rw [isLong_eq_false.2 (Nat.lt_of_not_le below)] at long
          cases long

end

end Call

def runCalls [CharNames] (colors : Bool) : List Call → Ledger → List (Except Fault Text) × Ledger
  | [], l => ([], l)
  | call :: rest, l =>
    let (answer, l) := call.run colors l
    let (answers, l) := runCalls colors rest l
    (answer :: answers, l)

/-- The fields that are answered to calls for conditional styles, each with what the call asks for. -/
def handedOut [CharNames] (colors : Bool) (calls : List Call) (answers : List (Except Fault Text)) :
    List (Text × Conditional) :=
  (calls.zip answers).filterMap fun (call, answer) => do
    let c ← call.conditional? colors
    let field ← answer.toOption
    some (field, c)

variable (colors : Bool)

section

variable [CharNames]

theorem runCalls_cons (call : Call) (rest : List Call) (l : Ledger) :
    runCalls colors (call :: rest) l =
      ((call.run colors l).1 :: (runCalls colors rest (call.run colors l).2).1,
        (runCalls colors rest (call.run colors l).2).2) := rfl

theorem runCalls_append (front back : List Call) (l : Ledger) :
    runCalls colors (front ++ back) l =
      ((runCalls colors front l).1 ++ (runCalls colors back (runCalls colors front l).2).1,
        (runCalls colors back (runCalls colors front l).2).2) := by
  induction front generalizing l with
  | nil => rfl
  | cons call rest ih => simp only [List.cons_append, runCalls_cons, ih]

theorem length_answers (calls : List Call) (l : Ledger) : (runCalls colors calls l).1.length = calls.length := by
  induction calls generalizing l with
  | nil => rfl
  | cons call rest ih => simp only [runCalls_cons, List.length_cons, ih]

theorem handedOut_cons (call : Call) (rest : List Call) (answer : Except Fault Text)
    (answers : List (Except Fault Text)) :
    handedOut colors (call :: rest) (answer :: answers) =
      ((call.conditional? colors).bind fun c => answer.toOption.map fun field => (field, c)).toList ++
        handedOut colors rest answers := by
  unfold handedOut
  rw [List.zip_cons_cons, List.filterMap_cons]
  cases asked : call.conditional? colors with
  | none => simp [asked]
  | some c => cases answer <;> simp [asked, Except.toOption]

/-- Whatever calls are made, the styles they ask for are entered in their order, as long as there are numbers for
    them. -/
theorem exists_entered (calls : List Call) (l : Ledger) :
    ∃ more, (runCalls colors calls l).2.conditionals = l.conditionals ++ more ∧
      more = (calls.filterMap (Call.conditional? colors)).take (capacity - l.conditionals.length) ∧
      handedOut colors calls (runCalls colors calls l).1 =
        (more.zipIdx l.conditionals.length).map fun (c, n) => (numbered n, c) := by
  induction calls generalizing l with
  | nil => exact ⟨[], by simp [runCalls], by simp, rfl⟩
  | cons call rest ih =>
      obtain ⟨more, entered, taken, handed⟩ := ih (call.run colors l).2
      rw [runCalls_cons, handedOut_cons, handed, entered]
      obtain ⟨c, asked, room, answered, after⟩ | ⟨kept, why⟩ := (call.run_answers colors l).enters_or_keeps
      · refine ⟨c :: more, by simp [after], ?_, by simp [asked, answered, after, Except.toOption]⟩
        rw [after, List.length_append, List.length_singleton] at taken
        obtain ⟨left, rest⟩ : ∃ left, capacity - l.conditionals.length = left + 1 := ⟨_, (Nat.succ_pred (by omega)).symm⟩
        rw [List.filterMap_cons, asked, rest, List.take_succ_cons, taken]
        congr 2
        omega
      · refine ⟨more, by rw [kept], ?_, ?_⟩
        · rw [taken, kept]
          rcases why with nothing | ⟨full, -⟩
          · rw [List.filterMap_cons, nothing]
          · rw [Nat.sub_eq_zero_of_le full, List.take_zero, List.take_zero]
        · rw [kept]
          rcases why with nothing | ⟨-, fault, raised⟩
          · simp [nothing]
          · simp [raised, Except.toOption]

end

section
variable {l l' : Ledger} (same : l'.conditionals = l.conditionals)
include same

theorem enter_congr (c : Conditional) :
    (l'.enter c).1 = (l.enter c).1 ∧ (l'.enter c).2.conditionals = (l.enter c).2.conditionals := by
  unfold enter
  rw [same]
  split
  · exact ⟨rfl, same⟩
  · exact ⟨rfl, rfl⟩

omit same in
variable (l l') in
theorem fst_wayBack [CharNames] (outer : Style) : (wayBack colors outer l').1 = (wayBack colors outer l).1 := by
  unfold wayBack
  split
  · split
    · rfl
    · split <;> rfl
  · rfl

variable [CharNames]

theorem runFragment_congr (outer : Style) (level fragment : Value) (p : PureProgram) :
    (runFragment colors outer level fragment p l').1 = (runFragment colors outer level fragment p l).1 ∧
      (runFragment colors outer level fragment p l').2.conditionals =
        (runFragment colors outer level fragment p l).2.conditionals := by
  have alike := fst_wayBack colors l l' outer
  have kept := wayBack_conditionals colors outer l
  have kept' := wayBack_conditionals colors outer l'
  unfold runFragment
  rcases way : wayBack colors outer l with ⟨back, after⟩
  rcases way' : wayBack colors outer l' with ⟨back', after'⟩
  rw [way] at kept
  rw [way'] at kept'
  obtain rfl : back' = back := by rwa [way, way'] at alike
  have still : after'.conditionals = after.conditionals := kept'.trans (same.trans kept.symm)
  cases back' with
  | error fault => exact ⟨rfl, still⟩
  | ok previous =>
      simp only
      split
      · exact ⟨rfl, still⟩
      · split
        · exact ⟨rfl, still⟩
        · exact enter_congr still _

theorem record_congr (outer : Style) (level fragment : Value) :
    (record colors outer level fragment l').1 = (record colors outer level fragment l).1 ∧
      (record colors outer level fragment l').2.conditionals =
        (record colors outer level fragment l).2.conditionals := by
  unfold record
  split
  · split
    · split
      · exact ⟨rfl, same⟩
      · exact ⟨rfl, same⟩
    · next p _ =>
        have still : (l'.report p.note).conditionals = (l.report p.note).conditionals := same
        exact runFragment_congr colors still outer level _ p
  · exact ⟨rfl, same⟩

theorem Call.run_congr (call : Call) :
    (call.run colors l').1 = (call.run colors l).1 ∧
      (call.run colors l').2.conditionals = (call.run colors l).2.conditionals := by
  have conditional (level fragment : Value) :
      (Action.conditional colors call.outer level fragment l').1 =
          (Action.conditional colors call.outer level fragment l).1 ∧
        (Action.conditional colors call.outer level fragment l').2.conditionals =
          (Action.conditional colors call.outer level fragment l).2.conditionals := by
    unfold Action.conditional
    split
    · exact ⟨rfl, same⟩
    · exact record_congr colors same _ level fragment
  unfold run Action.run
  split
  · exact ⟨rfl, same⟩
  · unfold Action.perform
    split
    · exact ⟨rfl, same⟩
    · exact conditional _ _
    · exact conditional _ _
    · exact ⟨rfl, same⟩
    · exact ⟨rfl, same⟩
    · exact ⟨rfl, same⟩

theorem runCalls_congr (calls : List Call) :
    (runCalls colors calls l').1 = (runCalls colors calls l).1 ∧
      (runCalls colors calls l').2.conditionals = (runCalls colors calls l).2.conditionals := by
  induction calls generalizing l l' with
  | nil => exact ⟨rfl, same⟩
  | cons call rest ih =>
      obtain ⟨answer, after⟩ := call.run_congr colors same
      obtain ⟨answers, final⟩ := ih after
      rw [runCalls_cons, runCalls_cons]
      exact ⟨congrArg₂ _ answer answers, final⟩

end

theorem numbered_injective : Function.Injective numbered := by
  intro m n same
  have digits : Text.ofNat m = Text.ofNat n := by simpa [numbered, placeholder, Segment.fieldText] using same
  rw [← Numeral.value_ofNat m, digits, Numeral.value_ofNat]

theorem map_fst_zipIdx (entries : List Conditional) :
    (entries.zipIdx.map fun (c, n) => (numbered n, c)).map Prod.fst = (List.range entries.length).map numbered := by
  rw [List.range_eq_range', ← List.zipIdx_map_snd 0 entries, List.map_map, List.map_map]
  rfl

theorem runCalls_eraseIdx [CharNames] {front back : List Call} {call : Call} {l : Ledger}
    (kept : (call.run colors (runCalls colors front l).2).2.conditionals = (runCalls colors front l).2.conditionals) :
    (runCalls colors (front ++ back) l).1 = (runCalls colors (front ++ call :: back) l).1.eraseIdx front.length ∧
      (runCalls colors (front ++ back) l).2.conditionals =
        (runCalls colors (front ++ call :: back) l).2.conditionals := by
  obtain ⟨answers, final⟩ := runCalls_congr colors kept back
  rw [runCalls_append, runCalls_append, runCalls_cons, ← length_answers colors front l]
  refine ⟨?_, final.symm⟩
  rw [List.eraseIdx_append_of_length_le (Nat.le_refl _), Nat.sub_self, List.eraseIdx_cons_zero, answers]

/-- Calls of the directives of formats enter what they ask for, each from its style in force alone, and nothing
    else: the fields that are handed out are numbered from zero on, each names what it was handed out for, and a
    call that enters nothing changes nothing for the others. The style in force stays throughout. -/
theorem runCalls_numbered [CharNames] (colors : Bool) (calls : List Call) :
    let answers := (runCalls colors calls {}).1
    let final := (runCalls colors calls {}).2.conditionals
    (∀ (call : Call) (l : Ledger),
      call.Answers colors l.conditionals (call.run colors l).1 (call.run colors l).2.conditionals) ∧
    final = (calls.filterMap (Call.conditional? colors)).take capacity ∧
    handedOut colors calls answers = (final.zipIdx.map fun (c, n) => (numbered n, c)) ∧
    ((handedOut colors calls answers).map Prod.fst).Nodup ∧
    (∀ n c, final[n]? = some c → Restore.named final (Text.ofNat n) = .ok (some c)) ∧
    (∀ front call back, calls = front ++ call :: back →
      (call.run colors (runCalls colors front {}).2).2.conditionals = (runCalls colors front {}).2.conditionals →
      (runCalls colors (front ++ back) {}).1 = answers.eraseIdx front.length ∧
        (runCalls colors (front ++ back) {}).2.conditionals = final) ∧
    ∀ nodes name a, Action.ofName? name = some a → ∀ args position at_,
      ((Formatter.program colors nodes).runCall name args position at_).2 =
        (at_.1, (Call.run colors ⟨a, some at_.1, args.map Arg.toValue⟩ at_.2).2) := by
  intro answers final
  obtain ⟨more, entered, taken, handed⟩ := exists_entered colors calls {}
  obtain rfl : final = more := entered
  refine ⟨Call.run_answers colors, taken, handed, ?_, ?_, ?_, ?_⟩
  · have fields : (handedOut colors calls answers).map Prod.fst = (List.range final.length).map numbered :=
      (congrArg (List.map Prod.fst) handed).trans (map_fst_zipIdx final)
    rw [fields]
    exact List.Nodup.map numbered_injective List.nodup_range
  · intro n c found
    have room : n < capacity := by
      have inside : n < final.length := (List.getElem?_eq_some_iff.1 found).1
      rw [taken, List.length_take] at inside
      omega
    rw [Restore.named_of_names (Restore.names_ofNat (isLong_eq_false.2 room)), found]
  · rintro front call back rfl kept
    exact runCalls_eraseIdx colors kept
  · intro nodes name a named args position at_
    rw [Formatter.runCall_of_ofName? named]
    unfold Call.run
    rcases a.run colors (some at_.1) (args.map Arg.toValue) at_.2 with ⟨fault | field, l⟩ <;> rfl

section

attribute [local instance] CharNames.none

/-- Of three conditional styles the second is broken; the third has the number one. -/
theorem runCalls_numbered_past_broken :
    let outer : Style := ⟨some 3, none, false, false⟩
    let front : List Call := [⟨.onLevel, some outer, [.ofText "Error", .ofText "\x7bbold\x7d"]⟩,
      ⟨.field, some outer, [.ofText "level"]⟩]
    let broken : Call := ⟨.on .info, some outer, [.ofText "\x7bbold"]⟩
    let back : List Call := [⟨.on .warning, some outer, [.ofText "\x7bbg 1\x7d"]⟩]
    let final := (runCalls true (front ++ broken :: back) {}).2.conditionals
    let wayBack : Text := "\x1b[38;5;3m\x1b[49m\x1b[22m\x1b[27m"
    (broken.run true (runCalls true front {}).2).2.conditionals = (runCalls true front {}).2.conditionals ∧
    final = [⟨"error", "\x1b[1m", wayBack⟩, ⟨"warning", "\x1b[48;5;1m", wayBack⟩] ∧
    Restore.named final (Text.ofNat 1) = .ok (some ⟨"warning", "\x1b[48;5;1m", wayBack⟩) ∧
    (runCalls true (front ++ back) {}).2.conditionals = final ∧
    Action.ofName? "onerror" = some (.on .error) ∧
    ((Formatter.program true []).runCall "onerror" [.text "\x7bfg 1\x7d"] 0 (outer, {})).2.1 = outer := by
  intro outer front broken back final wayBack
  have kept : (broken.run true (runCalls true front {}).2).2.conditionals = (runCalls true front {}).2.conditionals := by
    decide +kernel
  have styles : final = [⟨"error", "\x1b[1m", wayBack⟩, ⟨"warning", "\x1b[48;5;1m", wayBack⟩] := by decide +kernel
  have named : Action.ofName? "onerror" = some (.on .error) := by decide
  have second : final[1]? = some ⟨"warning", "\x1b[48;5;1m", wayBack⟩ := by
    rw [styles]
    rfl
  obtain ⟨-, -, -, -, resolves, erased, stays⟩ := runCalls_numbered true (front ++ broken :: back)
  refine ⟨kept, styles, resolves 1 _ second, (erased front broken back rfl kept).2, named, ?_⟩
  exact congrArg Prod.fst (stays [] "onerror" _ named [.text "\x7bfg 1\x7d"] 0 (outer, {}))

end

end Ledger

end LogStyle
