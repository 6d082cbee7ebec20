import LogStyle.Proofs.Conditional.Entry
import LogStyle.Proofs.Program.Failure
import LogStyle.Proofs.Program.Style

/-! # How conditional styles fail

What a directive for a conditional style leaves behind depends on what its fragment comes to, for there is always
a way back to the style in force. A fragment that cannot be read or run is told by a diagnostic; only numbers with
too many digits make the directive fail.
-/

namespace LogStyle

theorem Program.kind_of_builtin {p : PureProgram} (builtin : p.registry = Registry.builtins) {s : Style}
    {e : ExecuteError} (failed : (PureProgram.execute p s).1 = .error e) : e.fault.kind = .execute := by
  rcases ran : Program.execute p (s, ()) with ⟨result, reached⟩
  obtain rfl : result = .error e := by simpa [PureProgram.execute, ran] using failed
  rcases kind_of_runNodes ran with kind | ⟨-, name, extension, found⟩
  · exact kind
  · rw [builtin, Registry.find?_builtins] at found
    simp at found

namespace Ledger

/-- What is left for a conditional style, given what its fragment comes to and how many are entered before. -/
def left (count : Nat) : Except Fault Text → Except Fault Text
  | .ok _ =>
    if Numeral.isLong count then .error ⟨.value, Numeral.longMessage⟩
    else .ok (placeholder (conditionalName ++ ":" ++ Text.ofNat count))
  | .error fault =>
    match fault.kind with
    | .compile => .ok (diagnostic "COMPILE" fault.message)
    | .execute => .ok (diagnostic "EXECUTE" fault.message)
    | _ => .error fault

theorem Recorded.eq_left [CharNames] {colors : Bool} {outer : Style} {target fragment previous : Text} {l : Ledger}
    {result : Except Fault Text} {conditionals : List Conditional}
    (recorded : Recorded colors outer (.text target) fragment previous l result conditionals) :
    result = left l.conditionals.length (PureProgram.compileAndExecute [] colors fragment outer).outcome.1 := by
  rw [Walk.outcome_compileAndExecute]
  cases recorded with
  | unread e read kind => simp only [read, left, kind]
  | escaped e read kind =>
      rcases e.kind_fault with ⟨compile, -⟩ | ⟨value, -⟩
      · exact absurd compile kind
      · simp only [read, left, value]
  | broken p e read ran =>
      simp only [read, ran, left, Program.kind_of_builtin (Program.builtin_of_read read).registry ran]
  | nameless p sequence read ran n number => cases number
  | full p sequence read ran long => simp only [read, ran, left, long, if_true]
  | entered p sequence read ran target named short => simp only [read, ran, left, short, Bool.false_eq_true, if_false]

theorem exists_left_eq_error [CharNames] (count : Nat) (colors : Bool) (fragment : Text) (outer : Style) :
    (∃ fault, left count (PureProgram.compileAndExecute [] colors fragment outer).outcome.1 = .error fault) ↔
      Node.LongIn (Registry.builtins (σ := Unit)).knows fragment ∨
        Numeral.isLong count = true ∧
          ∃ t, (PureProgram.compileAndExecute [] colors fragment outer).outcome.1 = .ok t := by
  rw [← PureProgram.escapes_compileAndExecute colors fragment outer, Escapes]
  cases (PureProgram.compileAndExecute [] colors fragment outer).outcome.1 with
  | ok t => by_cases long : Numeral.isLong count = true <;> simp [left, long]
  | error fault =>
      obtain ⟨kind, message⟩ := fault
      cases kind <;> simp [left]

/-- A directive for a conditional style: with the level as an argument, or in its name. -/
inductive Way where
  | onLevel (level : Text)
  | on (level : Level)

namespace Way

def action : Way → Action
  | onLevel _ => .onLevel
  | on level => .on level

def args (fragment : Text) : Way → List Arg
  | onLevel level => [.text level, .text fragment]
  | on _ => [.text fragment]

theorem run_eq_left [CharNames] (way : Way) (colors : Bool) {outer : Style} (inRange : outer.InRange) (fragment : Text)
    (l : Ledger) :
    (way.action.run colors (some outer) ((way.args fragment).map Arg.toValue) l).1 =
      left l.conditionals.length (PureProgram.compileAndExecute [] colors fragment outer).outcome.1 := by
  have back := Walk.wayBack_eq colors inRange
  cases way with
  | onLevel level => exact (recorded back (.text level) fragment l).eq_left
  | on level => exact (recorded back (.text level.lower) fragment l).eq_left

end Way

end Ledger

theorem Formatter.runCall_way [CharNames] (colors : Bool) (front : List Node) (way : Ledger.Way) (fragment : Text)
    (position : Nat) :
    let at_ := (runNodes colors front).2
    ((program colors front).runCall way.action.name (way.args fragment) position at_).1 =
      (Ledger.left at_.2.conditionals.length
        (PureProgram.compileAndExecute [] colors fragment at_.1).outcome.1).mapError
          (.ofExtension way.action.name position) := by
  intro at_
  have inRange : at_.1.InRange := (program colors front).inRange_of_runNodes front Style.inRange_plain
  rw [runCall_of_ofName? way.action.ofName?_name, ← way.run_eq_left colors inRange fragment at_.2]
  rcases way.action.run colors (some at_.1) ((way.args fragment).map Arg.toValue) at_.2 with ⟨_ | t, l⟩ <;> rfl

end LogStyle
