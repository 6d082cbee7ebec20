import LogStyle.Proofs.Palette.File
import LogStyle.Proofs.Preview.Records

/-! # What a preview answers

A preview resolves a palette and the levels asked for, compiles a theme, shows the samples and reports how many there
were. When palette and theme are at hand, the entries between the commas decide what comes of it: a sample for each
that is not blank, or status 1 when there is none or one of them names no level. A palette with a number that is too
long is the exception, and ends every preview without words.
-/

namespace LogStyle

theorem PureProgram.kind_of_compileAndExecute [CharNames] {colors : Bool} {source : Text} {s : Style}
    {before : List Note} {fault : Fault}
    (failed : (Noted.runFrom (PureProgram.compileAndExecute [] colors source s) before).1 = .error fault) :
    fault.kind.isStyle = true ∨ fault.kind = .value := by
  rw [Walk.runFrom_compileAndExecute] at failed
  cases read : Program.read (σ := Unit) [] colors source with
  | error e =>
      simp only [read, Except.error.injEq] at failed
      rcases e.kind_fault with ⟨kind, -⟩ | ⟨kind, -⟩
      · exact .inl (by rw [← failed, kind]; rfl)
      · exact .inr (failed ▸ kind)
  | ok p =>
      cases ran : (PureProgram.execute p s).1 with
      | error e =>
          simp only [read, ran, Except.error.injEq] at failed
          refine .inl ?_
          rw [← failed, Program.kind_of_builtin (Program.builtin_of_read read).registry ran]
          rfl
      | ok t => simp [read, ran] at failed

namespace Palette

theorem kind_of_firstProblem? [CharNames] {fragments : List (Level × Part × Text)} {before : List Note} {fault : Fault}
    (failed : (Noted.runFrom (firstProblem? fragments) before).1 = .error fault) : fault.kind = .value := by
  induction fragments generalizing before with
  | nil => cases failed
  | cons entry rest ih =>
      obtain ⟨level, part, fragment⟩ := entry
      rw [runFrom_firstProblem?_cons] at failed
      rcases ran : Noted.runFrom (PureProgram.compileAndExecute [] true fragment Style.plain) before with
        ⟨inner | t, notes⟩
      · have kind := PureProgram.kind_of_compileAndExecute (congrArg Prod.fst ran)
        by_cases style : inner.kind.isStyle = true
        · simp [ran, style] at failed
        · simp only [ran, style, Bool.false_eq_true, if_false, Except.error.injEq] at failed
          exact failed ▸ kind.resolve_left style
      · rw [ran] at failed
        exact ih failed

theorem kind_of_validate [CharNames] {p : Palette} {fault : Fault} (failed : p.validate.outcome.1 = .error fault) :
    fault.kind = .value := by
  change (Noted.runFrom (validate p) []).1 = _ at failed
  unfold validate at failed
  rw [Noted.runFrom_bind] at failed
  rcases ran : Noted.runFrom (firstProblem? p.fragments) [] with ⟨inner | _ | problem, notes⟩
  · simp only [ran, Except.error.injEq] at failed
    exact failed ▸ kind_of_firstProblem? (congrArg Prod.fst ran)
  · simp [ran, Noted.runFrom_pure] at failed
  · simp [ran, Noted.runFrom_pure] at failed

end Palette

namespace Preview

def entries (t : Text) : List Text :=
  (Text.splitOn ',' t).filter fun name => name.strip ≠ []

/-- Show samples and count them, without a report. -/
def sampled [CharNames] (reader : Document.Reader) (host : Host) (find : Text → Found) (clock : Clock)
    (o : Options) : Steps Nat := do
  let (palette, levels) ← prepare reader find o
  let theme ← compile o palette
  showSamples host o clock theme levels

namespace Steps

section
variable [CharNames] {reader : Document.Reader} {find : Text → Found} {o : Options} {palette : Palette}
  (found : (paletteOf reader find o).outcome.1 = .ok palette)
include found

theorem gives_prepare_fault {fault : Fault} (failed : palette.validate.outcome.1 = .error fault) :
    (prepare reader find o).Gives (.error (.fault fault)) [] := by
  have kind : fault.kind ≠ .theme := by simp [Palette.kind_of_validate failed]
  unfold prepare
  refine (gives_note o _).bind_quiet ?_
  refine (gives_orRefuse o _ found).bind_quiet ?_
  exact (gives_orRefuse_fault o _ failed kind).bind_error

theorem gives_prepare {valid : Bool} {message : Text} (judged : palette.validate.outcome.1 = .ok (valid, message)) :
    (prepare reader find o).Gives
      (match levelsNamed o.levels with
        | .error _ => .error (.status 1)
        | .ok levels => .ok (palette, levels)) [] := by
  unfold prepare
  refine (gives_note o _).bind_quiet ?_
  refine (gives_orRefuse o _ found).bind_quiet ?_
  refine (gives_orRefuse o _ judged).bind_quiet ?_
  have last :
      (match levelsNamed o.levels with
        | .error e => refuse ("Error: " ++ e.fault.message)
        | .ok levels => do
          note o (.internal 2 ("Levels: " ++ Text.join ", " (levels.map Level.lower)))
          pure (palette, levels) : Steps (Palette × List Level)).Gives
        (match levelsNamed o.levels with
          | .error _ => .error (.status 1)
          | .ok levels => .ok (palette, levels)) [] := by
    cases levelsNamed o.levels with
    | error e => exact gives_refuse _
    | ok levels => exact (gives_note o _).bind_quiet (gives_pure _)
  cases valid with
  | false => exact (gives_write (.complaint ("Warning: " ++ message))).bind_quiet last
  | true => exact last

end

theorem gives_compile [CharNames] {o : Options} {palette : Palette} {theme : Theme}
    (compiled : (Theme.compile (!o.noColors) o.format palette).outcome.1 = .ok theme) :
    (Preview.compile o palette).Gives (.ok theme) [] := by
  unfold Preview.compile
  refine (gives_note o _).bind_quiet ?_
  refine (gives_orRefuse o _ compiled).bind_quiet ?_
  split
  · exact (gives_write (.line _)).bind_quiet (gives_pure theme)
  · exact gives_pure theme

theorem gives_conclude (o : Options) (count : Nat) :
    (conclude o count).Gives (if count = 0 then .error (.status 1) else .ok ()) [] := by
  unfold conclude
  split
  · exact gives_refuse _
  · exact gives_note o _

end Steps

theorem present_eq [CharNames] (reader : Document.Reader) (host : Host) (find : Text → Found) (clock : Clock)
    (o : Options) :
    present reader host find clock o = sampled reader host find clock o >>= conclude o := by
  simp only [present, sampled, bind_assoc]

theorem exists_answer [CharNames] {reader : Document.Reader} {host : Host} {find : Text → Found} {clock : Clock}
    {o : Options} {result : Except Ending Unit} {samples : List (Level × Text)}
    (gives : (sampled reader host find clock o >>= conclude o).Gives result samples) :
    ∃ transcript, answer reader host find clock (.samples o) = (result, transcript) ∧ transcript.samples = samples := by
  rw [← present_eq] at gives
  exact gives.run_eq

section
variable [CharNames] {reader : Document.Reader} {host : Host} {find : Text → Found} (clock : Clock) {o : Options}
  {palette : Palette}
  (found : (paletteOf reader find o).outcome.1 = .ok palette)
include found

theorem exists_sampled_fault (isLong : Palette.LongIn palette.fragments) :
    ∃ fault, fault.kind = .value ∧ (sampled reader host find clock o).Gives (.error (.fault fault)) [] := by
  obtain ⟨fault, failed, -⟩ := (Palette.escapes_validate palette).2 isLong
  exact ⟨fault, Palette.kind_of_validate failed, (Steps.gives_prepare_fault found failed).bind_error⟩

theorem answer_of_longIn (isLong : Palette.LongIn palette.fragments) :
    (∃ fault, statusOf (answer reader host find clock (.samples o)).1 = .error fault ∧ fault.kind = .value) ∧
      (answer reader host find clock (.samples o)).2.samples = [] := by
  obtain ⟨fault, kind, gives⟩ := exists_sampled_fault clock found isLong
  obtain ⟨transcript, answered, none⟩ := exists_answer gives.bind_error
  rw [answered]
  exact ⟨⟨fault, rfl, kind⟩, none⟩

variable {theme : Theme} (judged : ¬ Palette.LongIn palette.fragments)
  (compiled : (Theme.compile (!o.noColors) o.format palette).outcome.1 = .ok theme)
include judged

theorem gives_prepare_of_judged : (prepare reader find o).Gives
    (match levelsNamed o.levels with
      | .error _ => .error (.status 1)
      | .ok levels => .ok (palette, levels)) [] := by
  cases outcome : palette.validate.outcome.1 with
  | error fault =>
      exact absurd ((Palette.escapes_validate palette).1 ⟨fault, outcome, List.not_mem_nil⟩) judged
  | ok answer => exact Steps.gives_prepare found outcome

theorem answer_of_unnamed (unnamed : ∃ name ∈ entries o.levels, ∀ level, ¬ Level.IsNamed name level) :
    statusOf (answer reader host find clock (.samples o)).1 = .ok 1 ∧
      (answer reader host find clock (.samples o)).2.samples = [] := by
  obtain ⟨e, failed⟩ := Level.exists_mapM_ofName_eq_error.2 unnamed
  have stop := gives_prepare_of_judged found judged
  rw [show levelsNamed o.levels = .error e from failed] at stop
  have ended : (sampled reader host find clock o).Gives (.error (.status 1)) [] := stop.bind_error
  obtain ⟨transcript, answered, none⟩ := exists_answer ended.bind_error
  rw [answered]
  exact ⟨rfl, none⟩

variable (lawful : host.color.Lawful)
include compiled lawful

theorem exists_sampled {levels : List Level} (named : List.Forall₂ Level.IsNamed (entries o.levels) levels)
    (clean : ∀ header ∈ theme.headers clock levels {}, Header.Clean header) :
    ∃ samples, (sampled reader host find clock o).Gives (.ok (entries o.levels).length) samples ∧ samples.map Prod.fst = levels ∧
      List.Forall₂ (Writes o.message) (theme.headers clock levels {}) (samples.map Prod.snd) := by
  obtain ⟨samples, logged, same, texts⟩ := exists_logAt lawful compiled clock o.message levels {} clean
  refine ⟨samples, ?_, same, texts⟩
  have prepared := gives_prepare_of_judged found judged
  rw [show levelsNamed o.levels = .ok levels from Level.mapM_ofName_eq_ok.2 named] at prepared
  rw [named.length_eq]
  exact prepared.bind_quiet ((Steps.gives_compile compiled).bind_quiet (Steps.gives_showSamples o logged))

theorem answer_of_named {levels : List Level} (named : List.Forall₂ Level.IsNamed (entries o.levels) levels)
    (clean : ∀ header ∈ theme.headers clock levels {}, Header.Clean header) :
    let samples := (answer reader host find clock (.samples o)).2.samples
    statusOf (answer reader host find clock (.samples o)).1 = .ok (if entries o.levels = [] then 1 else 0) ∧
      (sampled reader host find clock o).run.1 = .ok (entries o.levels).length ∧ samples.map Prod.fst = levels ∧
      List.Forall₂ (Writes o.message) (theme.headers clock levels {}) (samples.map Prod.snd) := by
  obtain ⟨shown, gives, same, texts⟩ := exists_sampled clock found judged compiled lawful named clean
  obtain ⟨counted, ran, -⟩ := gives.run_eq
  obtain ⟨transcript, answered, rfl⟩ := exists_answer (gives.bind_of_quiet (Steps.gives_conclude o _))
  rw [answered, ran]
  refine ⟨?_, rfl, same, texts⟩
  simp only [List.length_eq_zero_iff]
  split <;> rfl

end

section

attribute [local instance] CharNames.none

end

section

attribute [local instance] CharNames.none

end

end Preview

end LogStyle
