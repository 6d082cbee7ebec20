import LogStyle.Preview.Basic

/-! # What steps of a preview come to

A preview only ever adds to its transcript. So its steps can be told by what each comes to and by the samples it
adds, and put together: steps that go on add theirs to those before, and a step that ends the preview ends all of
it. Notes, complaints and lines of its own are no samples.
-/

namespace LogStyle

namespace Preview

theorem Transcript.samples_append (front back : Transcript) :
    Transcript.samples (front ++ back) = front.samples ++ back.samples :=
  List.filterMap_append

namespace Steps

variable {α β : Type}

/-- Steps that come to a result and add some samples, whatever has been written before. -/
def Gives (steps : Steps α) (result : Except Ending α) (samples : List (Level × Text)) : Prop :=
  ∀ before : Transcript, ∃ after : Transcript,
    (ExceptT.run steps).run before = (result, after) ∧ after.samples = before.samples ++ samples

section
variable {steps : Steps α} {next : α → Steps β} {samples more : List (Level × Text)}

theorem Gives.run_eq {result : Except Ending α} (gives : steps.Gives result samples) :
    ∃ transcript, steps.run = (result, transcript) ∧ transcript.samples = samples :=
  gives []

theorem gives_pure (a : α) : (pure a : Steps α).Gives (.ok a) [] :=
  fun before => ⟨before, rfl, (List.append_nil _).symm⟩

theorem gives_throw (ending : Ending) : (throw ending : Steps α).Gives (.error ending) [] :=
  fun before => ⟨before, rfl, (List.append_nil _).symm⟩

theorem Gives.bind {a : α} {result : Except Ending β} (first : steps.Gives (.ok a) samples)
    (later : (next a).Gives result more) : (steps >>= next).Gives result (samples ++ more) := by
  intro before
  obtain ⟨between, ran, added⟩ := first before
  obtain ⟨after, onward, addedLater⟩ := later between
  refine ⟨after, ?_, by rw [addedLater, added, List.append_assoc]⟩
  unfold ExceptT.run StateT.run at ran onward ⊢
  simp only [Bind.bind, ExceptT.bind, ExceptT.mk, StateT.bind, ExceptT.bindCont, ran]
  exact onward

theorem Gives.bind_error {ending : Ending} (first : steps.Gives (.error ending) samples) :
    (steps >>= next).Gives (.error ending) samples := by
  intro before
  obtain ⟨after, ran, added⟩ := first before
  refine ⟨after, ?_, added⟩
  unfold ExceptT.run StateT.run at ran ⊢
  simp only [Bind.bind, ExceptT.bind, ExceptT.mk, StateT.bind, ExceptT.bindCont, ran]
  rfl

theorem Gives.bind_quiet {a : α} {result : Except Ending β} (first : steps.Gives (.ok a) [])
    (later : (next a).Gives result more) : (steps >>= next).Gives result more :=
  first.bind later

theorem Gives.bind_of_quiet {a : α} {result : Except Ending β} (first : steps.Gives (.ok a) samples)
    (later : (next a).Gives result []) : (steps >>= next).Gives result samples := by
  have whole := first.bind later
  rwa [List.append_nil] at whole

end

theorem gives_write (output : Output) : (write output).Gives (.ok ()) (Transcript.samples [output]) :=
  fun before => ⟨before ++ [output], rfl, Transcript.samples_append before [output]⟩

theorem gives_note (o : Options) (n : Note) : (note o n).Gives (.ok ()) [] := by
  unfold note
  split
  · exact gives_write (.note n)
  · exact gives_pure ()

theorem gives_refuse (complaint : Text) : (refuse complaint : Steps α).Gives (.error (.status 1)) [] :=
  (gives_write (.complaint complaint)).bind_quiet (gives_throw (.status 1))

theorem gives_forIn {items : List α} {body : α → PUnit → Steps (ForInStep PUnit)} {added : α → List (Level × Text)}
    (each : ∀ item ∈ items, (body item PUnit.unit).Gives (.ok (.yield PUnit.unit)) (added item)) :
    (forIn items PUnit.unit body).Gives (.ok PUnit.unit) (items.flatMap added) := by
  induction items with
  | nil => exact gives_pure PUnit.unit
  | cons item rest ih =>
      have later := ih fun other member => each other (List.mem_cons_of_mem _ member)
      rw [List.forIn_cons, List.flatMap_cons]
      exact (each item List.mem_cons_self).bind later

theorem gives_noted (o : Options) (computation : Noted α) :
    (noted o computation).Gives (.ok computation.outcome.1) [] := by
  have none : computation.outcome.2.flatMap (fun _ => []) = ([] : List (Level × Text)) := by simp
  refine Gives.bind_quiet (a := PUnit.unit) ?_ (gives_pure _)
  rw [← none]
  exact gives_forIn fun n _ => (gives_note o n).bind_quiet (gives_pure _)

section
variable (o : Options) (words : Text) {computation : Noted α}

theorem gives_orRefuse {a : α} (succeeds : computation.outcome.1 = .ok a) :
    (orRefuse o words computation).Gives (.ok a) [] := by
  refine (gives_noted o computation).bind_quiet ?_
  rw [succeeds]
  exact gives_pure a

theorem gives_orRefuse_fault {fault : Fault} (failed : computation.outcome.1 = .error fault)
    (other : fault.kind ≠ .theme) :
    (orRefuse o words computation).Gives (.error (.fault fault)) [] := by
  refine (gives_noted o computation).bind_quiet ?_
  rw [failed]
  simp only [if_neg other]
  exact gives_throw _

end

end Steps

end Preview

end LogStyle
