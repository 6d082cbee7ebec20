import LogStyle.Host.Outlet
import LogStyle.Outcome

/-! # What an outlet leaves out

Records about the library's own work are not written and change nothing: a sequence of drafts is written as if they
were not in it. The library cannot make them by accident out of something else, nor can it be given what they are
made of twice.
-/

namespace LogStyle

namespace Draft

variable {message : Text} {detail : Int} {severity : Value} {named : List (Text × Value)} {d : Draft}

/-- A draft of the library is made exactly if nothing is given that it sets itself. -/
theorem exists_ofLibrary_iff :
    (∃ d, ofLibrary message detail severity named = .ok d) ↔
      ∀ entry ∈ named, entry.1 ≠ "level" ∧ entry.1 ≠ "severity" ∧ entry.1 ≠ "message" := by
  rw [ofLibrary]
  split
  · next name value found =>
      have taken := List.find?_some found
      have member := List.mem_of_find?_eq_some found
      constructor
      · rintro ⟨_, ⟨⟩⟩
      · intro free
        have own := free _ member
        simp only [Bool.or_eq_true, decide_eq_true_eq] at taken
        exact (taken.elim own.1 own.2.1).elim
  · next none =>
      have free : ∀ entry ∈ named, entry.1 ≠ "level" ∧ entry.1 ≠ "severity" := by
        simpa only [List.find?_eq_none, Bool.or_eq_true, decide_eq_true_eq, not_or] using none
      split
      · next some =>
          constructor
          · rintro ⟨_, ⟨⟩⟩
          · intro all
            obtain ⟨entry, member, same⟩ := List.any_eq_true.1 some
            exact absurd (of_decide_eq_true same) (all entry member).2.2
      · next none =>
          refine ⟨fun _ entry member => ⟨(free entry member).1, (free entry member).2, fun same => ?_⟩, fun _ => ⟨_, rfl⟩⟩
          exact none (List.any_eq_true.2 ⟨entry, member, decide_eq_true same⟩)

theorem named?_eq_none {name : Text} (free : ∀ entry ∈ d.arguments.named, entry.1 ≠ name) : d.named? name = none :=
  Option.map_eq_none_iff.2 (List.find?_eq_none.2 fun entry member same => free entry member (of_decide_eq_true same))

theorem isInternal_ofLibrary (made : ofLibrary message detail severity named = .ok d)
    (free : ∀ entry ∈ named, entry.1 ≠ "diagnostic") : d.isInternal = true := by
  rw [ofLibrary] at made
  split at made
  · cases made
  · split at made
    · cases made
    · cases made
      rw [isInternal, named?_eq_none free]
      rfl

theorem isInternal_of_record? {fill : Message.Filler} {least : Nat} {r : Record}
    (made : d.record? fill least = .ok (some r)) : r.isInternal = d.isInternal := by
  obtain ⟨severity, -, made⟩ := Outcome.bind_eq_ok.1 made
  split at made
  · cases made
  · obtain ⟨message, -, made⟩ := Outcome.bind_eq_ok.1 made
    cases made
    rfl

end Draft

namespace Outlet

variable {host : Host} {o : Outlet} {watched : Bool}

variable (host o watched) in
theorem log_internal {d : Draft} (internal : d.isInternal = true) (clock : Clock) (s : State) :
    (o.log host watched clock d s).written = none ∧ (o.log host watched clock d s).state = s := by
  rw [log]
  split
  · next r made =>
      have same := (Draft.isInternal_of_record? made).trans internal
      rw [write?, same]
      exact ⟨rfl, rfl⟩
  · exact ⟨rfl, rfl⟩

/-- What is written for drafts one after another, and the state after them. -/
def logAll (host : Host) (o : Outlet) (watched : Bool) (s : State) : List (Clock × Draft) → List Text × State
  | [] => ([], s)
  | (clock, d) :: rest =>
    let logged := o.log host watched clock d s
    let (texts, s) := logAll host o watched logged.state rest
    (logged.written.toList ++ texts, s)

/-- Drafts about the library's own work leave no trace in what is written. -/
theorem logAll_filter (drafts : List (Clock × Draft)) (s : State) :
    o.logAll host watched s (drafts.filter fun entry => !entry.2.isInternal) = o.logAll host watched s drafts := by
  induction drafts generalizing s with
  | nil => rfl
  | cons entry rest ih =>
      obtain ⟨clock, d⟩ := entry
      cases internal : d.isInternal with
      | true =>
          obtain ⟨none, same⟩ := log_internal host o watched internal clock s
          rw [List.filter_cons_of_neg (by simp [internal]), ih, logAll, none, same]
          rfl
      | false =>
          rw [List.filter_cons_of_pos (by simp [internal]), logAll, logAll, ih]

end Outlet

end LogStyle
