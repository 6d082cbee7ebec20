import LogStyle.Preview.Fields

/-! # What a preview is set up with

Every field of a preview has a value of its own: the option of its name, or its default. Nothing else that is given
plays a part, but an output among the options is refused.
-/

namespace LogStyle

namespace Preview.Fields

variable {options : List (Text × Value)} {output : Value} {fields : Fields} {name : Text}

theorem lookup_map (f : Text → Value → Value) (fields : Fields) (name : Text) :
    (fields.map fun (name, default) => (name, f name default)).lookup name = (fields.lookup name).map (f name) := by
  induction fields with
  | nil => rfl
  | cons field rest ih =>
      obtain ⟨own, default⟩ := field
      rw [List.map_cons, List.lookup_cons, List.lookup_cons, ih]
      by_cases same : name = own
      · subst same
        simp
      · simp [beq_eq_false_iff_ne.2 same]

theorem ofOptions_eq_ok (made : ofOptions options output = .ok fields) :
    fields = defaults.map fun (name, default) =>
      (name, if name = outputName then output else (options.lookup name).getD default) := by
  rw [ofOptions] at made
  split at made
  · cases made
  · cases made
    rfl

/-- Fields can be made of any options but those with an output. -/
theorem exists_ofOptions_iff :
    (∃ fields, ofOptions options output = .ok fields) ↔ ∀ entry ∈ options, entry.1 ≠ outputName := by
  have free : options.lookup outputName = none ↔ ∀ entry ∈ options, entry.1 ≠ outputName := by
    simp only [List.lookup_eq_none_iff, bne_iff_ne, ne_comm]
  rw [← free, ofOptions]
  cases options.lookup outputName with
  | none => exact ⟨fun _ => rfl, fun _ => ⟨_, rfl⟩⟩
  | some v => exact ⟨fun ⟨_, made⟩ => (by cases made), fun none => (by cases none)⟩

theorem names_ofOptions (made : ofOptions options output = .ok fields) :
    fields.map Prod.fst = defaults.map Prod.fst := by
  rw [ofOptions_eq_ok made, List.map_map]
  rfl

theorem lookup_outputName (made : ofOptions options output = .ok fields) : fields.lookup outputName = some output := by
  rw [ofOptions_eq_ok made, lookup_map fun name default =>
    if name = outputName then output else (options.lookup name).getD default]
  rfl

/-- A field has the option of its name, or its default; a name that no field has is dropped. -/
theorem lookup_ofOptions (made : ofOptions options output = .ok fields) (other : name ≠ outputName) :
    fields.lookup name = (defaults.lookup name).map (options.lookup name).getD := by
  rw [ofOptions_eq_ok made, lookup_map fun name default =>
    if name = outputName then output else (options.lookup name).getD default]
  simp only [if_neg other]

end Preview.Fields

end LogStyle
