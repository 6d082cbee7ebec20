import LogStyle.Host.Target

/-! # What can be reached from a value

A kind's own members come before those of the kinds above it, and every thing has what all objects have. Looking
into a thing fails for a few reasons only.
-/

namespace LogStyle

namespace Kind

variable {k : Kind} {name : Text} {m : Member}

theorem owner_of_own? (own : k.own? name = some m) : m.owner = k ∧ m.name = name := by
  have listed : ∀ {names : List Text} {sort : MemberSort},
      (if names.contains name then some (⟨k, name, sort⟩ : Member) else none) = some m → m.owner = k ∧ m.name = name := by
    intro names sort own
    split at own
    · cases own
      exact ⟨rfl, rfl⟩
    · cases own
  simp only [own?, Option.orElse_eq_orElse, Option.orElse_eq_or, Option.or_eq_some_iff] at own
  rcases own with own | ⟨-, own | ⟨-, own | ⟨-, own | ⟨-, own | ⟨-, own⟩⟩⟩⟩⟩
  all_goals exact listed own

theorem member?_of_own? (own : k.own? name = some m) : k.member? name = some m := by
  obtain ⟨above, line⟩ := List.head?_eq_some_iff.1 k.head_lineage
  rw [member?, line, List.findSome?_cons, own]

theorem owner_of_member? (found : k.member? name = some m) : m.owner ∈ k.lineage ∧ m.name = name := by
  obtain ⟨before, owner, after, line, own, -⟩ := List.findSome?_eq_some_iff.1 found
  obtain ⟨rfl, named⟩ := owner_of_own? own
  exact ⟨by rw [line]; simp, named⟩

theorem isSome_member? (k : Kind) (common : (Kind.object.own? name).isSome) : (k.member? name).isSome :=
  List.findSome?_isSome_iff.2 ⟨.object, k.object_mem_lineage, common⟩

end Kind

namespace Target

variable {x : Target} {name : Text}

/-- Every thing has the attributes that all objects have. -/
theorem isSome_attribute? (x : Target) (common : (Kind.object.own? name).isSome) : (x.attribute? name).isSome := by
  have every := fun k : Kind => k.isSome_member? common
  simp only [attribute?]
  split
  · rfl
  · split
    · simp [every]
    · split
      · rfl
      · simp [every]
    · simp [every]
    · simp [every]
    · split
      · rfl
      · simp [every]
    · split
      · rfl
      · split
        · rfl
        · simp [every]

theorem inEntries_fault {key : Scalar} {entries : List (Scalar × Value)} {fault : Fault}
    (fails : inEntries key entries = .error fault) : fault.kind = .key := by
  rw [inEntries] at fails
  split at fails
  · cases fails
  · cases fails
    rfl

/-- An item is missing, or it is out of range, or there are no such items. -/
theorem item_fault {key : Nat ⊕ Text} {fault : Fault} (fails : x.item key = .error fault) :
    fault.kind = .key ∨ fault.kind = .index ∨ fault.kind = .type := by
  have nth : ∀ {α : Type} (items : List α) (of : α → Target) (n : Nat),
      (items[n]?).elim (Except.error x.outOfRange) (fun a => Except.ok (of a)) = .error fault →
        fault.kind = .index := by
    intro α items of n fails
    cases found : items[n]? with
    | none =>
        rw [found] at fails
        cases fails
        rfl
    | some a =>
        rw [found] at fails
        cases fails
  unfold item at fails
  extract_lets scalar at fails
  split at fails
  · exact .inl (inEntries_fault fails)
  · cases key with
    | inl n => exact .inr (.inl (nth _ _ n fails))
    | inr name => cases fails; exact .inr (.inr rfl)
  · cases key with
    | inl n => exact .inr (.inl (nth _ _ n fails))
    | inr name => cases fails; exact .inr (.inr rfl)
  · cases key with
    | inl n => exact .inr (.inl (nth _ _ n fails))
    | inr name => cases fails; exact .inr (.inr rfl)
  · split at fails
    · cases fails
    · cases fails
      exact .inr (.inr rfl)
  · cases fails
    exact .inr (.inr rfl)
  · cases fails
    exact .inr (.inr rfl)

end Target

end LogStyle
