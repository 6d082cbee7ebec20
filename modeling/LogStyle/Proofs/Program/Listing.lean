import LogStyle.Preview.Basic
import LogStyle.Proofs.Conditional.Growth

/-! # What is listed

The groups of directives share out a registry: what a program may use is listed, once, and nothing else is. The
preview lists every built-in directive with its examples.
-/

namespace LogStyle

theorem Category.mem_all (c : Category) : c ∈ all := by
  cases c <;> decide

namespace Registry

variable {σ : Type}

def listings (r : Registry σ) : List Listing :=
  r.map fun (name, entry) => listing name entry

theorem name_listing (name : Text) (entry : Entry σ) : (listing name entry).name = name := by
  cases entry <;> rfl

theorem perm_inCategory (r : Registry σ) : (Category.all.flatMap r.inCategory).Perm r.listings := by
  refine List.perm_iff_count.2 fun l => ?_
  show List.count l (Category.all.flatMap fun c => r.listings.filter (·.category = c)) = _
  generalize r.listings = all
  have each : ∀ c, List.count l (all.filter (·.category = c)) = if l.category = c then List.count l all else 0 := by
    intro c
    split
    · next own => exact List.count_filter (decide_eq_true own)
    · next other => exact List.count_eq_zero.2 fun member => other (of_decide_eq_true (List.mem_filter.1 member).2)
  simp only [Category.all, List.flatMap_cons, List.flatMap_nil, List.count_append, List.count_nil, each]
  cases l.category <;> simp

/-- What a program may use is listed under its name, and nothing else is. -/
theorem exists_listing_iff (r : Registry σ) (name : Text) :
    (∃ l ∈ Category.all.flatMap r.inCategory, l.name = name) ↔ r.knows name = true := by
  simp only [(perm_inCategory r).mem_iff]
  have found : r.knows name = true ↔ ∃ entry, (name, entry) ∈ r := by
    have missing : r.lookup name = none ↔ ∀ head ∈ r, name ≠ head.1 := by
      simp only [List.lookup_eq_none_iff, bne_iff_ne]
    rw [knows, find?, Option.isSome_iff_ne_none, ne_eq, missing]
    simp
  rw [found]
  constructor
  · rintro ⟨l, member, named⟩
    obtain ⟨⟨own, entry⟩, entered, rfl⟩ := List.mem_map.1 member
    rw [name_listing] at named
    exact ⟨entry, named ▸ entered⟩
  · rintro ⟨entry, entered⟩
    exact ⟨_, List.mem_map.2 ⟨_, entered, rfl⟩, name_listing name entry⟩

/-! ## Names -/

theorem names_insert (r : Registry σ) (name : Text) (entry : Entry σ) :
    (r.insert name entry).map Prod.fst =
      if name ∈ r.map Prod.fst then r.map Prod.fst else r.map Prod.fst ++ [name] := by
  induction r with
  | nil => rfl
  | cons head rest ih =>
      obtain ⟨own, e⟩ := head
      rw [insert]
      by_cases same : own = name
      · simp [same]
      · rw [if_neg same, List.map_cons, ih]
        by_cases member : name ∈ rest.map Prod.fst
        · have later : name ∈ ((own, e) :: rest).map Prod.fst := List.mem_cons_of_mem _ member
          rw [if_pos member, if_pos later]
          rfl
        · have nowhere : name ∉ ((own, e) :: rest).map Prod.fst := by simpa [Ne.symm same] using member
          rw [if_neg member, if_neg nowhere]
          rfl

theorem nodup_insert {r : Registry σ} (distinct : (r.map Prod.fst).Nodup) (name : Text) (entry : Entry σ) :
    ((r.insert name entry).map Prod.fst).Nodup := by
  rw [names_insert]
  split
  · exact distinct
  · next new =>
      refine List.nodup_append.2 ⟨distinct, List.pairwise_singleton _ name, fun a member b single same => ?_⟩
      rw [same, List.mem_singleton.1 single] at member
      exact new member

theorem prefix_insert (r : Registry σ) (name : Text) (entry : Entry σ) :
    r.map Prod.fst <+: (r.insert name entry).map Prod.fst := by
  rw [names_insert]
  split
  · exact List.prefix_rfl
  · exact List.prefix_append _ _

/-- The built-in directives stay in front, whatever extensions there are, and no name is listed twice. -/
theorem names_withExtensions (extensions : List (Text × Extension σ)) :
    Directive.all.map Directive.name <+: (withExtensions extensions).map Prod.fst ∧
      ((withExtensions extensions).map Prod.fst).Nodup := by
  suffices keeps : ∀ r : Registry σ, (r.map Prod.fst).Nodup →
      r.map Prod.fst <+: (extensions.foldl (fun r given => r.insert given.1 (.extension given.2)) r).map Prod.fst ∧
      ((extensions.foldl (fun r given => r.insert given.1 (.extension given.2)) r).map Prod.fst).Nodup by
    have names : (builtins : Registry σ).map Prod.fst = Directive.all.map Directive.name := by
      rw [builtins, List.map_map]
      rfl
    have distinct : (Directive.all.map Directive.name).Nodup := by decide
    rw [← names] at distinct ⊢
    exact keeps builtins distinct
  induction extensions with
  | nil => exact fun r distinct => ⟨List.prefix_rfl, distinct⟩
  | cons extension rest ih =>
      intro r distinct
      obtain ⟨front, unique⟩ := ih (r.insert extension.1 (.extension extension.2)) (nodup_insert distinct _ _)
      exact ⟨(prefix_insert r _ _).trans front, unique⟩

end Registry

namespace Preview

/-- A text in the column of names. -/
def column (t : Text) : Text :=
  "  " ++ t.padRight 10 ++ " "

theorem mem_directiveLines_of_mem {l : Listing} {category : Category}
    (listed : l ∈ (Registry.builtins : Registry Unit).inCategory category) {line : Text}
    (own : line ∈ (column l.name ++ l.description) :: l.examples.map fun e => column [] ++ "  " ++ e) :
    line ∈ directiveLines := by
  refine List.mem_flatMap.2 ⟨category, Category.mem_all category, ?_⟩
  split
  · next none =>
      rw [none] at listed
      cases listed
  · exact List.mem_cons_of_mem _ (List.mem_flatMap.2 ⟨l, listed, own⟩)

/-- Every built-in directive has a line of its own, and so has each of its examples. -/
theorem mem_directiveLines (d : Directive) :
    (∃ line ∈ directiveLines, d.name <:+: line ∧ d.description <:+ line) ∧
      ∀ e ∈ d.examples, ∃ line ∈ directiveLines, e <:+ line := by
  let entry : Entry Unit := .builtin d
  have listed : Registry.listing d.name entry ∈ (Registry.builtins : Registry Unit).inCategory d.category := by
    refine List.mem_filter.2 ⟨List.mem_map.2 ⟨(d.name, entry), ?_, rfl⟩, decide_eq_true rfl⟩
    exact List.mem_map.2 ⟨d, by cases d <;> decide, rfl⟩
  refine ⟨⟨_, mem_directiveLines_of_mem listed List.mem_cons_self, ?_, List.suffix_append _ _⟩, fun e member => ?_⟩
  · refine List.IsInfix.trans ?_ (List.prefix_append (column d.name) d.description).isInfix
    have padded : d.name <:+: ("  " ++ d.name.padRight 10 : Text) :=
      ((List.prefix_append d.name _).isInfix).trans (List.suffix_append _ _).isInfix
    exact padded.trans (List.prefix_append _ _).isInfix
  · exact ⟨_, mem_directiveLines_of_mem listed (List.mem_cons_of_mem _ (List.mem_map_of_mem member)),
      List.suffix_append _ _⟩

end Preview

end LogStyle
