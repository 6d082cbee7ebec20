import LogStyle.Text.Basic
import Mathlib.Data.List.Basic

/-! # Neighbours in rows of lists

Where lists are put one behind the other, two elements stand next to each other in one of them, or the one ends a list and
the other starts a later one with nothing in between.
-/

namespace LogStyle

/-- What starts behind a text does not go on with it. -/
def Text.Stops (keeps : CodePoint → Bool) (rest : Text) : Prop :=
  ∀ d ∈ rest.head?, keeps d = false

theorem Text.stops_dropWhile (keeps : CodePoint → Bool) (t : Text) : Stops keeps (t.dropWhile keeps) := by
  intro d first
  have ends := List.head?_dropWhile_not keeps t
  rw [Option.mem_def.1 first] at ends
  simpa using ends

theorem append_eq_neighbours {α : Type} {xs ys front back : List α} {a b : α}
    (whole : xs ++ ys = front ++ a :: b :: back) :
    (∃ late, xs = front ++ a :: b :: late ∧ back = late ++ ys) ∨ (xs = front ++ [a] ∧ ys = b :: back) ∨
      ∃ more, front = xs ++ more ∧ ys = more ++ a :: b :: back := by
  obtain ⟨more, rfl, later⟩ | ⟨inside, rfl, later⟩ := List.append_eq_append_iff.1 whole
  · exact .inr (.inr ⟨more, rfl, later⟩)
  · cases inside with
    | nil => exact .inr (.inr ⟨[], by simp, later.symm⟩)
    | cons c inside =>
        obtain ⟨rfl, next⟩ := List.cons.inj later
        cases inside with
        | nil => exact .inr (.inl ⟨rfl, next.symm⟩)
        | cons d late =>
            obtain ⟨rfl, rfl⟩ := List.cons.inj next
            exact .inl ⟨late, rfl, rfl⟩

variable {α β : Type} {f : β → List α}

theorem exists_of_flatMap_eq_cons {xs : List β} {a : α} {more : List α} (whole : xs.flatMap f = a :: more) :
    ∃ passed x rest inner, xs = passed ++ x :: rest ∧ (∀ y ∈ passed, f y = []) ∧ f x = a :: inner ∧
      more = inner ++ rest.flatMap f := by
  induction xs with
  | nil => cases whole
  | cons x xs ih =>
      rw [List.flatMap_cons] at whole
      cases here : f x with
      | nil =>
          rw [here, List.nil_append] at whole
          obtain ⟨passed, y, rest, inner, rfl, empty, first, same⟩ := ih whole
          exact ⟨x :: passed, y, rest, inner, rfl, List.forall_mem_cons.2 ⟨here, empty⟩, first, same⟩
      | cons b inner =>
          rw [here, List.cons_append, List.cons.injEq] at whole
          obtain ⟨rfl, rfl⟩ := whole
          exact ⟨[], x, xs, inner, rfl, by simp, here, rfl⟩

/-- Two elements are neighbours in one of the lists of a row. -/
def NeighboursWithin (f : β → List α) (xs : List β) (a b : α) (front back : List α) : Prop :=
  ∃ passed x rest early late, xs = passed ++ x :: rest ∧ f x = early ++ a :: b :: late ∧
    front = passed.flatMap f ++ early ∧ back = late ++ rest.flatMap f

/-- Two elements are neighbours at the ends of two lists of a row, with only empty ones in between. -/
def NeighboursAcross (f : β → List α) (xs : List β) (a b : α) (front back : List α) : Prop :=
  ∃ passed x between y rest early late, xs = passed ++ x :: (between ++ y :: rest) ∧ f x = early ++ [a] ∧
    (∀ z ∈ between, f z = []) ∧ f y = b :: late ∧ front = passed.flatMap f ++ early ∧ back = late ++ rest.flatMap f

variable {xs : List β} {a b : α} {front back : List α}

theorem NeighboursWithin.cons (within : NeighboursWithin f xs a b front back) (x : β) :
    NeighboursWithin f (x :: xs) a b (f x ++ front) back := by
  obtain ⟨passed, y, rest, early, late, rfl, inside, rfl, rfl⟩ := within
  exact ⟨x :: passed, y, rest, early, late, rfl, inside, by simp, rfl⟩

theorem NeighboursAcross.cons (across : NeighboursAcross f xs a b front back) (x : β) :
    NeighboursAcross f (x :: xs) a b (f x ++ front) back := by
  obtain ⟨passed, y, between, z, rest, early, late, rfl, last, empty, first, rfl, rfl⟩ := across
  exact ⟨x :: passed, y, between, z, rest, early, late, rfl, last, empty, first, by simp, rfl⟩

theorem flatMap_eq_neighbours_iff :
    xs.flatMap f = front ++ a :: b :: back ↔
      NeighboursWithin f xs a b front back ∨ NeighboursAcross f xs a b front back := by
  constructor
  · intro whole
    induction xs generalizing front with
    | nil => simp at whole
    | cons x xs ih =>
        rw [List.flatMap_cons] at whole
        rcases append_eq_neighbours whole with ⟨late, inside, rfl⟩ | ⟨last, next⟩ | ⟨more, rfl, later⟩
        · exact .inl ⟨[], x, xs, front, late, rfl, inside, rfl, rfl⟩
        · obtain ⟨between, y, rest, late, rfl, empty, first, rfl⟩ := exists_of_flatMap_eq_cons next
          exact .inr ⟨[], x, between, y, rest, front, late, rfl, last, empty, first, rfl, rfl⟩
        · exact (ih later).imp (·.cons x) (·.cons x)
  · rintro (⟨passed, x, rest, early, late, rfl, inside, rfl, rfl⟩ |
      ⟨passed, x, between, y, rest, early, late, rfl, last, empty, first, rfl, rfl⟩)
    · simp [inside]
    · have nothing : between.flatMap f = [] := List.flatMap_eq_nil_iff.2 empty
      simp [last, first, nothing]

end LogStyle
