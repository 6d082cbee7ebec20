/-! # Outcomes

When a computation that may fail has succeeded: a mapped one, and one that goes on with another. The
readers of messages prove by these that what they leave is shorter than what they were given.
-/

namespace LogStyle

namespace Outcome

variable {ε α β : Type}

/-- A mapped computation succeeds exactly when the computation does. -/
theorem map_eq_ok {f : α → β} {r : Except ε α} {b : β} :
    r.map f = .ok b ↔ ∃ a, r = .ok a ∧ f a = b := by
  cases r with
  | error e => simp [Except.map]
  | ok a => simp [Except.map]

/-- A sequence succeeds exactly when its parts do, one after the other. -/
theorem bind_eq_ok {f : α → Except ε β} {r : Except ε α} {b : β} :
    (r >>= f) = .ok b ↔ ∃ a, r = .ok a ∧ f a = .ok b := by
  cases r with
  | error e => simp [bind, Except.bind]
  | ok a => simp [bind, Except.bind]

theorem mapError_error {ε' : Type} (f : ε → ε') (e : ε) :
    (.error e : Except ε α).mapError f = .error (f e) := rfl

theorem mapError_ok {ε' : Type} (f : ε → ε') (a : α) : (.ok a : Except ε α).mapError f = .ok a := rfl

/-- What is thrown is no success. -/
theorem throw_ne_ok {e : ε} {a : α} : (throw e : Except ε α) ≠ .ok a := by
  simp [throw, throwThe, MonadExceptOf.throw]

end Outcome

end LogStyle
