/-
Computations that may stop with an error, peeled apart one bind at a time.
-/

import Mathlib.Init

namespace AmebaTests.Foundation

variable {Error Value Result : Type}

/-- A sequence that returned has returned from each of its parts. -/
theorem bind_returned {first : Except Error Value} {rest : Value → Except Error Result}
    {result : Result} (returned : (first >>= rest) = .ok result) :
    ∃ value, first = .ok value ∧ rest value = .ok result := by
  cases first with
  | error failure => cases returned
  | ok value => exact ⟨value, rfl, returned⟩

theorem guard_returned {condition : Prop} [Decidable condition] {failure : Error}
    {rest : Except Error Result} {result : Result}
    (returned : (if condition then .error failure else rest) = .ok result) :
    ¬ condition ∧ rest = .ok result := by
  split at returned
  · cases returned
  · exact ⟨‹_›, returned⟩

end AmebaTests.Foundation
