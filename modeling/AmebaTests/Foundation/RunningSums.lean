/-
Sums of a list of units together with the sums of its prefixes.

A checksum keeps both, modulo some number.  Two lists of one length that agree
in both, and whose units are small against the modulus, are equal or differ in
at least three places: two differences that cancel in the plain sum have
different weights in the sum of the prefixes.
-/

import Mathlib.Algebra.BigOperators.Group.List.Basic
import Mathlib.Algebra.Order.Group.Unbundled.Int
import Mathlib.Algebra.Order.Ring.Abs
import Mathlib.Algebra.Ring.Int.Defs
import Mathlib.Data.Int.ModEq
import Mathlib.Data.Nat.Cast.Basic
import Mathlib.Tactic.Linarith
import Mathlib.Tactic.LinearCombination
import Mathlib.Tactic.Ring

namespace AmebaTests.Foundation.RunningSums

/-- The sum of all prefixes but the empty one: a unit counts once for each place
from its own to the last. -/
def prefixSum {R : Type} [Semiring R] : List R → R
  | [] => 0
  | unit :: rest => (rest.length + 1) * unit + prefixSum rest

theorem prefixSum_concat {R : Type} [CommSemiring R] (units : List R) (last : R) :
    prefixSum (units ++ [last]) = prefixSum units + units.sum + last := by
  induction units with
  | nil => simp [prefixSum]
  | cons unit rest ih =>
      rw [List.cons_append, prefixSum, prefixSum, ih, List.sum_cons, List.length_append,
        List.length_singleton]
      push_cast
      ring

theorem prefixSum_le {bound : Nat} {units : List Nat} (small : ∀ unit ∈ units, unit ≤ bound) :
    prefixSum units ≤ units.length * units.length * bound := by
  induction units with
  | nil => exact Nat.zero_le _
  | cons unit rest ih =>
      have tail := ih fun other member => small other (List.mem_cons_of_mem unit member)
      have head : (rest.length + 1) * unit ≤ (rest.length + 1) * bound :=
        Nat.mul_le_mul_left _ (small unit List.mem_cons_self)
      rw [prefixSum, List.length_cons]
      calc (rest.length + 1) * unit + prefixSum rest
          ≤ (rest.length + 1) * bound + rest.length * rest.length * bound :=
            Nat.add_le_add head tail
        _ ≤ (rest.length + 1) * (rest.length + 1) * bound := by
            rw [← Nat.add_mul]
            apply Nat.mul_le_mul_right
            ring_nf
            omega

/-- The places where two lists differ. -/
def distance {α : Type} [DecidableEq α] (units others : List α) : Nat :=
  (List.zip units others).countP fun pair => pair.1 ≠ pair.2

theorem distance_append {α : Type} [DecidableEq α] {units others : List α}
    (same : units.length = others.length) (more rest : List α) :
    distance (units ++ more) (others ++ rest) = distance units others + distance more rest := by
  rw [distance, List.zip_append same, List.countP_append]
  rfl

theorem distance_eq_zero_iff {α : Type} [DecidableEq α] {units others : List α}
    (same : units.length = others.length) : distance units others = 0 ↔ units = others := by
  induction units generalizing others with
  | nil =>
      obtain rfl := List.length_eq_zero_iff.mp same.symm
      exact ⟨fun _ => rfl, fun _ => rfl⟩
  | cons unit rest ih =>
      cases others with
      | nil => simp at same
      | cons other others =>
          have tail := ih (Nat.succ.inj same)
          rw [distance, List.zip_cons_cons]
          by_cases equal : unit = other
          · rw [List.countP_cons_of_neg (by simp [equal]), List.cons.injEq]
            exact tail.trans ⟨fun later => ⟨equal, later⟩, And.right⟩
          · rw [List.countP_cons_of_pos (by simp [equal]), List.cons.injEq]
            exact ⟨fun zero => absurd zero (Nat.succ_ne_zero _), fun both => absurd both.1 equal⟩

theorem distance_map {α β : Type} [DecidableEq α] [DecidableEq β] {f : α → β}
    (injective : Function.Injective f) (units others : List α) :
    distance (units.map f) (others.map f) = distance units others := by
  rw [distance, List.zip_map, List.countP_map]
  apply List.countP_congr
  intro pair _
  simp [injective.eq_iff]

section Differences

theorem sum_of_none {differences : List ℤ} (none : differences.countP (· ≠ 0) = 0) :
    differences.sum = 0 := by
  apply List.sum_eq_zero
  intro unit member
  simpa using List.countP_eq_zero.mp none unit member

theorem abs_sum_lt_of_single {bound : ℤ} {differences : List ℤ} (positive : 0 < bound)
    (small : ∀ unit ∈ differences, |unit| < bound)
    (single : differences.countP (· ≠ 0) ≤ 1) : |differences.sum| < bound := by
  induction differences with
  | nil => simpa using positive
  | cons unit rest ih =>
      rw [List.sum_cons]
      by_cases zero : unit = 0
      · rw [List.countP_cons_of_neg (by simp [zero])] at single
        rw [zero, zero_add]
        exact ih (fun other member => small other (List.mem_cons_of_mem unit member)) single
      · rw [List.countP_cons_of_pos (by simp [zero])] at single
        rw [sum_of_none (by omega), add_zero]
        exact small unit List.mem_cons_self

/-- A list with at most one unit other than zero weighs that unit by its place. -/
theorem prefixSum_of_single {differences : List ℤ}
    (single : differences.countP (· ≠ 0) ≤ 1) :
    ∃ weight : ℤ, 0 ≤ weight ∧ weight ≤ differences.length ∧
      prefixSum differences = weight * differences.sum := by
  induction differences with
  | nil => exact ⟨0, le_rfl, le_rfl, rfl⟩
  | cons unit rest ih =>
      rw [prefixSum, List.sum_cons, List.length_cons]
      by_cases zero : unit = 0
      · rw [List.countP_cons_of_neg (by simp [zero])] at single
        obtain ⟨weight, lower, upper, equal⟩ := ih single
        refine ⟨weight, lower, by push_cast; omega, ?_⟩
        rw [equal, zero]
        ring
      · rw [List.countP_cons_of_pos (by simp [zero])] at single
        have none : rest.countP (· ≠ 0) = 0 := by omega
        obtain ⟨weight, lower, upper, equal⟩ := ih (by omega)
        have zeros := sum_of_none none
        refine ⟨rest.length + 1, by positivity, by push_cast; omega, ?_⟩
        rw [equal, zeros]
        ring

/-- At most two small differences whose sum and prefix sum vanish modulo `M`
all vanish. -/
theorem all_zero_of_sums {M bound : ℤ} {differences : List ℤ} (positive : 0 < bound)
    (small : ∀ unit ∈ differences, |unit| < bound)
    (wide : 2 * bound ≤ M) (long : differences.length * bound ≤ M)
    (sum : M ∣ differences.sum) (prefixes : M ∣ prefixSum differences)
    (two : differences.countP (· ≠ 0) ≤ 2) :
    ∀ unit ∈ differences, unit = 0 := by
  induction differences with
  | nil => simp
  | cons unit rest ih =>
      rw [List.length_cons] at long
      push_cast at long
      rw [List.sum_cons] at sum
      rw [prefixSum] at prefixes
      have rest_small : ∀ other ∈ rest, |other| < bound := fun other member =>
        small other (List.mem_cons_of_mem unit member)
      by_cases zero : unit = 0
      · rw [zero, zero_add] at sum
        rw [zero, mul_zero, zero_add] at prefixes
        rw [List.countP_cons_of_neg (by simp [zero])] at two
        have later := ih rest_small (by linarith) sum prefixes two
        exact List.forall_mem_cons.mpr ⟨zero, later⟩
      · -- The other difference cancels this one, and has a smaller weight.
        rw [List.countP_cons_of_pos (by simp [zero])] at two
        obtain ⟨weight, lower, upper, equal⟩ := prefixSum_of_single (by omega : rest.countP _ ≤ 1)
        have sum_small := abs_sum_lt_of_single positive rest_small (by omega)
        have cancels : unit + rest.sum = 0 := by
          apply Int.eq_zero_of_abs_lt_dvd sum
          calc |unit + rest.sum| ≤ |unit| + |rest.sum| := abs_add_le unit rest.sum
            _ < 2 * bound := by linarith [small unit List.mem_cons_self]
            _ ≤ M := wide
        have weighted : (rest.length + 1 - weight) * unit = 0 := by
          apply Int.eq_zero_of_abs_lt_dvd (m := M)
          · have same : (rest.length + 1 - weight) * unit =
                (rest.length + 1) * unit + prefixSum rest := by
              rw [equal]
              linear_combination -weight * cancels
            rwa [same]
          · rw [abs_mul, abs_of_pos (by omega)]
            calc (rest.length + 1 - weight) * |unit|
                ≤ (rest.length + 1) * |unit| := by
                  apply mul_le_mul_of_nonneg_right _ (abs_nonneg unit)
                  omega
              _ < (rest.length + 1) * bound := by
                  apply mul_lt_mul_of_pos_left (small unit List.mem_cons_self)
                  positivity
              _ ≤ M := long
        rcases mul_eq_zero.mp weighted with none | none
        · omega
        · exact absurd none zero

end Differences

section Lists

/-- The differences of two lists, place by place. -/
def differences (units others : List Nat) : List ℤ :=
  (List.zip units others).map fun pair => (pair.1 : ℤ) - pair.2

theorem sum_differences {units others : List Nat} (same : units.length = others.length) :
    (differences units others).sum = (units.sum : ℤ) - others.sum := by
  induction units generalizing others with
  | nil =>
      obtain rfl := List.length_eq_zero_iff.mp same.symm
      rfl
  | cons unit rest ih =>
      cases others with
      | nil => simp at same
      | cons other others =>
          have tail := ih (Nat.succ.inj same)
          simp only [differences, List.zip_cons_cons, List.map_cons, List.sum_cons] at tail ⊢
          rw [tail]
          push_cast
          ring

theorem prefixSum_differences {units others : List Nat} (same : units.length = others.length) :
    prefixSum (differences units others) =
      ((prefixSum units : Nat) : ℤ) - ((prefixSum others : Nat) : ℤ) := by
  induction units generalizing others with
  | nil =>
      obtain rfl := List.length_eq_zero_iff.mp same.symm
      rfl
  | cons unit rest ih =>
      cases others with
      | nil => simp at same
      | cons other others =>
          have shorter := Nat.succ.inj same
          have tail := ih shorter
          simp only [differences, List.zip_cons_cons, List.map_cons, prefixSum] at tail ⊢
          rw [tail, List.length_map, List.length_zip, shorter, Nat.min_self]
          push_cast
          ring

theorem countP_differences (units others : List Nat) :
    (differences units others).countP (· ≠ 0) = distance units others := by
  rw [differences, List.countP_map, distance]
  apply List.countP_congr
  intro pair _
  simp [sub_eq_zero]

theorem eq_of_differences {units others : List Nat} (same : units.length = others.length)
    (zeros : ∀ unit ∈ differences units others, unit = 0) : units = others := by
  induction units generalizing others with
  | nil => exact (List.length_eq_zero_iff.mp same.symm).symm
  | cons unit rest ih =>
      cases others with
      | nil => simp at same
      | cons other others =>
          obtain ⟨first, later⟩ := List.forall_mem_cons.mp zeros
          have equal : (unit : ℤ) = other := sub_eq_zero.mp first
          rw [ih (Nat.succ.inj same) later, Int.ofNat.inj equal]

/-- Lists with the same sums modulo `M` are equal or far apart. -/
theorem eq_or_far {M bound : Nat} {units others : List Nat} (positive : 0 < bound)
    (same : units.length = others.length)
    (unitsSmall : ∀ unit ∈ units, unit < bound) (othersSmall : ∀ unit ∈ others, unit < bound)
    (wide : 2 * bound ≤ M) (long : units.length * bound ≤ M)
    (sum : units.sum ≡ others.sum [MOD M]) (prefixes : prefixSum units ≡ prefixSum others [MOD M]) :
    units = others ∨ 3 ≤ distance units others := by
  by_cases far : 3 ≤ distance units others
  · exact .inr far
  left
  apply eq_of_differences same
  have positiveInt : (0 : ℤ) < bound := by exact_mod_cast positive
  refine all_zero_of_sums (M := M) positiveInt ?_ (by exact_mod_cast wide) ?_ ?_ ?_ ?_
  · intro unit member
    obtain ⟨pair, inside, rfl⟩ := List.mem_map.mp member
    have left := unitsSmall pair.1 (List.of_mem_zip inside).1
    have right := othersSmall pair.2 (List.of_mem_zip inside).2
    rw [abs_lt]
    omega
  · rw [differences, List.length_map, List.length_zip, same, Nat.min_self, ← same]
    exact_mod_cast long
  · rw [sum_differences same]
    exact (Nat.modEq_iff_dvd.mp sum.symm)
  · rw [prefixSum_differences same]
    exact (Nat.modEq_iff_dvd.mp prefixes.symm)
  · rw [countP_differences]
    omega

end Lists

end AmebaTests.Foundation.RunningSums
