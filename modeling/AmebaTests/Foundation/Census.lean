/-
Counts over finitely many parties.

A step of one party changes a sum over all of them by its own part, and the
number of parties in some place by one at most.
-/

import Mathlib.Algebra.BigOperators.Group.Finset.Piecewise
import Mathlib.Data.Fintype.Card

namespace AmebaTests.Foundation

/-- One account changes a sum by its own difference. -/
theorem sum_change {Account : Type} [DecidableEq Account] {accounts : Finset Account}
    {before after : Account → Nat} {account : Account} (member : account ∈ accounts)
    (others : ∀ other ∈ accounts, other ≠ account → after other = before other) :
    ∑ other ∈ accounts, after other + before account =
      ∑ other ∈ accounts, before other + after account := by
  have rest : ∑ other ∈ accounts.erase account, after other =
      ∑ other ∈ accounts.erase account, before other :=
    Finset.sum_congr rfl fun other inside =>
      others other (Finset.mem_of_mem_erase inside) (Finset.ne_of_mem_erase inside)
  rw [← Finset.add_sum_erase accounts after member, ← Finset.add_sum_erase accounts before member,
    rest]
  omega

variable {Party Place : Type} [Fintype Party]

/-- The parties in such a place. -/
def census (places : Party → Place) (holds : Place → Bool) : Nat :=
  (Finset.univ.filter fun party => holds (places party)).card

variable {places : Party → Place} {holds implied : Place → Bool}

theorem census_eq_sum : census places holds = ∑ party, (holds (places party)).toNat := by
  rw [census, Finset.card_filter]
  refine Finset.sum_congr rfl fun party _ => ?_
  cases holds (places party) <;> rfl

theorem census_update [DecidableEq Party] (party : Party) (place : Place) :
    census (Function.update places party place) holds + (holds (places party)).toNat =
      census places holds + (holds place).toNat := by
  rw [census_eq_sum, census_eq_sum]
  have moved := @sum_change Party _ Finset.univ (fun other => (holds (places other)).toNat)
    (fun other => (holds (Function.update places party place other)).toNat) party
    (Finset.mem_univ party) fun other _ differs => by rw [Function.update_of_ne differs]
  rwa [Function.update_self] at moved

theorem census_eq_zero : census places holds = 0 ↔ ∀ party, holds (places party) = false := by
  rw [census, Finset.card_eq_zero, Finset.filter_eq_empty_iff]
  exact ⟨fun none party => Bool.eq_false_iff.mpr (none (Finset.mem_univ party)),
    fun none party _ => Bool.eq_false_iff.mp (none party)⟩

theorem census_mono (implies : ∀ party, holds (places party) = true →
    implied (places party) = true) : census places holds ≤ census places implied :=
  Finset.card_le_card (Finset.monotone_filter_right _ fun party _ => implies party)

/-- Where the smaller of two counts has come to the larger, it is for the same parties. -/
theorem of_census_le (implies : ∀ party, holds (places party) = true →
    implied (places party) = true) (all : census places implied ≤ census places holds)
    (party : Party) (inside : implied (places party) = true) : holds (places party) = true := by
  have same := Finset.eq_of_subset_of_card_le
    (Finset.monotone_filter_right Finset.univ fun other _ => implies other) all
  have member : party ∈ Finset.univ.filter fun party => implied (places party) :=
    Finset.mem_filter.mpr ⟨Finset.mem_univ party, inside⟩
  rw [← same] at member
  exact (Finset.mem_filter.mp member).2

end AmebaTests.Foundation
