/-
Locks and the lists of what each party has locked.

A transfer moves at most one resource between the free ones and the list of one
owner.  What is locked stays listed exactly once.
-/

import Mathlib.Data.List.Nodup
import Mathlib.Logic.Function.Basic

namespace AmebaTests.Foundation

variable {Owner Resource : Type}

structure Holdings (Owner Resource : Type) where
  locked : Resource → Bool
  owned : Owner → List Resource

/-- One owner rearranges what it owns, locks a free resource or frees one of
its own; the other owners keep their lists. -/
inductive Transfer [DecidableEq Resource] (owner : Owner) (before after : Holdings Owner Resource) : Prop
  | keep (locks : after.locked = before.locked)
      (same : (after.owned owner).Perm (before.owned owner))
      (others : ∀ other, other ≠ owner → after.owned other = before.owned other)
  | acquire (resource : Resource) (free : before.locked resource = false)
      (locks : after.locked = Function.update before.locked resource true)
      (more : (after.owned owner).Perm (resource :: before.owned owner))
      (others : ∀ other, other ≠ owner → after.owned other = before.owned other)
  | release (resource : Resource)
      (locks : after.locked = Function.update before.locked resource false)
      (less : (before.owned owner).Perm (resource :: after.owned owner))
      (others : ∀ other, other ≠ owner → after.owned other = before.owned other)

structure Exclusive (holdings : Holdings Owner Resource) : Prop where
  distinct : ∀ owner, (holdings.owned owner).Nodup
  apart : ∀ owner other, owner ≠ other →
    ∀ resource ∈ holdings.owned owner, resource ∉ holdings.owned other
  locked : ∀ owner, ∀ resource ∈ holdings.owned owner, holdings.locked resource = true
  accounted : ∀ resource, holdings.locked resource = true →
    ∃ owner, resource ∈ holdings.owned owner

/-- The steps of one party free a lock, the first of them or the second. -/
def FreedSoon {State : Type} (own : State → Option State) (locked : State → Bool)
    (state : State) : Prop :=
  ∃ after, own state = some after ∧
    (locked after = false ∨ ∃ last, own after = some last ∧ locked last = false)

namespace Exclusive

variable {before after : Holdings Owner Resource} {owner : Owner}

theorem of_nothing (free : ∀ resource, before.locked resource = false)
    (nothing : ∀ owner, before.owned owner = []) : Exclusive before := by
  refine ⟨?_, ?_, ?_, ?_⟩
  · intro party
    rw [nothing]
    exact List.nodup_nil
  · intro first second _ resource member
    rw [nothing] at member
    exact absurd member List.not_mem_nil
  · intro party resource member
    rw [nothing] at member
    exact absurd member List.not_mem_nil
  · intro resource locked
    rw [free] at locked
    exact absurd locked (by simp)

theorem locked_iff (exclusive : Exclusive before) (owner : Owner) (resource : Resource) :
    before.locked resource = true ↔ resource ∈ before.owned owner ∨
      ∃ other, other ≠ owner ∧ resource ∈ before.owned other := by
  constructor
  · intro locked
    obtain ⟨party, member⟩ := exclusive.accounted resource locked
    by_cases same : party = owner
    · exact .inl (same ▸ member)
    · exact .inr ⟨party, same, member⟩
  · rintro (member | ⟨other, _, member⟩)
    · exact exclusive.locked owner resource member
    · exact exclusive.locked other resource member

theorem not_mem_of_free (exclusive : Exclusive before) {resource : Resource}
    (free : before.locked resource = false) (other : Owner) :
    resource ∉ before.owned other := by
  intro member
  have locked := exclusive.locked other resource member
  rw [free] at locked
  exact absurd locked (by simp)

/-- One owner's list is replaced by another without what the others own, and
the locks agree with the lists again. -/
theorem reassign (exclusive : Exclusive before)
    (others : ∀ other, other ≠ owner → after.owned other = before.owned other)
    (distinct : (after.owned owner).Nodup)
    (inside : ∀ resource ∈ after.owned owner, ∀ other, other ≠ owner →
      resource ∉ before.owned other)
    (locks : ∀ resource, after.locked resource = true ↔ resource ∈ after.owned owner ∨
      ∃ other, other ≠ owner ∧ resource ∈ before.owned other) :
    Exclusive after := by
  refine ⟨?_, ?_, ?_, ?_⟩
  · intro party
    by_cases mover : party = owner
    · rwa [mover]
    · rw [others party mover]
      exact exclusive.distinct party
  · intro first second differ resource member
    by_cases firstMoved : first = owner
    · subst firstMoved
      rw [others second differ.symm]
      exact inside resource member second differ.symm
    · rw [others first firstMoved] at member
      by_cases secondMoved : second = owner
      · subst secondMoved
        intro both
        exact inside resource both first firstMoved member
      · rw [others second secondMoved]
        exact exclusive.apart first second differ resource member
  · intro party resource member
    apply (locks resource).mpr
    by_cases mover : party = owner
    · exact .inl (mover ▸ member)
    · rw [others party mover] at member
      exact .inr ⟨party, mover, member⟩
  · intro resource locked
    rcases (locks resource).mp locked with mine | ⟨other, differs, member⟩
    · exact ⟨owner, mine⟩
    · exact ⟨other, by rwa [others other differs]⟩

theorem transfer [DecidableEq Resource] (exclusive : Exclusive before) (moved : Transfer owner before after) :
    Exclusive after := by
  cases moved with
  | keep locks same others =>
      refine exclusive.reassign others (same.nodup_iff.mpr (exclusive.distinct owner)) ?_ ?_
      · intro resource member other differs
        exact exclusive.apart owner other differs.symm resource (same.mem_iff.mp member)
      · intro resource
        rw [locks, exclusive.locked_iff owner, same.mem_iff]
  | acquire taken free locks more others =>
      have absent := exclusive.not_mem_of_free free
      have distinct : (taken :: before.owned owner).Nodup :=
        List.nodup_cons.mpr ⟨absent owner, exclusive.distinct owner⟩
      refine exclusive.reassign others (more.nodup_iff.mpr distinct) ?_ ?_
      · intro resource member other differs
        rcases List.mem_cons.mp (more.mem_iff.mp member) with rfl | old
        · exact absent other
        · exact exclusive.apart owner other differs.symm resource old
      · intro resource
        rw [locks, more.mem_iff, List.mem_cons]
        by_cases same : resource = taken
        · simp [same]
        · rw [Function.update_of_ne same, exclusive.locked_iff owner]
          simp only [same, false_or]
  | release freed locks less others =>
      obtain ⟨fresh, distinct⟩ := List.nodup_cons.mp
        (less.nodup_iff.mp (exclusive.distinct owner))
      have mine : freed ∈ before.owned owner := less.mem_iff.mpr List.mem_cons_self
      refine exclusive.reassign others distinct ?_ ?_
      · intro resource member other differs
        exact exclusive.apart owner other differs.symm resource
          (less.mem_iff.mpr (List.mem_cons_of_mem freed member))
      · intro resource
        rw [locks]
        by_cases same : resource = freed
        · subst same
          simp only [Function.update_self, Bool.false_eq_true, false_iff, not_or, not_exists,
            not_and]
          exact ⟨fresh, fun other differs =>
            exclusive.apart owner other differs.symm resource mine⟩
        · rw [Function.update_of_ne same, exclusive.locked_iff owner, less.mem_iff,
            List.mem_cons]
          simp only [same, false_or]

end Exclusive

end AmebaTests.Foundation
