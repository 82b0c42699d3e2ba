/-
What the pages of the queue contain.

For each page it is known whether it may be damaged, holds its pattern, holds it
with the first half inverted, or is empty.  The words that are wrong in a page
that may be damaged are due: a check has still to count them.
-/

import AmebaTests.Foundation.Census
import AmebaTests.Stressapptest.Threads

namespace AmebaTests.Stressapptest

open Foundation

inductive Content (Ref : Type)
  | unchecked (ref : Ref)
  | clean (ref : Ref)
  | inverted (ref : Ref)
  | empty

namespace Content

variable {Ref : Type}

def shape : Content Ref → Shape
  | .unchecked _ => .unchecked
  | .clean _ => .clean
  | .inverted _ => .inverted
  | .empty => .empty

def ref : Content Ref → Option Ref
  | .unchecked ref | .clean ref | .inverted ref => some ref
  | .empty => none

end Content

variable {Thread : Type}

namespace Sat

variable (sat : Sat Thread)

/-- The address of the page with this number. -/
def base (index : Nat) : Nat := sat.testmem + index * sat.queue.pageSize / 8

/-- Memory has in a page what its content says. -/
def Contains (memory : Memory) (index : Nat) : Content sat.Ref → Prop
  | .unchecked ref => ∀ block < sat.setup.blocks,
      damage sat.setup (sat.setup.pattern ref) memory (sat.base index + block * blockwords) ≤ 2
  | .clean ref => Holds sat.setup (sat.setup.pattern ref) (sat.base index) memory
  | .inverted ref => Holds sat.setup (sat.setup.pattern ref) (sat.base index)
      (Stressapptest.inverted (sat.base index) (sat.setup.blocks * 256) memory)
  | .empty => ∀ i ∈ tagged sat.setup (List.range sat.setup.words),
      memory (sat.base index + i) = addrToTag (sat.base index + i)

/-- The wrong words of a page that no check has counted. -/
def due (memory : Memory) (index : Nat) : Content sat.Ref → Nat
  | .unchecked ref => wrongAt sat.setup (sat.setup.pattern ref) memory (sat.base index)
      (List.range sat.setup.words)
  | .clean _ | .inverted _ | .empty => 0

end Sat

/-! ### Where a page lies -/

section Addresses

variable {sat : Sat Thread}

theorem Sat.eight_words : 8 * sat.setup.words = sat.setup.pageLength := by
  have := sat.length
  rw [Setup.words]
  omega

theorem Sat.base_eq (index : Nat) :
    sat.base index = sat.testmem + index * sat.setup.words := by
  rw [Sat.base, sat.pageSize, ← sat.eight_words, Nat.mul_left_comm,
    Nat.mul_div_cancel_left _ (by decide)]

theorem Sat.base_apart {first second : Nat} (differ : first ≠ second) :
    Apart (sat.base first) (sat.base second) sat.setup.words := by
  rw [Sat.base_eq, Sat.base_eq]
  rcases Nat.lt_or_gt_of_ne differ with less | greater
  · left
    have := Nat.mul_le_mul_right sat.setup.words less
    rw [Nat.succ_mul] at this
    omega
  · right
    have := Nat.mul_le_mul_right sat.setup.words greater
    rw [Nat.succ_mul] at this
    omega

theorem Sat.blocks_words : sat.setup.blocks * blockwords ≤ sat.setup.words := by
  unfold Setup.words Setup.blocks blockwords
  omega

variable {memory other : Memory} {index : Nat}

/-- Only the words of a page decide what it contains. -/
theorem Sat.Contains.congr {content : Content sat.Ref}
    (contains : sat.Contains memory index content)
    (same : ∀ i < sat.setup.words, other (sat.base index + i) = memory (sat.base index + i)) :
    sat.Contains other index content := by
  cases content with
  | unchecked ref =>
      intro block inside
      have blocks := @Sat.blocks_words _ sat
      have below : (block + 1) * blockwords ≤ sat.setup.blocks * blockwords :=
        Nat.mul_le_mul_right blockwords inside
      rw [Nat.succ_mul] at below
      have kept : ∀ i < blockwords, other (sat.base index + block * blockwords + i) =
          memory (sat.base index + block * blockwords + i) := by
        intro i within
        have place : block * blockwords + i < sat.setup.words := by omega
        rw [Nat.add_assoc, same _ place]
      rw [damage_congr kept]
      exact contains block inside
  | clean ref =>
      intro i inside
      rw [same i inside]
      exact contains i inside
  | inverted ref =>
      intro i inside
      rw [← contains i inside, Stressapptest.inverted, Stressapptest.inverted, same i inside]
  | empty =>
      intro i member
      rw [same i (mem_tagged.mp member).1]
      exact contains i member

theorem Sat.due_congr (content : Content sat.Ref)
    (same : ∀ i < sat.setup.words, other (sat.base index + i) = memory (sat.base index + i)) :
    sat.due other index content = sat.due memory index content := by
  cases content with
  | unchecked ref => exact wrongAt_congr fun i member => same i (List.mem_range.mp member)
  | clean | inverted | empty => rfl

end Addresses

/-! ### What a check finds -/

section Checks

variable {setup : Setup} {pattern : Pattern} {addr : Nat} {memory : Memory}

/-- A page that holds its pattern has no damage. -/
theorem damage_of_holds (holds : Holds setup pattern addr memory) {block : Nat}
    (inside : block < setup.blocks) :
    damage setup pattern memory (addr + block * blockwords) = 0 := by
  have blocks : setup.blocks * blockwords ≤ setup.words := by
    unfold Setup.words Setup.blocks blockwords
    omega
  have below : (block + 1) * blockwords ≤ setup.blocks * blockwords :=
    Nat.mul_le_mul_right blockwords inside
  rw [Nat.succ_mul] at below
  have seen : ∀ i < blockwords,
      seenWord setup pattern memory (addr + block * blockwords) i = pattern.word i := by
    intro i within
    have place : block * blockwords + i < setup.words := by omega
    rw [seenWord]
    by_cases tag : setup.tagMode ∧ i &&& 7 = 0
    · rw [if_pos tag]
    · rw [if_neg tag, Nat.add_assoc, holds _ place, ← fillWord_block, fillWord, if_neg tag]
  rw [damage, units_congr seen, RunningSums.distance_eq_zero_iff rfl]

theorem wrongAt_of_holds (holds : Holds setup pattern addr memory) :
    wrongAt setup pattern memory addr (List.range setup.words) = 0 :=
  wrongAt_eq_zero.mpr fun i member => holds i (List.mem_range.mp member)

theorem tags_of_holds (holds : Holds setup pattern addr memory) :
    ∀ i ∈ tagged setup (List.range setup.words), memory (addr + i) = addrToTag (addr + i) := by
  intro i member
  obtain ⟨inside, tag⟩ := mem_tagged.mp member
  rw [holds i inside, fillWord, if_pos tag]

variable {sat : Sat Thread} {index : Nat} {content : Content sat.Ref} {ref : sat.Ref}

theorem Content.ref_of_shape {Ref : Type} {content : Content Ref}
    (nonempty : content.shape ≠ .empty) : ∃ ref, content.ref = some ref := by
  cases content with
  | unchecked ref | clean ref | inverted ref => exact ⟨ref, rfl⟩
  | empty => exact absurd rfl nonempty

/-- What a check finds in a page that may be checked. -/
theorem Sat.Contains.checkable (contains : sat.Contains memory index content)
    (shape : content.shape = .unchecked ∨ content.shape = .clean) (known : content.ref = some ref) :
    (∀ block < sat.setup.blocks,
        damage sat.setup (sat.setup.pattern ref) memory
          (sat.base index + block * blockwords) ≤ 2) ∧
      sat.due memory index content = wrongAt sat.setup (sat.setup.pattern ref) memory
        (sat.base index) (List.range sat.setup.words) := by
  cases content with
  | unchecked other =>
      obtain rfl := Option.some.inj known
      exact ⟨contains, rfl⟩
  | clean other =>
      obtain rfl := Option.some.inj known
      refine ⟨fun block inside => ?_, (wrongAt_of_holds contains).symm⟩
      rw [damage_of_holds contains inside]
      exact Nat.zero_le 2
  | inverted | empty => simp [Content.shape] at shape

end Checks

end AmebaTests.Stressapptest
