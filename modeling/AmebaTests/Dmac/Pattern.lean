/-
What the test pattern of the DMAC test can expose.

In round `t` the word at offset `i` is `i * 0x01010101 + t + 1` modulo 2^32.
Within a round the words of the cyclic buffer are pairwise different, and two
rounds differ at every offset.  The last word of the first round is zero, which
is what freshly allocated memory holds.
-/

import AmebaTests.Dmac.Buffer
import Mathlib.Algebra.Ring.Nat

namespace AmebaTests.Dmac

/-- The number of words in the cyclic buffer. -/
abbrev cyclicWords : Nat := memSize .cyclic / 4

/-! ### One word -/

/-- `i << 24 | i << 16 | i << 8 | i` for an index of one byte. -/
theorem replicated_eq {i : Nat} (byte : i < 256) :
    (i <<< 24 ||| i <<< 16 ||| i <<< 8 ||| i) = 16843009 * i := by
  have first : i <<< 24 ||| i <<< 16 = 2 ^ 16 * (257 * i) := by
    have disjoint := Nat.two_pow_add_eq_or_of_lt (i := 24) (b := i <<< 16)
      (by rw [Nat.shiftLeft_eq]; omega) i
    rw [Nat.shiftLeft_eq, Nat.mul_comm i, ← disjoint, Nat.shiftLeft_eq]
    omega
  have second : 2 ^ 16 * (257 * i) ||| i <<< 8 = 2 ^ 8 * (65793 * i) := by
    have disjoint := Nat.two_pow_add_eq_or_of_lt (i := 16) (b := i <<< 8)
      (by rw [Nat.shiftLeft_eq]; omega) (257 * i)
    rw [← disjoint, Nat.shiftLeft_eq]
    omega
  have third := Nat.two_pow_add_eq_or_of_lt (i := 8) (b := i) byte (65793 * i)
  rw [first, second, ← third]
  omega

theorem testWord_eq {i : Nat} (byte : i < 256) (dmaTestTimes : Nat) :
    testWord dmaTestTimes i = BitVec.ofNat 32 (16843009 * i + dmaTestTimes + 1) := by
  have index : i % 2 ^ 32 = i := Nat.mod_eq_of_lt (by omega)
  have pattern := replicated_eq byte
  apply BitVec.eq_of_toNat_eq
  simp only [testWord, BitVec.toNat_add, BitVec.toNat_or, BitVec.toNat_shiftLeft,
    BitVec.toNat_ofNat, index]
  have high (shift : Nat) (small : shift ≤ 24) : i <<< shift % 2 ^ 32 = i <<< shift := by
    apply Nat.mod_eq_of_lt
    rw [Nat.shiftLeft_eq]
    calc i * 2 ^ shift ≤ i * 2 ^ 24 := Nat.mul_le_mul_left i (Nat.pow_le_pow_right (by decide) small)
      _ < 2 ^ 32 := by omega
  have one : (1 : Word).toNat = 1 := rfl
  rw [high 24 (by decide), high 16 (by decide), high 8 (by decide), pattern, one]
  omega

/-- Within a round no word of the buffer is written twice. -/
theorem testWord_injective {i j : Nat} (first : i < 256) (second : j < 256) {dmaTestTimes : Nat}
    (same : testWord dmaTestTimes i = testWord dmaTestTimes j) : i = j := by
  rw [testWord_eq first, testWord_eq second] at same
  have values := congrArg BitVec.toNat same
  rw [BitVec.toNat_ofNat, BitVec.toNat_ofNat] at values
  omega

/-- At one offset no two rounds write the same word. -/
theorem testWord_rounds_injective {i : Nat} (byte : i < 256) {round earlier : Nat}
    (bounded : round < 2 ^ 32) (before : earlier < round) :
    testWord round i ≠ testWord earlier i := by
  intro same
  rw [testWord_eq byte, testWord_eq byte] at same
  have values := congrArg BitVec.toNat same
  rw [BitVec.toNat_ofNat, BitVec.toNat_ofNat] at values
  omega

/-- In the first round exactly the last word of the buffer is zero. -/
theorem testWord_zero_iff {i : Nat} (byte : i < 256) : testWord 0 i = 0 ↔ i = 255 := by
  rw [testWord_eq byte]
  constructor
  · intro zero
    have value := congrArg BitVec.toNat zero
    rw [BitVec.toNat_ofNat] at value
    change _ = 0 at value
    omega
  · intro last
    rw [last]
    rfl

/-! ### The buffer of a round -/

/-- `buf_src` in a round.  The rounds write into one buffer, from the memory that
`dma_alloc_coherent` returned on. -/
def bufSrcAt (memory : Words) : Nat → Words
  | 0 => rtkPrepareTestBuf memory 0 .cyclic
  | round + 1 => rtkPrepareTestBuf (bufSrcAt memory round) (round + 1) .cyclic

theorem bufSrcAt_apply (memory : Words) (round : Nat) {offset : Nat} (inside : offset < cyclicWords) :
    bufSrcAt memory round offset = testWord round offset := by
  cases round with
  | zero => rw [bufSrcAt, rtkPrepareTestBuf_apply, if_pos inside]
  | succ round => rw [bufSrcAt, rtkPrepareTestBuf_apply, if_pos inside]

/-- What a word of `buf_dst` may hold before the transfer of a round: the zero it
was allocated with, or the word of an earlier round. -/
def HeldBefore (memory : Words) (round offset : Nat) (word : Word) : Prop :=
  (round = 0 ∧ word = 0) ∨ ∃ earlier < round, word = bufSrcAt memory earlier offset

/-- A destination to which the words at the offsets `missing`, and only these, have
not been transferred. -/
structure PartlyTransferred (memory : Words) (round : Nat) (missing : Fin cyclicWords → Prop)
    (dst : Words) : Prop where
  nonempty : ∃ offset, missing offset
  held : ∀ offset, missing offset → HeldBefore memory round offset (dst offset)
  transferred : ∀ offset : Fin cyclicWords, ¬ missing offset →
    dst offset = bufSrcAt memory round offset

theorem held_word_eq_iff {memory : Words} {round : Nat} (bounded : round < 2 ^ 32)
    {offset : Fin cyclicWords} {word : Word} (held : HeldBefore memory round offset word) :
    bufSrcAt memory round offset = word ↔ round = 0 ∧ offset.val = 255 := by
  have byte : offset.val < 256 := offset.isLt
  rw [bufSrcAt_apply memory round offset.isLt]
  rcases held with ⟨first, zero⟩ | ⟨earlier, before, old⟩
  · rw [first, zero, testWord_zero_iff byte]
    exact (and_iff_right rfl).symm
  · rw [old, bufSrcAt_apply memory earlier offset.isLt]
    constructor
    · intro same
      exact absurd same (testWord_rounds_injective byte bounded before)
    · intro boundary
      omega

/-- `buf_compare` finds untransferred words in every round, unless it is the first
one and only the last word is missing. -/
theorem untransferred_rejected_iff (memory : Words) {round : Nat} (bounded : round < 2 ^ 32)
    {missing : Fin cyclicWords → Prop} {dst : Words}
    (left : PartlyTransferred memory round missing dst) :
    bufCompare (bufSrcAt memory round) dst (memSize .cyclic) = false ↔
      ¬ (round = 0 ∧ ∀ offset, missing offset → offset.val = 255) := by
  rw [← Bool.not_eq_true, not_iff_not, bufCompare_eq_true_iff]
  constructor
  · intro equal
    have boundary (offset : Fin cyclicWords) (lost : missing offset) :
        round = 0 ∧ offset.val = 255 :=
      (held_word_eq_iff bounded (left.held offset lost)).mp (equal offset offset.isLt)
    obtain ⟨offset, lost⟩ := left.nonempty
    exact ⟨(boundary offset lost).1, fun other gone => (boundary other gone).2⟩
  · intro boundary offset inside
    by_cases lost : missing ⟨offset, inside⟩
    · have held := left.held ⟨offset, inside⟩ lost
      exact (held_word_eq_iff bounded held).mpr ⟨boundary.1, boundary.2 _ lost⟩
    · exact (left.transferred ⟨offset, inside⟩ lost).symm

/-- The buffer of a round in which the word at one offset has stayed zero. -/
def withoutWord (memory : Words) (round offset : Nat) : Words :=
  Function.update (bufSrcAt memory round) offset 0

theorem withoutWord_partlyTransferred (memory : Words) (offset : Fin cyclicWords) :
    PartlyTransferred memory 0 (· = offset) (withoutWord memory 0 offset) where
  nonempty := ⟨offset, rfl⟩
  held := by
    intro other same
    rw [same]
    exact Or.inl ⟨rfl, Function.update_self _ _ _⟩
  transferred := by
    intro other different
    exact Function.update_of_ne (fun same => different (Fin.ext same)) _ _

theorem untransferred_fourth_word_rejected :
    bufCompare (bufSrcAt (fun _ => 0) 0) (withoutWord (fun _ => 0) 0 3) (memSize .cyclic) = false :=
  (untransferred_rejected_iff (fun _ => 0) (by decide)
    (withoutWord_partlyTransferred (fun _ => 0) ⟨3, by decide⟩)).mpr
    fun unseen => absurd (unseen.2 ⟨3, by decide⟩ rfl) (by decide)

/-- The last word of the first round may be missing unnoticed. -/
theorem untransferred_last_word_accepted :
    PartlyTransferred (fun _ => 0) 0 (· = ⟨255, by decide⟩) (withoutWord (fun _ => 0) 0 255) ∧
      bufCompare (bufSrcAt (fun _ => 0) 0) (withoutWord (fun _ => 0) 0 255) (memSize .cyclic) =
        true := by
  have left := withoutWord_partlyTransferred (fun _ => 0) ⟨255, by decide⟩
  refine ⟨left, (bufCompare_eq_true_iff _ _ _).mpr ?_⟩
  intro offset inside
  by_cases last : offset = 255
  · have written := bufSrcAt_apply (fun _ => 0) 0 inside
    rw [withoutWord, last, Function.update_self]
    rw [last] at written
    exact written.trans ((testWord_zero_iff (by decide)).mpr rfl)
  · exact (Function.update_of_ne last _ _).symm

/-! ### Displaced words -/

/-- A destination that holds each word of the buffer somewhere, or some words
several times, is accepted only if every word is in its place. -/
theorem displaced_rejected (bufSrc : Words) (round : Nat)
    (moved : Fin cyclicWords → Fin cyclicWords) (displaced : moved ≠ id) {dst : Words}
    (copied : ∀ offset : Fin cyclicWords,
      dst offset = rtkPrepareTestBuf bufSrc round .cyclic (moved offset)) :
    bufCompare (rtkPrepareTestBuf bufSrc round .cyclic) dst (memSize .cyclic) = false := by
  rw [← Bool.not_eq_true, bufCompare_eq_true_iff]
  intro equal
  apply displaced
  funext offset
  have same := equal offset offset.isLt
  rw [copied offset, rtkPrepareTestBuf_apply, rtkPrepareTestBuf_apply, if_pos offset.isLt,
    if_pos (moved offset).isLt] at same
  exact Fin.ext (testWord_injective offset.isLt (moved offset).isLt same).symm

/-- The first two words exchanged. -/
theorem displaced_rejected_swap :
    bufCompare (rtkPrepareTestBuf (fun _ => 0) 7 .cyclic)
      (fun offset => rtkPrepareTestBuf (fun _ => 0) 7 .cyclic
        (if offset = 0 then 1 else if offset = 1 then 0 else offset))
      (memSize .cyclic) = false := by
  apply displaced_rejected (fun _ => 0) 7 fun offset =>
    if offset.val = 0 then ⟨1, by decide⟩
    else if offset.val = 1 then ⟨0, by decide⟩
    else offset
  · intro identity
    exact absurd (congrFun identity ⟨0, by decide⟩) (by decide)
  · intro offset
    split
    · rfl
    · split
      · rfl
      · rfl

end AmebaTests.Dmac
